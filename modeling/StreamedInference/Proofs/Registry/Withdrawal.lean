import StreamedInference.Proofs.Net.Continuation
import StreamedInference.Proofs.Net.Percent
import StreamedInference.Proofs.Registry.Identity
import StreamedInference.Registry.Client
import StreamedInference.Text.Blank

/-!
# What a withdrawal names

An instance registers with its id in the body of a request, where any text may stand, and withdraws
with its id at the end of the path of one. The id is put there as it is, so it has to survive as the
last segment of a path: tabs and line ends are left out, a slash of either kind ends the segment,
what follows a question mark or a number sign is no part of the path, and an escape stands for
something else. All that can be in the name with which the id begins. Below the path of an agent's
address a withdrawal names the instance that was registered exactly if nothing of that is.

## Main definitions

* `Url.leaf`: what is left of a text as the last segment of a path.
* `Url.Names`: the last segment of a path, below a given one, stands for a text.
* `Registration.isPlainName`: a name that survives as part of a path.
* `Registry.baseUrl?`, `Registry.urlOf?`: the URLs of an agent and of what it is asked.

## Main results

* `Url.leaf_sublist`, `Url.leaf_eq_iff`: how much is left of a text.
* `Registration.decode_leafOf_iff`: an id survives exactly if the name does.
* `Registry.head?_ask`: what is sent first when a registry is asked.
* `Registry.withdrawal_names_registered_iff`: when a withdrawal names what was registered.
-/

namespace StreamedInference

namespace Url

/-! ### Last segments -/

variable {ofWeb : Bool} {cs : List Char}

/-- What stands behind the last slash. -/
theorem exists_last_segment (ofWeb : Bool) (cs : List Char) :
    ∃ ss s, segments ofWeb cs = ss ++ [s] ∧ s.Sublist cs ∧
      (s = cs → ∀ c ∈ cs, isSlash ofWeb c = false) := by
  cases hlast : cs.reverse.find? (isSlash ofWeb) with
  | none =>
    have hall : ∀ c ∈ cs, isSlash ofWeb c = false := by simpa using hlast
    exact ⟨[], cs, segments_of_forall hall, .refl cs, fun _ => hall⟩
  | some c =>
    obtain ⟨hc, behind, front, hcs, hbehind⟩ := List.find?_eq_some_iff_append.1 hlast
    have heq : cs = front.reverse ++ c :: behind.reverse := by
      rw [← List.reverse_reverse cs, hcs]
      simp
    have hsegment : segments ofWeb behind.reverse = [behind.reverse] :=
      segments_of_forall (by simpa using hbehind)
    refine ⟨segments ofWeb front.reverse, behind.reverse, ?_, ?_, fun hs => ?_⟩
    · rw [heq, segments_append hc, hsegment]
    · rw [heq]
      exact ((List.Sublist.refl _).cons c).trans (List.sublist_append_right _ _)
    · have hlen := congrArg List.length (hs.trans heq)
      simp at hlen
      omega

/-- What is left of a text as the last segment of a path: what stands behind the last slash, before
the query and the fragment. -/
def leaf (ofWeb : Bool) (cs : List Char) : List Char :=
  (segments ofWeb (splitQuery ofWeb (splitFragment cs).1).1).getLast (segments_ne_nil _ _)

/-- A text without the marks of a query and a fragment is no part of them. -/
theorem splitQuery_splitFragment (ofWeb : Bool) (h : ∀ c ∈ cs, c ≠ '#' ∧ c ≠ '?') :
    splitQuery ofWeb (splitFragment cs).1 = (cs, none) := by
  have hf := splitFragment_append_of_not_mem (fun hmem => (h '#' hmem).1 rfl) []
  have hq := splitQuery_append_of_not_mem ofWeb (fun hmem => (h '?' hmem).2 rfl) []
  rw [List.append_nil] at hf hq
  have hfront : (splitFragment cs).1 = cs := by
    rw [hf]
    exact List.append_nil cs
  rw [hfront, hq]
  exact Prod.ext (List.append_nil cs) rfl

theorem exists_segments_eq_leaf (ofWeb : Bool) (cs : List Char) :
    ∃ ss, segments ofWeb (splitQuery ofWeb (splitFragment cs).1).1 = ss ++ [leaf ofWeb cs] :=
  ⟨_, (List.dropLast_append_getLast (segments_ne_nil _ _)).symm⟩

theorem exists_front_leaf (ofWeb : Bool) (cs : List Char) :
    ∃ front, front.Sublist cs ∧ (∀ c ∈ front, c ≠ '#' ∧ c ≠ '?') ∧
      (leaf ofWeb cs).Sublist front ∧
      (leaf ofWeb cs = front → ∀ c ∈ front, isSlash ofWeb c = false) := by
  obtain ⟨ss, s, hsegments, hsub, hwhole⟩ :=
    exists_last_segment ofWeb (splitQuery ofWeb (splitFragment cs).1).1
  have hleaf : leaf ofWeb cs = s := by
    simp only [leaf, hsegments, List.getLast_append_singleton]
  refine ⟨_, ?_, fun c hc => ?_, hleaf ▸ hsub, hleaf ▸ hwhole⟩
  · exact (List.takeWhile_sublist _).trans (List.takeWhile_sublist _)
  · have hquery := List.mem_takeWhile_imp hc
    have hfragment := List.mem_takeWhile_imp ((List.takeWhile_sublist _).subset hc)
    exact ⟨by simpa using hfragment, by simpa using hquery⟩

/-- Nothing is left of a text that was not in it. -/
theorem leaf_sublist (ofWeb : Bool) (cs : List Char) : (leaf ofWeb cs).Sublist cs := by
  obtain ⟨front, hfront, -, hleaf, -⟩ := exists_front_leaf ofWeb cs
  exact hleaf.trans hfront

/-- A text is left whole exactly if there is nothing in it that parts a path or ends it. -/
theorem leaf_eq_iff : leaf ofWeb cs = cs ↔
    ∀ c ∈ cs, c ≠ '#' ∧ c ≠ '?' ∧ isSlash ofWeb c = false := by
  obtain ⟨front, hfront, hmarks, hleaf, hslash⟩ := exists_front_leaf ofWeb cs
  constructor
  · intro h c hc
    have hwhole : front = cs := hfront.antisymm (h ▸ hleaf)
    subst hwhole
    obtain ⟨hf, hq⟩ := hmarks c hc
    exact ⟨hf, hq, hslash h c hc⟩
  · intro h
    have hwhole := splitQuery_splitFragment ofWeb fun c hc => ⟨(h c hc).1, (h c hc).2.1⟩
    simp only [leaf, hwhole, segments_of_forall fun c hc => (h c hc).2.2, List.getLast_singleton]

/-- A segment with a dash stands for no directory. -/
theorem addSegments_of_mem_dash {s : List Char} (h : '-' ∈ s) (path : List (List Char)) :
    addSegments path [s] = Percent.encode Percent.inPath s :: path := by
  have hmap : '-' ∈ s.map Char.toLower := List.mem_map.2 ⟨'-', h, by decide⟩
  have hne : ∀ {t : List Char}, '-' ∉ t → (s.map Char.toLower == t) = false := by
    intro t ht
    exact beq_false_of_ne fun heq => ht (heq ▸ hmap)
  have hsingle : isSingleDot s = false := by
    have hdot : (s == ['.']) = false := beq_false_of_ne fun heq => by simp [heq] at h
    rw [isSingleDot, hdot, hne (by decide)]
    rfl
  have hdouble : isDoubleDot s = false := by
    simp only [isDoubleDot, List.any_eq_false]
    intro d hd
    refine Bool.eq_false_iff.1 (hne ?_)
    revert d
    decide
  rw [addSegments, hsingle, hdouble]
  rfl

/-- The last segment of a path, which comes below a given one, stands for a text, and nothing is
asked for but the path. -/
def Names (u : Url) (above : List (List Char)) (text : String) : Prop :=
  u.query = none ∧
    ∃ s, u.path = above ++ [s] ∧ Percent.decode s = Utf8.bytes text

end Url

/-! ### Ids -/

/-- What stands in the text of an address or a port. -/
def numeralChars : List Char :=
  "0123456789abcdef.:-".toList

theorem mem_numeralChars_of_decimal {n : Nat} {c : Char} (h : c ∈ decimal n) :
    c ∈ numeralChars :=
  forall_mem_toDigits (by decide) (by decide) c h

theorem IPAddress.mem_numeralChars {x : IPAddress} {c : Char} (h : c ∈ x.chars) :
    c ∈ numeralChars :=
  forall_mem_chars (by decide) (by decide) (by decide) x c h

namespace Registration

variable {name : String} {address : IPAddress} {port : UInt16}

/-- A character that is not left where it stands in an address, or does not leave together what
stands around it. -/
def isLoose (c : Char) : Bool :=
  "/\\?#\t\n\r".toList.contains c

theorem isLoose_eq_false_iff {c : Char} : isLoose c = false ↔
    Destination.isLineEnd c = false ∧ c ≠ '#' ∧ c ≠ '?' ∧ Url.isSlash true c = false := by
  simp only [isLoose, Destination.isLineEnd, Url.isSlash]
  simp
  tauto

/-- A name that survives as part of a path: it has no loose character and no escape. -/
def isPlainName (name : String) : Bool :=
  name.toList.all (!isLoose ·) && !Percent.hasEscape name.toList

/-- Nothing in an address or a port has a meaning in a URL. -/
theorem of_mem_placeOf {c : Char} (h : c ∈ placeOf address port) :
    Destination.isBlank c = false ∧ isLoose c = false ∧ c ≠ '%' := by
  have hnumeral : c ∈ numeralChars := by
    rw [placeOf, List.mem_append, List.mem_cons] at h
    rcases h with h | rfl | h
    · exact IPAddress.mem_numeralChars h
    · decide
    · exact mem_numeralChars_of_decimal h
  have hall : numeralChars.all (fun c => !Destination.isBlank c && !isLoose c && c != '%') =
      true := by decide
  simpa [and_assoc] using List.all_eq_true.1 hall c hnumeral

/-- An id ends with a character that is not left out at the end of an address. -/
theorem isBlank_of_getLast? (cs : List Char) :
    ∀ c ∈ (cs ++ (idOf name address port).toList).getLast?, Destination.isBlank c = false := by
  intro c hc
  rw [toList_idOf, ← List.append_assoc,
    List.getLast?_append_of_ne_nil _ (List.cons_ne_nil _ _)] at hc
  rcases List.mem_cons.1 (List.mem_of_mem_getLast? hc) with rfl | hc
  · decide
  · exact (of_mem_placeOf hc).1

theorem isPlainName_iff :
    isPlainName name = true ↔
      (∀ c ∈ (idOf name address port).toList, isLoose c = false) ∧
        Percent.hasEscape (idOf name address port).toList = false := by
  have hplace : '%' ∉ placeOf address port := fun hmem => (of_mem_placeOf hmem).2.2 rfl
  have hloose : ∀ c ∈ '-' :: placeOf address port, isLoose c = false := by
    intro c hc
    rcases List.mem_cons.1 hc with rfl | hc
    · decide
    · exact (of_mem_placeOf hc).2.1
  rw [toList_idOf, Percent.hasEscape_append_cons (by decide) (by decide) hplace,
    List.forall_mem_append, isPlainName]
  simp only [Bool.and_eq_true, List.all_eq_true, Bool.not_eq_true', and_iff_left hloose]

/-- What the last segment of a path is to be if an id is put there. -/
def leafOf (id : String) : List Char :=
  Url.leaf true (id.toList.filter (!Destination.isLineEnd ·))

/-- **A text survives as the last segment of a path** exactly if it has no loose character and no
escape. -/
theorem decode_leafOf_iff {id : String} :
    Percent.decode (leafOf id) = Utf8.bytes id ↔
      (∀ c ∈ id.toList, isLoose c = false) ∧ Percent.hasEscape id.toList = false := by
  rw [leafOf, Utf8.bytes]
  generalize id.toList = id
  have hkept : (id.filter (!Destination.isLineEnd ·)).Sublist id := List.filter_sublist
  have hleaf := Url.leaf_sublist true (id.filter (!Destination.isLineEnd ·))
  constructor
  · intro h
    -- Whatever is left out is missing in what the segment stands for.
    have hlen := Percent.length_decode_le (Url.leaf true (id.filter (!Destination.isLineEnd ·)))
    rw [h] at hlen
    have hwhole := Utf8.eq_of_sublist (hleaf.trans hkept) hlen
    rw [hwhole] at hleaf
    have hall : id.filter (!Destination.isLineEnd ·) = id := hkept.antisymm hleaf
    rw [hall] at hwhole h
    rw [hwhole] at h
    refine ⟨fun c hc => isLoose_eq_false_iff.2 ⟨?_, Url.leaf_eq_iff.1 hwhole c hc⟩,
      Percent.decode_eq_encode_iff.1 h⟩
    simpa using List.filter_eq_self.1 hall c hc
  · rintro ⟨hloose, hescape⟩
    have hall : id.filter (!Destination.isLineEnd ·) = id :=
      List.filter_eq_self.2 fun c hc => by simp [(isLoose_eq_false_iff.1 (hloose c hc)).1]
    have hwhole : Url.leaf true id = id :=
      Url.leaf_eq_iff.2 fun c hc => (isLoose_eq_false_iff.1 (hloose c hc)).2
    rw [hall, hwhole]
    exact Percent.decode_eq_encode_iff.2 hescape

end Registration

/-! ### Agents -/

namespace Url

open Registration (leafOf)

variable {b u : Url} {id : String}

/-- Users and fragments have no part in the path. -/
theorem names_anonymous_whole {above : List (List Char)} {text : String} :
    u.anonymous.whole.Names above text ↔ u.Names above text :=
  Iff.rfl

/-- The directory of an agent in which instances withdraw. -/
def withdrawals : List (List Char) :=
  ["v1", "agent", "service", "deregister"].map String.toList

theorem foldl_descend_withdrawals (path : List (List Char)) :
    withdrawals.foldl descend path = withdrawals.reverse ++ path := by
  have hplain : ∀ s ∈ withdrawals, isDoubleDot s = false ∧ isSingleDot s = false ∧
      Percent.encode Percent.inPath s = s := by decide
  have hdescend : ∀ ss : List (List Char), (∀ s ∈ ss, isDoubleDot s = false ∧
      isSingleDot s = false ∧ Percent.encode Percent.inPath s = s) →
      ∀ path, ss.foldl descend path = ss.reverse ++ path := by
    intro ss
    induction ss with
    | nil => exact fun _ path => rfl
    | cons s ss ih =>
      intro hss path
      rw [List.forall_mem_cons] at hss
      obtain ⟨⟨hdouble, hsingle, hencode⟩, hss⟩ := hss
      rw [List.foldl_cons, ih hss, descend, hdouble, hsingle, hencode]
      simp
  exact hdescend _ hplain path

/-- Where a text leads behind the directory in which instances withdraw. -/
theorem withPath_withdrawals (hweb : b.scheme.isOfWeb = true) (path : List (List Char))
    (cs : List Char) :
    let u := b.withPath path ("v1/agent/service/deregister/".toList ++ cs)
    u.path = (addSegments (withdrawals.reverse ++ path)
        (segments true (splitQuery true (splitFragment cs).1).1)).reverse ∧
      u.query = (splitQuery true (splitFragment cs).1).2 := by
  have hf : '#' ∉ "v1/agent/service/deregister/".toList := by decide
  have hq : '?' ∉ "v1/agent/service/deregister/".toList := by decide
  have hsegments : ∀ cs, segments true ("v1/agent/service/deregister/".toList ++ cs) =
      withdrawals ++ segments true cs := by
    intro cs
    have hslash : "v1/agent/service/deregister/".toList =
        "v1/agent/service/deregister".toList ++ ['/'] := by decide
    have hfront : segments true "v1/agent/service/deregister".toList = withdrawals := by decide
    rw [hslash, List.append_assoc, List.singleton_append, segments_append (by decide), hfront]
  simp only [withPath, hweb, splitFragment_append_of_not_mem hf, splitQuery_append_of_not_mem _ hq,
    hsegments, addSegments_append _ _ (segments_ne_nil _ _), foldl_descend_withdrawals, true_and]

/-- An id is named in the directory in which instances withdraw exactly if it survives as the last
segment of a path. -/
theorem names_withPath_iff (hweb : b.scheme.isOfWeb = true) (hid : '-' ∈ id.toList) :
    (b.withPath (b.path.reverse.drop 1) ("v1/agent/service/deregister/".toList ++
        id.toList.filter (!Destination.isLineEnd ·))).Names (b.path.dropLast ++ withdrawals) id ↔
      Percent.decode (leafOf id) = Utf8.bytes id := by
  obtain ⟨hpath, hquery⟩ := withPath_withdrawals hweb (b.path.reverse.drop 1)
    (id.toList.filter (!Destination.isLineEnd ·))
  rw [Names, hpath, hquery]
  constructor
  · rintro ⟨-, s, hs, hdecode⟩
    obtain ⟨ss, hss⟩ := exists_segments_eq_leaf true (id.toList.filter (!Destination.isLineEnd ·))
    have hlast := congrArg List.getLast? hs
    rw [List.getLast?_reverse, hss, head?_addSegments_append, List.getLast?_concat] at hlast
    rw [← Option.some.inj hlast, settle] at hdecode
    split at hdecode
    · have hnil := Utf8.eq_of_sublist (List.nil_sublist id.toList) (congrArg _ hdecode).ge
      rw [← hnil] at hid
      cases hid
    · rwa [Percent.decode_encode Percent.spares_inPath] at hdecode
  · intro hdecode
    obtain ⟨hloose, hescape⟩ := Registration.decode_leafOf_iff.1 hdecode
    have hmarks : ∀ c ∈ id.toList, Destination.isLineEnd c = false ∧ c ≠ '#' ∧ c ≠ '?' ∧
        isSlash true c = false :=
      fun c hc => Registration.isLoose_eq_false_iff.1 (hloose c hc)
    have hall : id.toList.filter (!Destination.isLineEnd ·) = id.toList :=
      List.filter_eq_self.2 fun c hc => by simp [(hmarks c hc).1]
    have hfront : splitQuery true (splitFragment id.toList).1 = (id.toList, none) :=
      splitQuery_splitFragment true fun c hc => ⟨(hmarks c hc).2.1, (hmarks c hc).2.2.1⟩
    rw [hall, hfront]
    refine ⟨rfl, Percent.encode Percent.inPath id.toList, ?_, ?_⟩
    · rw [segments_of_forall fun c hc => (hmarks c hc).2.2.2, addSegments_of_mem_dash hid,
        List.drop_one, List.tail_reverse]
      simp
    · rw [Percent.decode_encode Percent.spares_inPath]
      exact Percent.decode_eq_encode_iff.2 hescape

end Url

/-- A request is sent itself before what its answer leads to. -/
theorem HttpRequest.head?_follow (net : Network) (first : String) (left sent : Nat)
    (r : HttpRequest) :
    (r.follow net first left sent).1.head? = if net.reaches r.url then some r else none := by
  unfold follow
  cases net.reaches r.url with
  | false => rfl
  | true =>
    simp only [Bool.not_true, Bool.false_eq_true, if_false, if_true]
    cases net.answer sent with
    | none => rfl
    | some a =>
      dsimp only
      split
      · rfl
      · rfl
      · split <;> rfl

namespace Registry

/-- The URL of an agent: what its address spells with a slash behind it. -/
def baseUrl? (address : String) : Option Url :=
  (Destination.ofText? (agentBase address ++ "/")).bind Destination.web?

/-- The URL at which an agent is asked something. -/
def urlOf? (address : String) (call : RegistryCall) : Option Url :=
  (Destination.ofText? (agentBase address ++ call.path)).bind Destination.web?

/-- What is sent first when an agent is asked something, if a request can be made of it and the
agent takes connections. -/
theorem head?_ask {address : String} {call : RegistryCall} {u : Url}
    (hu : urlOf? address call = some u) (net : Network) (sent : Nat) :
    ((Registry.of true address).ask net sent call).1.head? =
      if (Destination.server u.anonymous).isSendable && net.reaches u.anonymous.whole then
        some ⟨.put, u.anonymous.whole, call.body⟩
      else none := by
  obtain ⟨d, hd, hweb⟩ := Option.bind_eq_some_iff.1 hu
  have hask : ((Registry.of true address).ask net sent call).1 =
      (net.put sent (agentBase address ++ call.path) call.body).1 := by
    rw [Registry.of, if_pos rfl]
    simp only [ask]
  rw [hask, Network.put, hd]
  simp only [hweb]
  cases (Destination.server u.anonymous).isSendable with
  | false => rfl
  | true => exact HttpRequest.head?_follow _ _ _ _ _

theorem path_register (r : Registration) :
    (RegistryCall.register r).path = "/" ++ "v1/agent/service/register" := by
  have hslash : "/v1/agent/service/register".toList =
      "/".toList ++ "v1/agent/service/register".toList := by decide
  unfold RegistryCall.path
  rw [← String.toList_inj, String.toList_append]
  exact hslash

theorem path_deregister (id : String) :
    (RegistryCall.deregister id).path = "/" ++ ("v1/agent/service/deregister/" ++ id) := by
  unfold RegistryCall.path
  rw [← String.append_assoc, ← String.toList_inj, String.toList_append, String.toList_append,
    String.toList_append]
  exact congrArg (· ++ id.toList) (by decide)

/-- An agent whose address spells a URL can be asked. -/
theorem exists_urlOf? {agent : String} {b : Url} (hb : baseUrl? agent = some b)
    {call : RegistryCall} {rest : String} (hpath : call.path = "/" ++ rest)
    (hrest : ∀ c ∈ rest.toList.getLast?, Destination.isBlank c = false) :
    ∃ u, urlOf? agent call = some u ∧
      b.Continues (rest.toList.filter (!Destination.isLineEnd ·)) u := by
  rw [urlOf?, hpath, ← String.append_assoc]
  exact Destination.exists_continues hb hrest

/-- Where an instance withdraws its id is named exactly if the agent's URL ends with its path and
the name of the instance survives as part of a path. -/
theorem names_iff {agent name : String} {address : IPAddress} {port : UInt16} {b u : Url}
    (hb : baseUrl? agent = some b)
    (hu : b.Continues (("v1/agent/service/deregister/" ++
      Registration.idOf name address port).toList.filter (!Destination.isLineEnd ·)) u) :
    u.anonymous.whole.Names (b.path.dropLast ++ Url.withdrawals)
        (Registration.idOf name address port) ↔
      b.query = none ∧ b.fragment = none ∧ Registration.isPlainName name = true := by
  rw [Url.names_anonymous_whole]
  cases hu with
  | below hq hf =>
    obtain ⟨d, -, hweb⟩ := Option.bind_eq_some_iff.1 hb
    have hscheme : b.scheme.isOfWeb = true := by
      rcases (Destination.web?_eq_some_iff.1 hweb).2 with h | h <;> rw [h] <;> rfl
    have hdash : '-' ∈ (Registration.idOf name address port).toList := by
      simp [Registration.toList_idOf]
    have hfilter : "v1/agent/service/deregister/".toList.filter (!Destination.isLineEnd ·) =
        "v1/agent/service/deregister/".toList := by decide
    rw [String.toList_append, List.filter_append, hfilter,
      Url.names_withPath_iff hscheme hdash, Registration.decode_leafOf_iff,
      ← Registration.isPlainName_iff]
    simp [hq, hf]
  | query hb' hu' => exact iff_of_false (fun h => hu' h.1) fun h => hb' h.1
  | fragment hb' hu' =>
    refine iff_of_false (fun ⟨_, s, hpath, _⟩ => ?_) fun h => hb' h.2.1
    have hlen := congrArg List.length (hu'.symm.trans hpath)
    simp [Url.withdrawals] at hlen
    omega

/-- **When a withdrawal names what was registered.** Take any name, address, port and tags of an
instance, and any address of an agent that spells the URL of a web server. Then there is a URL `u`
at which the instance withdraws, and a request for it is the first one that is sent, if any is. The
body of the first request for a registration has the id of the instance. In the path of `u`, below
the path of the agent, the last segment stands for this id, and there is no query, exactly if the
agent's URL ends with its path, no slash of either kind, question mark, number sign, tab or line end
is in the name, and no escape. -/
theorem withdrawal_names_registered_iff (name : String) (address : IPAddress) (port : UInt16)
    (tags : List String) {agent : String} {b : Url} (hb : baseUrl? agent = some b) :
    let r := (Registration.of name address port).withTags tags
    ∃ u, urlOf? agent (.deregister r.id) = some u ∧
      (∀ net sent, ((Registry.of true agent).ask net sent (.deregister r.id)).1.head? =
        if (Destination.server u.anonymous).isSendable && net.reaches u.anonymous.whole then
          some ⟨.put, u.anonymous.whole, none⟩
        else none) ∧
      (∀ net sent, ∀ q ∈ ((Registry.of true agent).ask net sent (.register r)).1.head?,
        ∃ fields, q.body = some (.record (("ID", .text r.id) :: fields))) ∧
      (u.anonymous.whole.Names (b.path.dropLast ++ Url.withdrawals) r.id ↔
        b.query = none ∧ b.fragment = none ∧ Registration.isPlainName name = true) := by
  intro r
  obtain ⟨u', hu', -⟩ := exists_urlOf? hb (path_register r) (by simp [Destination.isBlank])
  obtain ⟨u, hu, hcontinues⟩ := exists_urlOf? hb (path_deregister r.id) (by
    rw [String.toList_append]
    exact Registration.isBlank_of_getLast? _)
  refine ⟨u, hu, head?_ask hu, fun net sent q hq => ?_, ?_⟩
  · rw [head?_ask hu'] at hq
    obtain ⟨-, hq⟩ := Option.ite_none_right_eq_some.1 hq
    rw [← Option.some.inj hq]
    exact ⟨_, rfl⟩
  · exact names_iff hb hcontinues

/-- The URL of an agent on the own host. -/
def nearAgent : Url where
  scheme := .http
  host := .v6 ⟨[0, 0, 0, 0, 0, 0, 0, 1], rfl⟩
  port := some 8500
  path := [[]]

theorem baseUrl?_nearAgent : baseUrl? "[::1]:8500" = some nearAgent := by
  decide +kernel

/-- An ordinary name is named by the withdrawal. -/
theorem withdrawal_names_registered_of_plain :
    baseUrl? "[::1]:8500" = some nearAgent ∧
      Registration.isPlainName "llm-inference" = true ∧
      ∃ u, urlOf? "[::1]:8500" (.deregister "llm-inference-10.0.0.7-8083") = some u ∧
        u.anonymous.whole.Names Url.withdrawals "llm-inference-10.0.0.7-8083" := by
  have hplain : Registration.isPlainName "llm-inference" = true := by decide +kernel
  have hid : Registration.idOf "llm-inference" (.v4 ⟨10, 0, 0, 7⟩) 8083 =
      "llm-inference-10.0.0.7-8083" := by decide +kernel
  obtain ⟨u, hu, -, -, hiff⟩ := withdrawal_names_registered_iff "llm-inference"
    (.v4 ⟨10, 0, 0, 7⟩) 8083 [] baseUrl?_nearAgent
  have hnames := hiff.2 ⟨rfl, rfl, hplain⟩
  exact ⟨baseUrl?_nearAgent, hplain, u, hid ▸ hu, hid ▸ hnames⟩

/-- **A withdrawal need not name what was registered.** A name with a question mark is no blank one,
but what follows the mark is no part of the path. -/
theorem withdrawal_misses_registered :
    isBlankText "a?b" = false ∧
      (∃ u, urlOf? "[::1]:8500" (.deregister "a?b-1.2.3.4-80") = some u ∧
        u.path = Url.withdrawals ++ ["a".toList] ∧ u.query = some "b-1.2.3.4-80".toList) ∧
      ¬ ∀ name address port agent b u, isBlankText name = false → baseUrl? agent = some b →
        b.query = none → b.fragment = none →
        urlOf? agent (.deregister (Registration.idOf name address port)) = some u →
        u.anonymous.whole.Names (b.path.dropLast ++ Url.withdrawals)
          (Registration.idOf name address port) := by
  have hblank : isBlankText "a?b" = false := by decide +kernel
  have hid : Registration.idOf "a?b" (.v4 ⟨1, 2, 3, 4⟩) 80 = "a?b-1.2.3.4-80" := by decide +kernel
  have hu : urlOf? "[::1]:8500" (.deregister "a?b-1.2.3.4-80") =
      some { nearAgent with
        path := Url.withdrawals ++ ["a".toList], query := some "b-1.2.3.4-80".toList } := by
    decide +kernel
  refine ⟨hblank, ⟨_, hu, rfl, rfl⟩, fun hclaim => ?_⟩
  have hnames := hclaim "a?b" (.v4 ⟨1, 2, 3, 4⟩) 80 "[::1]:8500" nearAgent _ hblank
    baseUrl?_nearAgent rfl rfl (hid.symm ▸ hu)
  cases hnames.1

end Registry

end StreamedInference

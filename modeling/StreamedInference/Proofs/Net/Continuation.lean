import Mathlib.Data.List.TakeWhile
import StreamedInference.Net.Destination

/-!
# Addresses that go on

An address that spells the URL of a web server, a slash behind it included, can go on behind that
slash. Where it leads then is told by its URL alone: to the place that the rest spells below the
path, if the URL ends with its path. If it has a query or a fragment the rest belongs to that, and
the path is not the place where it goes on.

## Main definitions

* `Url.descend`, `Url.settle`: what a segment makes of a path, and what the last one leaves of
  itself.
* `Url.Continues`: where an address leads that goes on behind the URL that it spells.

## Main results

* `Url.addSegments_append`: segments are added one after the other.
* `Url.exists_readPath_append`: a path goes on behind a slash.
* `Url.exists_continues`, `Destination.exists_continues`: where a longer address leads.
-/

namespace StreamedInference

/-! ### Pieces of longer texts -/

namespace Pieces

variable {stop : Char → Bool} {xs : List Char}

/-- A text with a place to cut it is cut. -/
theorem span_snd_ne_nil (h : ∃ c ∈ xs, stop c = true) : (span stop xs).2 ≠ [] := by
  intro hnil
  obtain ⟨c, hc, hstop⟩ := h
  have hdrop := List.dropWhile_eq_nil_iff.1 hnil c hc
  simp [hstop] at hdrop

/-- A text that is cut in its front is cut there whatever comes behind. -/
theorem span_append_of_mem (h : ∃ c ∈ xs, stop c = true) (ys : List Char) :
    span stop (xs ++ ys) = ((span stop xs).1, (span stop xs).2 ++ ys) := by
  have hne := span_snd_ne_nil h
  induction xs with
  | nil => exact absurd rfl hne
  | cons x xs ih =>
    cases hx : stop x with
    | true => simp [span, hx]
    | false =>
      have hmem : ∃ c ∈ xs, stop c = true := by simpa [hx] using h
      have htail := Prod.mk.inj (ih hmem (span_snd_ne_nil hmem))
      simp only [span] at htail
      simp [span, hx, htail.1, htail.2]

theorem span_append_of_forall (h : ∀ c ∈ xs, stop c = false) (ys : List Char) :
    span stop (xs ++ ys) = (xs ++ (span stop ys).1, (span stop ys).2) := by
  have hall : ∀ c ∈ xs, (!stop c) = true := fun c hc => by rw [h c hc]; rfl
  rw [span, List.takeWhile_append_of_pos hall, List.dropWhile_append_of_pos hall]
  rfl

/-- Where a text is cut behind its front, the front stays whole. -/
theorem span_append_cons {c : Char} (hc : stop c = true) (xs ys : List Char) :
    span stop (xs ++ c :: ys) = ((span stop xs).1, (span stop xs).2 ++ c :: ys) := by
  by_cases h : ∃ c ∈ xs, stop c = true
  · exact span_append_of_mem h _
  · have hall : ∀ c ∈ xs, stop c = false := fun c hc =>
      Bool.eq_false_iff.2 fun hstop => h ⟨c, hc, hstop⟩
    have hxs := span_append_of_forall hall []
    rw [List.append_nil] at hxs
    rw [span_append_of_forall hall, hxs]
    simp [span, hc]

theorem between_append (sep : Char) (xs ys : List Char) :
    between sep (xs ++ sep :: ys) = between sep xs ++ between sep ys := by
  induction xs with
  | nil =>
    cases hys : between sep ys with
    | nil => exact absurd hys (between_ne_nil sep ys)
    | cons p ps => simp [between, hys]
  | cons c xs ih =>
    rw [List.cons_append, between, ih]
    cases hxs : between sep xs with
    | nil => exact absurd hxs (between_ne_nil sep xs)
    | cons p ps =>
      rw [between, hxs]
      by_cases hc : c == sep <;> simp [hc]

theorem between_of_not_mem {sep : Char} (h : sep ∉ xs) : between sep xs = [xs] := by
  induction xs with
  | nil => rfl
  | cons c xs ih =>
    rw [List.mem_cons, not_or] at h
    rw [between, ih h.2]
    exact if_neg (by simpa using Ne.symm h.1)

end Pieces

namespace Url

/-! ### Paths -/

variable {path dir : List (List Char)} {s : List Char} {ss ts : List (List Char)} {ofWeb : Bool}
  {c : Char} {cs : List Char}

/-- What a segment that others follow makes of a path, which is given with its last segment
first. -/
def descend (path : List (List Char)) (s : List Char) : List (List Char) :=
  if isDoubleDot s then above path
  else if isSingleDot s then path
  else Percent.encode Percent.inPath s :: path

/-- What the last segment leaves of itself at the end of a path. -/
def settle (s : List Char) : List Char :=
  if isDoubleDot s || isSingleDot s then [] else Percent.encode Percent.inPath s

theorem addSegments_cons (path : List (List Char)) (s : List Char) (hss : ss ≠ []) :
    addSegments path (s :: ss) = addSegments (descend path s) ss := by
  cases ss with
  | nil => exact absurd rfl hss
  | cons t ts =>
    rw [addSegments, descend]
    split
    · rfl
    · split <;> rfl
    · exact fun h => by cases h

/-- Segments are added one after the other. -/
theorem addSegments_append (path ss : List (List Char)) (hts : ts ≠ []) :
    addSegments path (ss ++ ts) = addSegments (ss.foldl descend path) ts := by
  induction ss generalizing path with
  | nil => rfl
  | cons s ss ih =>
    rw [List.cons_append, addSegments_cons path s (by simp [hts]), ih, List.foldl_cons]

/-- The last segment stands at the end of the path, or nothing stands there. -/
theorem head?_addSegments_singleton (path : List (List Char)) (s : List Char) :
    (addSegments path [s]).head? = some (settle s) := by
  rw [addSegments, settle]
  cases isDoubleDot s
  · cases isSingleDot s <;> rfl
  · rfl

theorem head?_addSegments_append (path ss : List (List Char)) (s : List Char) :
    (addSegments path (ss ++ [s])).head? = some (settle s) := by
  rw [addSegments_append path ss (by simp), head?_addSegments_singleton]

theorem segments_ne_nil (ofWeb : Bool) (cs : List Char) : segments ofWeb cs ≠ [] :=
  Pieces.between_ne_nil _ _

theorem segments_append (hc : isSlash ofWeb c = true) (xs ys : List Char) :
    segments ofWeb (xs ++ c :: ys) = segments ofWeb xs ++ segments ofWeb ys := by
  rw [segments, List.map_append, List.map_cons, if_pos hc, Pieces.between_append]
  rfl

theorem segments_of_forall (h : ∀ c ∈ cs, isSlash ofWeb c = false) : segments ofWeb cs = [cs] := by
  have hmap : cs.map (fun c => if isSlash ofWeb c then '/' else c) = cs := by
    refine (List.map_congr_left fun c hc => ?_).trans (List.map_id cs)
    rw [h c hc]
    rfl
  rw [segments, hmap]
  refine Pieces.between_of_not_mem fun hmem => ?_
  simpa [isSlash] using h '/' hmem

/-- A path goes on behind a slash, from a directory that what comes behind has no part in. -/
theorem exists_readPath_append (ofWeb : Bool) (xs : List Char) :
    ∃ dir, ∀ ys, readPath ofWeb (xs ++ '/' :: ys) =
      (addSegments dir (segments ofWeb ys)).reverse := by
  have hslash : isSlash ofWeb '/' = true := by simp [isSlash]
  cases xs with
  | nil =>
    refine ⟨[], fun ys => ?_⟩
    rw [readPath, List.nil_append, dropSlash, if_pos hslash]
  | cons c xs =>
    refine ⟨(segments ofWeb (dropSlash ofWeb (c :: xs))).foldl descend [], fun ys => ?_⟩
    have hdrop : dropSlash ofWeb (c :: xs ++ '/' :: ys) =
        dropSlash ofWeb (c :: xs) ++ '/' :: ys := by
      rw [List.cons_append, dropSlash, dropSlash]
      split <;> rfl
    rw [readPath, hdrop, segments_append hslash, addSegments_append _ _ (segments_ne_nil _ _)]

/-! ### Servers -/

/-- The URL that the text of a server and that of a path spell. -/
def ofAuthority? (scheme : Scheme) (authority path : List Char)
    (query fragment : Option (List Char)) : Option Url :=
  let ofWeb := scheme.isOfWeb
  let (before, hostAndPort) := Pieces.spanLast '@' authority
  let (user, password) := readCredentials (before.getD [])
  let (host, portAndMore) := splitPort hostAndPort
  let (port, more) := Pieces.span (· == '\\') portAndMore
  let host? := if ofWeb then Host.ofChars? host else Host.ofPlainChars? host
  match host?, readPort? scheme port with
  | some host, some port =>
    some ⟨scheme, user, password, host, port, readPath ofWeb (more ++ path), query, fragment⟩
  | _, _ => none

/-- The parts of the text of a server's URL are read one by one. -/
theorem ofServer?_eq (scheme : Scheme) (cs : List Char) :
    ofServer? scheme cs =
      ofAuthority? scheme
        (Pieces.span (isSlash scheme.isOfWeb) (splitQuery scheme.isOfWeb (splitFragment cs).1).1).1
        (Pieces.span (isSlash scheme.isOfWeb) (splitQuery scheme.isOfWeb (splitFragment cs).1).1).2
        (splitQuery scheme.isOfWeb (splitFragment cs).1).2 (splitFragment cs).2 :=
  rfl

/-- What comes behind the server has no part in what the server is. -/
theorem exists_ofAuthority? {scheme : Scheme} {authority path : List Char}
    {query fragment : Option (List Char)} {b : Url}
    (h : ofAuthority? scheme authority path query fragment = some b) :
    b.scheme = scheme ∧ b.query = query ∧ b.fragment = fragment ∧
    ∃ more, b.path = readPath scheme.isOfWeb (more ++ path) ∧
      ∀ path query fragment, ofAuthority? scheme authority path query fragment =
        some { b with
          path := readPath scheme.isOfWeb (more ++ path)
          query := query
          fragment := fragment } := by
  unfold ofAuthority? at h ⊢
  dsimp only at h ⊢
  split at h
  · obtain rfl := Option.some.inj h
    exact ⟨rfl, rfl, rfl, _, rfl, fun _ _ _ => rfl⟩
  · cases h

/-- Where a text that goes on with `ys` behind the slash at its end leads, if up to this slash it
spells a URL. -/
inductive Continues (b : Url) (ys : List Char) : Url → Prop
  /-- To the place that the rest spells below the path. -/
  | below (hq : b.query = none) (hf : b.fragment = none) :
      Continues b ys (b.withPath (b.path.reverse.drop 1) ys)
  /-- To the same place with a longer query. -/
  | query {u : Url} (hb : b.query ≠ none) (hu : u.query ≠ none) : Continues b ys u
  /-- To the same place with a longer fragment. -/
  | fragment {u : Url} (hb : b.fragment ≠ none) (hu : u.path = b.path) : Continues b ys u

theorem splitFragment_append_of_mem (h : '#' ∈ cs) :
    ∃ before, ∀ ys, ∃ fragment, splitFragment (cs ++ ys) = (before, some fragment) := by
  have hstop : ∃ c ∈ cs, (c == '#') = true := ⟨'#', h, rfl⟩
  refine ⟨(Pieces.span (· == '#') cs).1, fun ys => ?_⟩
  cases hbehind : (Pieces.span (· == '#') cs).2 with
  | nil => exact absurd hbehind (Pieces.span_snd_ne_nil hstop)
  | cons c rest =>
    refine ⟨Percent.encode Percent.inFragment (rest ++ ys), ?_⟩
    rw [splitFragment, Pieces.span_append_of_mem hstop, hbehind]
    rfl

theorem splitFragment_append_of_not_mem (h : '#' ∉ cs) (ys : List Char) :
    splitFragment (cs ++ ys) = (cs ++ (splitFragment ys).1, (splitFragment ys).2) := by
  have hstop : ∀ c ∈ cs, (c == '#') = false := by
    intro c hc
    exact beq_false_of_ne fun heq => h (heq ▸ hc)
  rw [splitFragment, Pieces.span_append_of_forall hstop]
  rfl

theorem splitQuery_append_of_mem (ofWeb : Bool) (h : '?' ∈ cs) :
    ∃ before, ∀ ys, ∃ query, splitQuery ofWeb (cs ++ ys) = (before, some query) := by
  have hstop : ∃ c ∈ cs, (c == '?') = true := ⟨'?', h, rfl⟩
  refine ⟨(Pieces.span (· == '?') cs).1, fun ys => ?_⟩
  cases hbehind : (Pieces.span (· == '?') cs).2 with
  | nil => exact absurd hbehind (Pieces.span_snd_ne_nil hstop)
  | cons c rest =>
    refine ⟨Percent.encode (if ofWeb then Percent.inWebQuery else Percent.inQuery) (rest ++ ys), ?_⟩
    rw [splitQuery, Pieces.span_append_of_mem hstop, hbehind]
    rfl

theorem splitQuery_append_of_not_mem (ofWeb : Bool) (h : '?' ∉ cs) (ys : List Char) :
    splitQuery ofWeb (cs ++ ys) =
      (cs ++ (splitQuery ofWeb ys).1, (splitQuery ofWeb ys).2) := by
  have hstop : ∀ c ∈ cs, (c == '?') = false := by
    intro c hc
    exact beq_false_of_ne fun heq => h (heq ▸ hc)
  rw [splitQuery, Pieces.span_append_of_forall hstop]
  rfl

/-- **Where the text of a server's URL leads that goes on behind a slash.** -/
theorem exists_continues {scheme : Scheme} {b : Url}
    (h : ofServer? scheme (cs ++ ['/']) = some b) (ys : List Char) :
    ∃ u, ofServer? scheme (cs ++ '/' :: ys) = some u ∧ u.scheme = b.scheme ∧ b.Continues ys u := by
  rw [ofServer?_eq] at h ⊢
  by_cases hf : '#' ∈ cs
  · obtain ⟨before, hbefore⟩ := splitFragment_append_of_mem hf
    obtain ⟨f, hshort⟩ := hbefore ['/']
    obtain ⟨g, hlong⟩ := hbefore ('/' :: ys)
    rw [hshort] at h
    rw [hlong]
    obtain ⟨-, -, hfragment, more, hpath, hall⟩ := exists_ofAuthority? h
    refine ⟨_, hall _ _ _, rfl, .fragment ?_ hpath.symm⟩
    rw [hfragment]
    exact Option.some_ne_none f
  rw [splitFragment_append_of_not_mem hf] at h ⊢
  by_cases hq : '?' ∈ cs
  · obtain ⟨before, hbefore⟩ := splitQuery_append_of_mem scheme.isOfWeb hq
    obtain ⟨q, hshort⟩ := hbefore (splitFragment ['/']).1
    obtain ⟨q', hlong⟩ := hbefore (splitFragment ('/' :: ys)).1
    rw [hshort] at h
    rw [hlong]
    obtain ⟨-, hquery, -, more, -, hall⟩ := exists_ofAuthority? h
    refine ⟨_, hall _ _ _, rfl, .query ?_ (Option.some_ne_none q')⟩
    rw [hquery]
    exact Option.some_ne_none q
  · have hslash : isSlash scheme.isOfWeb '/' = true := by simp [isSlash]
    have hfragment : splitFragment ('/' :: ys) =
        ('/' :: (splitFragment ys).1, (splitFragment ys).2) := rfl
    have hquery : splitQuery scheme.isOfWeb ('/' :: (splitFragment ys).1) =
        ('/' :: (splitQuery scheme.isOfWeb (splitFragment ys).1).1,
          (splitQuery scheme.isOfWeb (splitFragment ys).1).2) := rfl
    rw [splitQuery_append_of_not_mem _ hq] at h ⊢
    rw [hfragment, hquery, Pieces.span_append_cons hslash]
    have hend : splitQuery scheme.isOfWeb (splitFragment ['/']).1 = (['/'], none) := rfl
    rw [hend, Pieces.span_append_cons hslash] at h
    obtain ⟨hscheme, hq', hf', more, hpath, hall⟩ := exists_ofAuthority? h
    obtain ⟨dir, hdir⟩ := exists_readPath_append scheme.isOfWeb
      (more ++ (Pieces.span (isSlash scheme.isOfWeb) cs).2)
    have hkept : b.path.reverse.drop 1 = dir := by
      rw [hpath, ← List.append_assoc, hdir [], List.reverse_reverse]
      rfl
    refine ⟨_, hall _ _ _, rfl, ?_⟩
    rw [← List.append_assoc, hdir, ← hkept, ← hscheme]
    exact .below hq' hf'

theorem scheme_of_ofServer? {scheme : Scheme} {u : Url} (h : ofServer? scheme cs = some u) :
    u.scheme = scheme :=
  (exists_ofAuthority? h).1

theorem scheme_of_ofFileServer? {u : Url} (h : ofFileServer? cs = some u) : u.scheme = .file := by
  unfold ofFileServer? at h
  dsimp only at h
  split at h
  · cases h
  · split at h
    · cases h
    · split at h
      · cases h
      · obtain rfl := Option.some.inj h
        rfl

end Url

/-! ### Whole addresses -/

namespace Destination

variable {cs : List Char} {b : Url}

/-- What is left out at the ends of an address. -/
def isBlank (c : Char) : Bool :=
  c.toNat ≤ 0x20

/-- What is left out everywhere in an address. -/
def isLineEnd (c : Char) : Bool :=
  c == '\t' || c == '\n' || c == '\r'

theorem clean_eq (cs : List Char) :
    clean cs =
      ((cs.dropWhile isBlank).reverse.dropWhile isBlank).reverse.filter (!isLineEnd ·) :=
  rfl

/-- An address that goes on loses nothing at its end, unless what it goes on with does. -/
theorem clean_append {ys : List Char} (hys : ∀ c ∈ ys.getLast?, isBlank c = false)
    (cs : List Char) :
    clean (cs ++ '/' :: ys) =
      (cs.dropWhile isBlank).filter (!isLineEnd ·) ++ '/' :: ys.filter (!isLineEnd ·) := by
  have hfront : (cs ++ '/' :: ys).dropWhile isBlank = cs.dropWhile isBlank ++ '/' :: ys := by
    rw [List.dropWhile_append]
    split
    · rename_i hempty
      rw [List.isEmpty_iff.1 hempty]
      rfl
    · rfl
  have hend : ((cs.dropWhile isBlank ++ '/' :: ys).reverse).dropWhile isBlank =
      (cs.dropWhile isBlank ++ '/' :: ys).reverse := by
    rcases List.eq_nil_or_concat ys with rfl | ⟨ys, c, rfl⟩
    · rw [List.reverse_append]
      rfl
    · have hc : isBlank c = false := hys c (by simp)
      simp [hc]
  rw [clean_eq, hfront, hend, List.reverse_reverse, List.filter_append]
  rfl

theorem splitScheme_of_not_mem (h : ':' ∉ cs) : splitScheme cs = none := by
  have hall : ∀ c ∈ cs, (c == ':') = false := by
    intro c hc
    exact beq_false_of_ne fun heq => h (heq ▸ hc)
  have hspan := Pieces.span_append_of_forall hall []
  rw [List.append_nil] at hspan
  rw [splitScheme, hspan]
  cases cs <;> rfl

theorem splitScheme_append (h : ':' ∈ cs) (ys : List Char) :
    splitScheme (cs ++ ys) = (splitScheme cs).map fun (name, rest) => (name, rest ++ ys) := by
  have hstop : ∃ c ∈ cs, (c == ':') = true := ⟨':', h, rfl⟩
  have hbehind := Pieces.span_snd_ne_nil hstop
  rw [splitScheme, splitScheme, Pieces.span_append_of_mem hstop]
  generalize Pieces.span (· == ':') cs = parts at hbehind ⊢
  rcases parts with ⟨_ | ⟨c, name⟩, _ | ⟨d, rest⟩⟩
  · exact absurd rfl hbehind
  · rfl
  · exact absurd rfl hbehind
  · dsimp only [List.cons_append]
    split <;> rfl

theorem web?_eq_some_iff {d : Destination} :
    d.web? = some b ↔ d = .server b ∧ (b.scheme = .http ∨ b.scheme = .https) := by
  cases d with
  | named => simp [web?]
  | server url =>
    simp only [web?, Bool.or_eq_true, beq_iff_eq, Option.ite_none_right_eq_some, Option.some.injEq,
      server.injEq]
    constructor
    · rintro ⟨hscheme, rfl⟩
      exact ⟨rfl, hscheme⟩
    · rintro ⟨rfl, hscheme⟩
      exact ⟨hscheme, rfl⟩

theorem of_map_server {url? : Option Url} (h : url?.map Destination.server = some (.server b)) :
    url? = some b := by
  obtain ⟨_, hurl, heq⟩ := Option.map_eq_some_iff.1 h
  rw [hurl, Destination.server.inj heq]

/-- The scheme of a server's URL is the one that stands in front. -/
theorem scheme_of_behindScheme? {name : List Char}
    (h : behindScheme? name cs = some (.server b)) : b.scheme = Scheme.ofName name := by
  cases hname : Scheme.ofName name with
  | http | https | ws | wss | ftp =>
    simp only [behindScheme?, hname] at h
    exact Url.scheme_of_ofServer? (of_map_server h)
  | file =>
    simp only [behindScheme?, hname] at h
    split at h
    · split at h
      · exact Url.scheme_of_ofFileServer? (of_map_server h)
      · cases h
    · cases h
  | other name =>
    simp only [behindScheme?, hname] at h
    split at h
    · exact Url.scheme_of_ofServer? (of_map_server h)
    · cases h

theorem behindScheme?_of_web {name : List Char}
    (hname : Scheme.ofName name = .http ∨ Scheme.ofName name = .https) (cs : List Char) :
    behindScheme? name cs =
      (Url.ofServer? (Scheme.ofName name) (cs.dropWhile (Url.isSlash true))).map .server := by
  unfold behindScheme?
  rcases hname with h | h <;> rw [h]

theorem ofServer?_nil {scheme : Scheme} (h : scheme = .http ∨ scheme = .https) :
    Url.ofServer? scheme [] = none := by
  rcases h with rfl | rfl <;> decide +kernel

theorem exists_continues_behindScheme? {name : List Char}
    (h : (behindScheme? name (cs ++ ['/'])).bind web? = some b) (ys : List Char) :
    ∃ u, (behindScheme? name (cs ++ '/' :: ys)).bind web? = some u ∧ b.Continues ys u := by
  obtain ⟨d, hd, hweb⟩ := Option.bind_eq_some_iff.1 h
  obtain ⟨rfl, hscheme⟩ := web?_eq_some_iff.1 hweb
  have hname := scheme_of_behindScheme? hd ▸ hscheme
  rw [behindScheme?_of_web hname] at hd ⊢
  have hserver := of_map_server hd
  -- Behind slashes alone there is no server.
  have hfront : (cs.dropWhile (Url.isSlash true)).isEmpty = false := by
    rw [Bool.eq_false_iff]
    intro hempty
    rw [List.dropWhile_append, if_pos hempty] at hserver
    cases (ofServer?_nil hname).symm.trans hserver
  rw [List.dropWhile_append, hfront] at hserver ⊢
  obtain ⟨u, hu, hsame, hcontinues⟩ := Url.exists_continues hserver ys
  refine ⟨u, ?_, hcontinues⟩
  rw [if_neg Bool.false_ne_true, hu]
  exact web?_eq_some_iff.2 ⟨rfl, hsame ▸ hscheme⟩

/-- **Where an address leads that goes on behind a slash**, if up to this slash it spells the URL of
a web server. -/
theorem exists_continues {base : String}
    (h : (ofText? (base ++ "/")).bind web? = some b) {ys : String}
    (hys : ∀ c ∈ ys.toList.getLast?, isBlank c = false) :
    ∃ u, (ofText? (base ++ "/" ++ ys)).bind web? = some u ∧
      b.Continues (ys.toList.filter (!isLineEnd ·)) u := by
  have hshort : clean (base.toList ++ ['/']) =
      (base.toList.dropWhile isBlank).filter (!isLineEnd ·) ++ ['/'] :=
    clean_append (by simp) base.toList
  have hlong := clean_append hys base.toList
  have htext : (base ++ "/" ++ ys).toList = base.toList ++ '/' :: ys.toList := by simp
  have htext' : (base ++ "/").toList = base.toList ++ ['/'] := by simp
  rw [ofText?, htext', hshort] at h
  rw [ofText?, htext, hlong]
  by_cases hcolon : ':' ∈ (base.toList.dropWhile isBlank).filter (!isLineEnd ·)
  · rw [splitScheme_append hcolon] at h ⊢
    cases hsplit : splitScheme ((base.toList.dropWhile isBlank).filter (!isLineEnd ·)) with
    | none =>
      rw [hsplit] at h
      cases h
    | some parts =>
      rw [hsplit] at h
      exact exists_continues_behindScheme? h _
  · rw [splitScheme_of_not_mem (by simpa using hcolon)] at h
    cases h

end Destination

end StreamedInference

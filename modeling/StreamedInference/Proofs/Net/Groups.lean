import Mathlib.Data.List.TakeWhile
import StreamedInference.Proofs.Net.Address

/-!
# Reading back addresses

The text of an address spells it. For an IPv6 address that is so whichever way the address is
written: with all its groups, with a row of zeros left out, which is as long as the groups that
are written leave it, or with a dotted end. A group ends where no digit follows it, so that the
groups on either side of the zeros are read back as they are.

## Main results

* `exists_zeros`: what is left out are zeros.
* `takeGroups_joinGroups`, `takeIPv6_chars`: groups and addresses are read back.
* `IPAddress.ofText?_toText`, `IPAddress.toText_injective`: a text spells one address.
* `IPAddress.forall_mem_chars`: what stands in the text of an address.
-/

namespace StreamedInference

/-! ### Groups -/

namespace IPv6

variable {rest : List Char}

/-- Digits are read back with what follows them left over. -/
theorem takeDigits_digitChar {vs : List Nat} (hvs : ∀ v ∈ vs, v < 16) (hrest : ColonFirst rest) :
    takeDigits 16 (vs.map Nat.digitChar ++ rest) = (vs, rest) := by
  have hvalue : ∀ v < 16, digitValue? 16 (Nat.digitChar v) = some v := by decide
  induction vs with
  | nil =>
    cases rest with
    | nil => rfl
    | cons c rest =>
      obtain rfl := hrest c rfl
      rfl
  | cons v vs ih =>
    rw [List.forall_mem_cons] at hvs
    simp [takeDigits, hvalue v hvs.1, ih hvs.2]

/-- The digits of a number and their values. -/
theorem exists_digits_hexadecimal (n : Nat) :
    ∃ vs, hexadecimal n = vs.map Nat.digitChar ∧ (∀ v ∈ vs, v < 16) ∧ ofDigitValues 16 vs = n := by
  induction n using Nat.strongRecOn with
  | _ n ih =>
    rw [hexadecimal, Nat.toDigits_eq_if (by decide)]
    split
    · rename_i hlt
      exact ⟨[n], rfl, by simpa using hlt, by simp [ofDigitValues]⟩
    · rename_i hge
      obtain ⟨vs, hvs, hlt, hvalue⟩ := ih (n / 16) (by omega)
      refine ⟨vs ++ [n % 16], ?_, ?_, ?_⟩
      · rw [← hexadecimal, hvs, List.map_append]
        rfl
      · rw [List.forall_mem_append]
        exact ⟨hlt, by simpa using Nat.mod_lt n (by decide)⟩
      · rw [ofDigitValues, List.foldl_append, ← ofDigitValues, hvalue]
        simp only [List.foldl_cons, List.foldl_nil]
        omega

/-- A group is read back. -/
theorem takeGroup_hexadecimal (g : UInt16) (hrest : ColonFirst rest) :
    takeGroup (hexadecimal g.toNat ++ rest) = some (g, rest) := by
  have hg := g.toNat_lt
  obtain ⟨vs, hvs, hlt, hvalue⟩ := exists_digits_hexadecimal g.toNat
  have hlength : (hexadecimal g.toNat).length ≤ 4 :=
    (Nat.length_toDigits_le_iff (by decide) (by decide)).2 (by omega)
  have hne : hexadecimal g.toNat ≠ [] := Nat.toDigits_ne_nil
  rw [hvs, List.length_map] at hlength
  rw [hvs, Ne, List.map_eq_nil_iff] at hne
  have hmany : ¬ 4 < vs.length := by omega
  have hlimit : ¬ 65535 < g.toNat := by omega
  rw [takeGroup, takeNumber, hvs, takeDigits_digitChar hlt hrest]
  simp [hvalue, hne, hmany, hlimit]

/-- Where a colon stands there is no group. -/
theorem takeGroup_of_colonFirst (hrest : ColonFirst rest) : takeGroup rest = none := by
  have hnone : ∀ v ∈ ([] : List Nat), v < 16 := nofun
  have hdigits := takeDigits_digitChar hnone hrest
  rw [List.map_nil, List.nil_append] at hdigits
  simp [takeGroup, takeNumber, hdigits]

theorem areDigits_nil : AreDigits [] :=
  nofun

/-- Where a colon stands there is no IPv4 address. -/
theorem takeIPv4_of_colonFirst (hrest : ColonFirst rest) : takeIPv4 rest = none :=
  takeIPv4_eq_none areDigits_nil hrest

/-- The groups behind the first, each behind a colon. -/
def moreGroups (gs : List UInt16) : List Char :=
  gs.flatMap fun g => ':' :: hexadecimal g.toNat

theorem joinGroups_cons (g : UInt16) (gs : List UInt16) :
    joinGroups (g :: gs) = hexadecimal g.toNat ++ moreGroups gs := by
  induction gs generalizing g with
  | nil => simp [joinGroups, moreGroups]
  | cons g' gs ih =>
    rw [joinGroups, ih g']
    · simp [moreGroups]
    · exact List.cons_ne_nil g' gs

/-- Groups end where the text does, or where zeros are left out. -/
inductive EndsGroups : List Char → Prop
  | nil : EndsGroups []
  | zeros (rest : List Char) : EndsGroups (':' :: ':' :: rest)

theorem EndsGroups.colonFirst (h : EndsGroups rest) : ColonFirst rest := by
  cases h with
  | nil => exact colonFirst_nil
  | zeros rest => exact colonFirst_cons _

/-- What ends groups is left over. -/
theorem takeGroups_of_endsGroups (h : EndsGroups rest) (room : Nat) (first : Bool) :
    takeGroups room first rest = ⟨[], false, rest⟩ := by
  have hfour := takeIPv4_of_colonFirst h.colonFirst
  have hgroup := takeGroup_of_colonFirst h.colonFirst
  cases room with
  | zero => rfl
  | succ room =>
    cases first with
    | true => simp [takeGroups, hfour, hgroup]
    | false =>
      cases h with
      | nil => simp [takeGroups, takeChar]
      | zeros rest =>
        have hfour := takeIPv4_of_colonFirst (colonFirst_cons rest)
        have hgroup := takeGroup_of_colonFirst (colonFirst_cons rest)
        simp [takeGroups, takeChar, hfour, hgroup]

theorem colonFirst_moreGroups (gs : List UInt16) (h : ColonFirst rest) :
    ColonFirst (moreGroups gs ++ rest) := by
  cases gs with
  | nil => exact h
  | cons g gs => exact colonFirst_cons _

/-- A group is taken with those behind it. -/
theorem takeGroups_succ {room : Nat} {first : Bool} {cs : List Char} {g : UInt16}
    (hcs : (if first then some cs else takeChar ':' cs) = some (hexadecimal g.toNat ++ rest))
    (hrest : ColonFirst rest) :
    takeGroups (room + 1) first cs =
      { takeGroups room false rest with groups := g :: (takeGroups room false rest).groups } := by
  have hfour := takeIPv4_eq_none (areDigits_hexadecimal g.toNat) hrest
  have hgroup := takeGroup_hexadecimal g hrest
  simp [takeGroups, hcs, hfour, hgroup]

/-- Groups behind others are read back. -/
theorem takeGroups_moreGroups {gs : List UInt16} {room : Nat} (hroom : gs.length ≤ room)
    (hrest : EndsGroups rest) :
    takeGroups room false (moreGroups gs ++ rest) = ⟨gs, false, rest⟩ := by
  induction gs generalizing room with
  | nil => exact takeGroups_of_endsGroups hrest room false
  | cons g gs ih =>
    obtain _ | room := room
    · cases hroom
    have htail : moreGroups (g :: gs) ++ rest =
        ':' :: (hexadecimal g.toNat ++ (moreGroups gs ++ rest)) := by
      simp [moreGroups]
    rw [htail, takeGroups_succ (g := g) (by simp [takeChar])
      (colonFirst_moreGroups gs hrest.colonFirst), ih (Nat.le_of_succ_le_succ hroom)]

/-- Groups are read back. -/
theorem takeGroups_joinGroups {gs : List UInt16} {room : Nat} (hroom : gs.length ≤ room)
    (hrest : EndsGroups rest) :
    takeGroups room true (joinGroups gs ++ rest) = ⟨gs, false, rest⟩ := by
  cases gs with
  | nil => exact takeGroups_of_endsGroups hrest room true
  | cons g gs =>
    obtain _ | room := room
    · cases hroom
    rw [joinGroups_cons, List.append_assoc,
      takeGroups_succ rfl (colonFirst_moreGroups gs hrest.colonFirst),
      takeGroups_moreGroups (Nat.le_of_succ_le_succ hroom) hrest]

/-! ### Addresses -/

/-- What is left out of a list of groups are zeros. -/
theorem exists_zeros (start : Nat) (gs : List UInt16) :
    ∃ before behind, (longestZeros start gs).start = start + before.length ∧
      gs = before ++ List.replicate (longestZeros start gs).length 0 ++ behind := by
  induction gs generalizing start with
  | nil => exact ⟨[], [], rfl, rfl⟩
  | cons g gs ih =>
    rw [longestZeros]
    split
    · refine ⟨[], (g :: gs).dropWhile (· == 0), rfl, ?_⟩
      have hzeros : (g :: gs).takeWhile (· == 0) =
          List.replicate (leadingZeros (g :: gs)) 0 :=
        List.eq_replicate_of_mem fun c hc => by simpa using List.mem_takeWhile_imp hc
      rw [List.nil_append, ← hzeros, List.takeWhile_append_dropWhile]
    · obtain ⟨before, behind, hstart, hgs⟩ := ih (start + 1)
      refine ⟨g :: before, behind, ?_, ?_⟩
      · rw [hstart, List.length_cons]
        omega
      · exact congrArg (List.cons g) hgs

/-- The two groups of an IPv4 address are those that it was made of. -/
theorem groups_ofGroups (g h : UInt16) : (IPv4.ofGroups g h).groups = [g, h] := by
  have hgroup : ∀ g : UInt16, (g / 256).toUInt8.toUInt16 * 256 + g.toUInt8.toUInt16 = g := by
    intro g
    have hg := g.toNat_lt
    rw [← UInt16.toNat_inj]
    simp
    omega
  simp only [IPv4.ofGroups, IPv4.groups, hgroup]

theorem ofGroups?_groups (x : IPv6) : ofGroups? x.groups = some x := by
  rw [ofGroups?, dif_pos x.length_groups]

/-- What is left out between two colons are as many zeros as there are groups missing. -/
theorem takeIPv6_of_zeros {cs : List Char} {before behind : List UInt16} {dotted : Bool}
    {count : Nat} {x : IPv6} (hx : x.groups = before ++ List.replicate count 0 ++ behind)
    (hcount : 0 < count) (hhead : takeGroups 8 true cs = ⟨before, false, ':' :: ':' :: rest⟩)
    (htail : takeGroups (7 - before.length) true rest = ⟨behind, dotted, []⟩) :
    takeIPv6 cs = some (x, []) := by
  have hlen := x.length_groups
  simp only [hx, List.length_append, List.length_replicate] at hlen
  have hfew : before.length ≠ 8 := by omega
  have hleft : 8 - before.length - behind.length = count := by omega
  simp only [takeIPv6, hhead, htail, hleft, hfew, beq_iff_eq, takeChar, if_true, if_false,
    Bool.false_eq_true, Option.bind_eq_bind, Option.bind_some, ← hx, ofGroups?_groups]
  rfl

/-- An address with a dotted end is read back: two colons stand for the zeros in front of it. -/
theorem takeIPv6_dotted {g h : UInt16} {x : IPv6} (hx : x.groups = [0, 0, 0, 0, 0, 0xffff, g, h]) :
    takeIPv6 ("::ffff:".toList ++ (IPv4.ofGroups g h).chars) = some (x, []) := by
  have hfour := takeIPv4_chars (IPv4.ofGroups g h) noDigitFirst_nil
  rw [List.append_nil] at hfour
  have hdotted : takeGroups 6 false (':' :: (IPv4.ofGroups g h).chars) = ⟨[g, h], true, []⟩ := by
    simp [takeGroups, takeChar, hfour, groups_ofGroups]
  have htail : takeGroups 7 true ("ffff".toList ++ ':' :: (IPv4.ofGroups g h).chars) =
      ⟨[0xffff, g, h], true, []⟩ := by
    rw [takeGroups_succ (g := 0xffff) rfl (colonFirst_cons _), hdotted]
  have hx : x.groups = [] ++ List.replicate 5 0 ++ [0xffff, g, h] := hx
  exact takeIPv6_of_zeros hx (by decide) (takeGroups_of_endsGroups (.zeros _) 8 true) htail

/-- An IPv6 address is read back. -/
theorem takeIPv6_chars (x : IPv6) : takeIPv6 x.chars = some (x, []) := by
  have hlen := x.length_groups
  unfold chars
  split
  · rename_i g h hgroups
    exact takeIPv6_dotted hgroups
  · dsimp only
    obtain ⟨before, behind, hstart, hgs⟩ := exists_zeros 0 x.groups
    rw [Nat.zero_add] at hstart
    generalize longestZeros 0 x.groups = zeros at hstart hgs ⊢
    split
    · have hread := takeGroups_joinGroups (Nat.le_of_eq hlen) .nil
      rw [List.append_nil] at hread
      simp [takeIPv6, hread, hlen, ofGroups?_groups]
    · rename_i hcount
      have htake : x.groups.take zeros.start = before := by simp [hgs, hstart]
      have hdrop : x.groups.drop (zeros.start + zeros.length) = behind := by simp [hgs, hstart]
      have hcounts := congrArg List.length hgs
      simp only [hlen, List.length_append, List.length_replicate] at hcounts
      have hroom : behind.length ≤ 7 - before.length := by omega
      have htail := takeGroups_joinGroups hroom .nil
      rw [List.append_nil] at htail
      rw [htake, hdrop]
      exact takeIPv6_of_zeros hgs (by omega)
        (takeGroups_joinGroups (by omega) (.zeros (joinGroups behind))) htail

end IPv6

namespace IPAddress

/-- **The text of an address spells it.** -/
theorem ofText?_toText (x : IPAddress) : ofText? x.toText = some x := by
  cases x with
  | v4 x =>
    have hfour := takeIPv4_chars x noDigitFirst_nil
    rw [List.append_nil] at hfour
    simp [ofText?, toText, chars, IPv4.ofText?, hfour, whole]
  | v6 x =>
    obtain ⟨ds, rest, hchars, hds⟩ := x.exists_chars_eq
    have hfour : takeIPv4 x.chars = none :=
      hchars ▸ IPv6.takeIPv4_eq_none hds (IPv6.colonFirst_cons rest)
    simp [ofText?, toText, chars, IPv4.ofText?, IPv6.ofText?, hfour, IPv6.takeIPv6_chars, whole]

/-- Different addresses have different texts, of whichever kind they are. -/
theorem toText_injective : Function.Injective toText := fun x y h =>
  Option.some.inj (by rw [← ofText?_toText x, h, ofText?_toText y])

end IPAddress

/-! ### What stands in an address -/

variable {p : Char → Prop}

theorem forall_mem_toDigits {b n : Nat} (hb : 1 < b) (hdigit : ∀ k < b, p (Nat.digitChar k)) :
    ∀ c ∈ Nat.toDigits b n, p c := by
  intro c hc
  obtain ⟨k, hk, rfl⟩ := exists_digitChar hb hc
  exact hdigit k hk

theorem IPv4.forall_mem_chars (hdigit : ∀ k < 10, p (Nat.digitChar k)) (hdot : p '.') (x : IPv4) :
    ∀ c ∈ x.chars, p c := by
  have hdecimal : ∀ n, ∀ c ∈ decimal n, p c := fun n => forall_mem_toDigits (by decide) hdigit
  simp only [chars, List.forall_mem_append, List.forall_mem_cons]
  exact ⟨⟨⟨hdecimal _, hdot, hdecimal _⟩, hdot, hdecimal _⟩, hdot, hdecimal _⟩

theorem IPv6.forall_mem_joinGroups (hdigit : ∀ k < 16, p (Nat.digitChar k)) (hcolon : p ':')
    (gs : List UInt16) : ∀ c ∈ joinGroups gs, p c := by
  have hgroup : ∀ n, ∀ c ∈ hexadecimal n, p c := fun n => forall_mem_toDigits (by decide) hdigit
  cases gs with
  | nil => nofun
  | cons g gs =>
    rw [joinGroups_cons, List.forall_mem_append, moreGroups]
    refine ⟨hgroup _, fun c hc => ?_⟩
    obtain ⟨g', -, hc⟩ := List.mem_flatMap.1 hc
    exact List.forall_mem_cons.2 ⟨hcolon, hgroup _⟩ c hc

/-- What holds of hexadecimal digits, dots and colons holds of all that stands in an address. -/
theorem IPAddress.forall_mem_chars (hdigit : ∀ k < 16, p (Nat.digitChar k)) (hdot : p '.')
    (hcolon : p ':') (x : IPAddress) : ∀ c ∈ x.chars, p c := by
  have hdecimal : ∀ k < 10, p (Nat.digitChar k) := fun k hk => hdigit k (by omega)
  have hgroups := IPv6.forall_mem_joinGroups hdigit hcolon
  cases x with
  | v4 x => exact IPv4.forall_mem_chars hdecimal hdot x
  | v6 x =>
    rw [chars, IPv6.chars]
    split
    · have hfront : ∀ c ∈ "::ffff:".toList, p c := by
        have hf : p 'f' := hdigit 15 (by decide)
        have hall : "::ffff:".toList = [':', ':', 'f', 'f', 'f', 'f', ':'] := by decide
        simp [hall, hcolon, hf]
      rw [List.forall_mem_append]
      exact ⟨hfront, IPv4.forall_mem_chars hdecimal hdot _⟩
    · dsimp only
      split
      · exact hgroups _
      · simp only [List.forall_mem_append, List.forall_mem_cons]
        exact ⟨hgroups _, hcolon, hcolon, hgroups _⟩

end StreamedInference

import Mathlib.Algebra.Group.Nat.Defs
import Mathlib.Tactic.SplitIfs
import StreamedInference.Net.Address

/-!
# Reading back sockets

A number is read back from its decimal digits if no digit follows them, and so is an IPv4 address,
since it is made of such numbers with dots in between, and a socket with a colon in front of its
port. An IPv6 address begins with hexadecimal digits and a colon, so that a port put behind it with
nothing but a colon does not make a socket: it is not read as an IPv4 address, where a dot comes
first, nor as an IPv6 address of a socket, which stands in brackets.

## Main definitions

* `NoDigitFirst`: a text that no digit stands in front of.
* `IPv6.AreDigits`, `IPv6.ColonFirst`: hexadecimal digits, and what may stand behind them.
* `SocketAddress.address`: the address of a socket.

## Main results

* `takeIPv4_chars`, `takePort_decimal`: what is read back.
* `SocketAddress.ofText?_v4`, `SocketAddress.ofText?_v6`: addresses with a colon and a port behind
  them.
-/

namespace StreamedInference

/-! ### Digits -/

/-- What stands in a numeral are digits. -/
theorem exists_digitChar {b n : Nat} {c : Char} (hb : 1 < b) (h : c ∈ Nat.toDigits b n) :
    ∃ k < b, c = Nat.digitChar k := by
  induction n using Nat.strongRecOn with
  | _ n ih =>
    rw [Nat.toDigits_eq_if hb] at h
    split at h
    · rename_i hlt
      exact ⟨n, hlt, List.mem_singleton.1 h⟩
    · rename_i hge
      rcases List.mem_append.1 h with h | h
      · exact ih (n / b) (Nat.div_lt_self (by omega) hb) h
      · exact ⟨n % b, Nat.mod_lt n (by omega), List.mem_singleton.1 h⟩

theorem isDigit_iff {c : Char} : c.isDigit = true ↔ 48 ≤ c.toNat ∧ c.toNat ≤ 57 := by
  simp only [Char.isDigit, UInt32.le_iff_toNat_le, ge_iff_le, Bool.and_eq_true, decide_eq_true_eq]
  rfl

theorem isDigit_of_mem_decimal {n : Nat} {c : Char} (h : c ∈ decimal n) : c.isDigit = true :=
  Nat.isDigit_of_mem_toDigits (by decide) (by decide) h

/-- To the base ten the letters are no digits. -/
theorem digitValue?_ten (c : Char) :
    digitValue? 10 c = if c.isDigit then some (c.toNat - '0'.toNat) else none := by
  unfold digitValue?
  by_cases h : c.isDigit = true
  · have hc := isDigit_iff.mp h
    have hlt : c.toNat - 48 < 10 := by omega
    simp [h, hlt]
  · simp only [h, Bool.false_eq_true, if_false]
    split_ifs <;> simp

/-- No digit stands at the front of a text. -/
def NoDigitFirst (cs : List Char) : Prop :=
  ∀ c ∈ cs.head?, c.isDigit = false

@[simp] theorem noDigitFirst_nil : NoDigitFirst [] :=
  nofun

@[simp] theorem noDigitFirst_cons {c : Char} {cs : List Char} :
    NoDigitFirst (c :: cs) ↔ c.isDigit = false := by
  simp [NoDigitFirst]

theorem takeDigits_append {ds rest : List Char} (hds : ∀ c ∈ ds, c.isDigit = true)
    (hrest : NoDigitFirst rest) :
    takeDigits 10 (ds ++ rest) = (ds.map fun c => c.toNat - '0'.toNat, rest) := by
  induction ds with
  | nil =>
    cases rest with
    | nil => rfl
    | cons c rest =>
      rw [noDigitFirst_cons] at hrest
      simp [takeDigits, digitValue?_ten, hrest]
  | cons d ds ih =>
    rw [List.forall_mem_cons] at hds
    simp [takeDigits, digitValue?_ten, hds.1, ih hds.2]

/-- What follows the digits at the front of a text. -/
theorem takeDigits_snd (cs : List Char) : (takeDigits 10 cs).2 = cs.dropWhile (·.isDigit) := by
  induction cs with
  | nil => rfl
  | cons c cs ih =>
    cases h : c.isDigit <;> simp [takeDigits, digitValue?_ten, h, ih]

/-- What follows an octet. -/
theorem rest_of_takeOctet {cs rest : List Char} {x : UInt8}
    (h : takeOctet cs = some (x, rest)) : rest = cs.dropWhile (·.isDigit) := by
  rw [← takeDigits_snd]
  unfold takeOctet takeNumber at h
  dsimp only at h
  split_ifs at h
  simp_all

/-- The digits of a number give the number. -/
theorem ofDigitValues_decimal (n : Nat) :
    ofDigitValues 10 ((decimal n).map fun c => c.toNat - '0'.toNat) = n := by
  rw [ofDigitValues, List.foldl_map]
  simp only [Nat.mul_comm _ 10]
  exact Nat.ofDigitChars_ten_toDigits

/-- A number is read back from its digits, if they are not too many and no digit follows. -/
theorem takeNumber_decimal {n limit : Nat} {most : Option Nat} {rest : List Char}
    (hn : n ≤ limit) (hmost : ∀ m ∈ most, n < 10 ^ m ∧ 0 < m) (hrest : NoDigitFirst rest) :
    takeNumber 10 limit most (decimal n ++ rest) = some (n, rest) := by
  have hne : (decimal n).isEmpty = false := List.isEmpty_eq_false_iff.mpr Nat.toDigits_ne_nil
  have hmany : most.any (· < (decimal n).length) = false := by
    cases most with
    | none => rfl
    | some m =>
      obtain ⟨hlt, hpos⟩ := hmost m rfl
      exact decide_eq_false
        (Nat.not_lt.mpr ((Nat.length_toDigits_le_iff (by decide) hpos).mpr hlt))
  have hlimit : ¬ limit < n := Nat.not_lt.mpr hn
  simp only [takeNumber, takeDigits_append (fun _ => isDigit_of_mem_decimal) hrest,
    ofDigitValues_decimal, List.isEmpty_map, List.length_map, hne, hmany, hlimit]
  simp

theorem head?_decimal_append (n : Nat) (rest : List Char) :
    (decimal n ++ rest).head? = (decimal n).head? := by
  obtain ⟨c, cs, h⟩ := List.exists_cons_of_ne_nil (Nat.toDigits_ne_nil (n := n) (b := 10))
  rw [decimal, h]
  rfl

/-- No zero stands in front of a number but in `0` itself. -/
theorem eq_zero_of_head?_decimal {n : Nat} (h : (decimal n).head? = some '0') : n = 0 := by
  induction n using Nat.strongRecOn with
  | _ n ih =>
    rw [decimal, Nat.toDigits_eq_if (by decide)] at h
    split at h
    · rename_i hlt
      have hall : ∀ n < 10, Nat.digitChar n = '0' → n = 0 := by decide
      exact hall n hlt (Option.some.inj h)
    · rename_i hge
      have hzero := ih (n / 10) (by omega) ((head?_decimal_append _ _).symm.trans h)
      omega

/-- An octet is read back. -/
theorem takeOctet_decimal (x : UInt8) {rest : List Char} (hrest : NoDigitFirst rest) :
    takeOctet (decimal x.toNat ++ rest) = some (x, rest) := by
  have hx := x.toNat_lt
  have hnumber : takeNumber 10 255 (some 3) (decimal x.toNat ++ rest) = some (x.toNat, rest) :=
    takeNumber_decimal (by omega) (by rintro m ⟨⟩; omega) hrest
  have hzeros : ¬ ((decimal x.toNat ++ rest).head? = some '0' ∧
      rest.length + 1 < (decimal x.toNat ++ rest).length) := by
    rintro ⟨hhead, hlen⟩
    rw [head?_decimal_append] at hhead
    rw [eq_zero_of_head?_decimal hhead] at hlen
    simp [decimal] at hlen
  simp only [takeOctet, hnumber, Bool.and_eq_true, beq_iff_eq, decide_eq_true_eq, hzeros, if_false]
  simp

/-- An IPv4 address is read back. -/
theorem takeIPv4_chars (x : IPv4) {rest : List Char} (hrest : NoDigitFirst rest) :
    takeIPv4 (x.chars ++ rest) = some (x, rest) := by
  have hdot : ∀ cs : List Char, NoDigitFirst ('.' :: cs) := by simp
  simp [takeIPv4, IPv4.chars, takeOctet_decimal, takeChar, hdot, hrest]

/-- A port is read back. -/
theorem takePort_decimal (p : UInt16) : takePort (':' :: decimal p.toNat) = some (p, []) := by
  have hp := p.toNat_lt
  have hnumber : takeNumber 10 65535 none (decimal p.toNat ++ []) = some (p.toNat, []) :=
    takeNumber_decimal (by omega) (by simp) noDigitFirst_nil
  rw [List.append_nil] at hnumber
  simp [takePort, takeChar, hnumber]

/-! ### Sockets -/

namespace SocketAddress

/-- The address of a socket. -/
def address : SocketAddress → IPAddress
  | .v4 x _ => .v4 x
  | .v6 x _ _ => .v6 x

/-- An IPv4 address with a colon and a port behind it is the text of a socket. -/
theorem ofText?_v4 {text : String} {x : IPv4} {p : UInt16}
    (h : text.toList = x.chars ++ ':' :: decimal p.toNat) : ofText? text = some (.v4 x p) := by
  have hcolon : NoDigitFirst (':' :: decimal p.toNat) := by simp
  simp [ofText?, h, takeIPv4_chars x hcolon, takePort_decimal, whole]

end SocketAddress

namespace IPv6

/-- The characters are hexadecimal digits. -/
def AreDigits (ds : List Char) : Prop :=
  ∀ c ∈ ds, ∃ k < 16, c = Nat.digitChar k

theorem areDigits_hexadecimal (n : Nat) : AreDigits (hexadecimal n) :=
  fun _ => exists_digitChar (by decide)

/-- Behind a group of digits another colon stands, or nothing. -/
def ColonFirst (rest : List Char) : Prop :=
  ∀ c ∈ rest.head?, c = ':'

@[simp] theorem colonFirst_nil : ColonFirst [] :=
  nofun

@[simp] theorem colonFirst_cons (rest : List Char) : ColonFirst (':' :: rest) := by
  simp [ColonFirst]

/-- What stands in front of the first colon of some groups are digits. -/
theorem exists_joinGroups_eq (gs : List UInt16) (rest : List Char) :
    ∃ ds rest', joinGroups gs ++ ':' :: rest = ds ++ ':' :: rest' ∧ AreDigits ds := by
  match gs with
  | [] => exact ⟨[], rest, rfl, nofun⟩
  | [g] => exact ⟨hexadecimal g.toNat, rest, rfl, areDigits_hexadecimal _⟩
  | g :: g' :: gs =>
    refine ⟨hexadecimal g.toNat, joinGroups (g' :: gs) ++ ':' :: rest, ?_, areDigits_hexadecimal _⟩
    simp [joinGroups]

/-- The text of an IPv6 address begins with some hexadecimal digits and a colon. -/
theorem exists_chars_eq (x : IPv6) :
    ∃ ds rest, x.chars = ds ++ ':' :: rest ∧ AreDigits ds := by
  have hlen := x.length_groups
  unfold chars
  split
  · exact ⟨[], _, rfl, nofun⟩
  · dsimp only
    split
    · obtain ⟨g, g', gs, hgs⟩ : ∃ g g' gs, x.groups = g :: g' :: gs := by
        match hgs : x.groups with
        | [] | [_] => simp [hgs] at hlen
        | g :: g' :: gs => exact ⟨g, g', gs, rfl⟩
      exact ⟨hexadecimal g.toNat, joinGroups (g' :: gs), by rw [hgs]; rfl, areDigits_hexadecimal _⟩
    · exact exists_joinGroups_eq _ _

/-- Behind the decimal digits at the front of such a text no dot stands. -/
theorem takeChar_dropWhile {ds rest : List Char} (h : AreDigits ds) (hrest : ColonFirst rest) :
    takeChar '.' ((ds ++ rest).dropWhile (·.isDigit)) = none := by
  induction ds with
  | nil =>
    cases rest with
    | nil => rfl
    | cons c rest =>
      obtain rfl := hrest c rfl
      rfl
  | cons d ds ih =>
    have hdot : ∀ k < 16, Nat.digitChar k ≠ '.' := by decide
    obtain ⟨⟨k, hk, rfl⟩, hds⟩ := List.forall_mem_cons.mp h
    rw [List.cons_append, List.dropWhile_cons]
    split
    · exact ih hds
    · simp [takeChar, (hdot k hk).symm]

/-- Such a text is not read as an IPv4 address. -/
theorem takeIPv4_eq_none {ds rest : List Char} (h : AreDigits ds) (hrest : ColonFirst rest) :
    takeIPv4 (ds ++ rest) = none := by
  cases hoctet : takeOctet (ds ++ rest) with
  | none => simp [takeIPv4, hoctet]
  | some r =>
    obtain ⟨x, rest'⟩ := r
    obtain rfl := rest_of_takeOctet hoctet
    simp [takeIPv4, hoctet, takeChar_dropWhile h hrest]

end IPv6

/-- An IPv6 address with anything behind it is not the text of a socket, which would have to begin
with a bracket. -/
theorem SocketAddress.ofText?_v6 {text : String} {x : IPv6} {rest : List Char}
    (h : text.toList = x.chars ++ rest) : ofText? text = none := by
  obtain ⟨ds, rest', hx, hds⟩ := x.exists_chars_eq
  have hbracket : takeChar '[' (ds ++ ':' :: (rest' ++ rest)) = none := by
    cases ds with
    | nil => rfl
    | cons d ds =>
      have hall : ∀ k < 16, Nat.digitChar k ≠ '[' := by decide
      obtain ⟨k, hk, rfl⟩ := (List.forall_mem_cons.mp hds).1
      simp [takeChar, (hall k hk).symm]
  rw [hx, List.append_assoc, List.cons_append] at h
  simp [ofText?, h, IPv6.takeIPv4_eq_none hds (IPv6.colonFirst_cons _), hbracket, whole]

end StreamedInference

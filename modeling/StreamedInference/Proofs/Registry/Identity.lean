import StreamedInference.Proofs.Net.Groups
import StreamedInference.Registry.Registration
import StreamedInference.Text.Pieces

/-!
# Identities

An id is a name, an address and a port with dashes between them. Any text may be a name, also one
with dashes or one that ends like an id, but neither an address nor a port has a dash in it. So the
last dash of an id stands in front of the port and the one before it in front of the address, and
what stands before that is the name. As the texts of different addresses differ, and those of
different ports, no two instances share an id.

## Main definitions

* `Registration.placeOf`: what stands in an id behind the name.

## Main results

* `Registration.spanLast_idOf`: the port stands behind the last dash of an id.
* `Registration.ids_differ`: no two instances share an id.
-/

namespace StreamedInference

/-- Different numbers have different digits. -/
theorem decimal_injective : Function.Injective decimal := fun n m h => by
  rw [← ofDigitValues_decimal n, h, ofDigitValues_decimal]

theorem dash_notMem_decimal (n : Nat) : '-' ∉ decimal n := fun h =>
  absurd (isDigit_of_mem_decimal h) (by decide)

theorem IPAddress.dash_notMem_chars (x : IPAddress) : '-' ∉ x.chars := fun h =>
  forall_mem_chars (p := (· ≠ '-')) (by decide) (by decide) (by decide) x '-' h rfl

namespace Registration

variable {name name' : String} {address address' : IPAddress} {port port' : UInt16}

/-- What stands in an id behind the name and a dash. -/
def placeOf (address : IPAddress) (port : UInt16) : List Char :=
  address.chars ++ '-' :: decimal port.toNat

theorem toList_idOf (name : String) (address : IPAddress) (port : UInt16) :
    (idOf name address port).toList = name.toList ++ '-' :: placeOf address port := by
  simp [idOf, placeOf, IPAddress.toText]

/-- An id is parted at its last dash into its front and the port. -/
theorem spanLast_idOf (name : String) (address : IPAddress) (port : UInt16) :
    Pieces.spanLast '-' (idOf name address port).toList =
      (some (name.toList ++ '-' :: address.chars), decimal port.toNat) := by
  have hsplit : (idOf name address port).toList =
      (name.toList ++ '-' :: address.chars) ++ '-' :: decimal port.toNat := by
    simp [toList_idOf, placeOf]
  rw [hsplit, Pieces.spanLast_append_cons (dash_notMem_decimal _)]

/-- **No two instances share an id.** Whatever texts the names are, with dashes, digits, dots or
colons in them or with a whole address at the end, and of whichever kind the addresses are, two
instances have the same id only if they have the same name, address and port. -/
theorem ids_differ (name name' : String) (address address' : IPAddress) (port port' : UInt16) :
    (Registration.of name address port).id = (Registration.of name' address' port').id ↔
      name = name' ∧ address = address' ∧ port = port' := by
  constructor
  · intro (h : idOf name address port = idOf name' address' port')
    have hport := spanLast_idOf name address port
    rw [h, spanLast_idOf, Prod.mk.injEq, Option.some.injEq] at hport
    obtain ⟨hfront, hport⟩ := hport
    have haddress := Pieces.spanLast_append_cons address.dash_notMem_chars name.toList
    rw [← hfront, Pieces.spanLast_append_cons address'.dash_notMem_chars, Prod.mk.injEq,
      Option.some.injEq] at haddress
    obtain ⟨hname, haddress⟩ := haddress
    refine ⟨String.toList_inj.1 hname.symm, IPAddress.toText_injective ?_, ?_⟩
    · rw [IPAddress.toText, IPAddress.toText, haddress]
    · exact UInt16.toNat_inj.1 (decimal_injective hport.symm)
  · rintro ⟨rfl, rfl, rfl⟩
    rfl

end Registration

end StreamedInference

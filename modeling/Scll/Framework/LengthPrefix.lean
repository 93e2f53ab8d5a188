import Scll.Framework.PrefixCode
import Mathlib.Data.Nat.Notation

/-! # Length-prefixed fields

    A field of octets behind its length in one octet, and fields of that kind
    one after the other. A field of at most 255 octets is taken off the front
    again whatever follows it.
-/

namespace LengthPrefix

open PrefixCode

/-- A field behind its length. -/
def lvField (field : List UInt8) : List UInt8 := UInt8.ofNat field.length :: field

/-- Fields behind their lengths. -/
def lvFields (fields : List (List UInt8)) : List UInt8 := fields.flatMap lvField

theorem lvFields_cons (f : List UInt8) (fs : List (List UInt8)) :
    lvFields (f :: fs) = lvField f ++ lvFields fs := List.flatMap_cons

/-- Take a field off the front. -/
def takeField : List UInt8 → Option (List UInt8 × List UInt8)
  | [] => none
  | len :: rest =>
      if len.toNat ≤ rest.length then some (rest.take len.toNat, rest.drop len.toNat) else none

/-- A data field of a number of fields and nothing else. -/
def splitFields (n : ℕ) (data : List UInt8) : Option (List (List UInt8)) :=
  match takeItems takeField n data with
  | some (fields, []) => some fields
  | _ => none

theorem takeField_lvField {field rest : List UInt8} (h : field.length ≤ 255) :
    takeField (lvField field ++ rest) = some (field, rest) := by
  have hlen : (UInt8.ofNat field.length).toNat = field.length := by
    rw [UInt8.toNat_ofNat']
    omega
  rw [lvField, List.cons_append, takeField, hlen, if_pos (by simp), List.take_left,
    List.drop_left]

theorem splitFields_lvFields {fields : List (List UInt8)} (h : ∀ f ∈ fields, f.length ≤ 255) :
    splitFields fields.length (lvFields fields) = some fields := by
  have htake : takeItems takeField fields.length (lvFields fields ++ []) = some (fields, []) :=
    takeItems_flatMap fun f hf _ => takeField_lvField (h f hf)
  rw [List.append_nil] at htake
  rw [splitFields, htake]

/-- No field is longer than all of them. -/
theorem length_le_lvFields {fields : List (List UInt8)} {f : List UInt8} (hf : f ∈ fields) :
    f.length ≤ (lvFields fields).length := by
  obtain ⟨before, after, rfl⟩ := List.append_of_mem hf
  simp [lvFields, lvField]
  omega

end LengthPrefix

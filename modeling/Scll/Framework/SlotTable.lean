import Mathlib.Data.List.FinRange
import Mathlib.Logic.Function.Basic

/-! # Tables of reusable slots

    A fixed number of slots, each empty or holding a value, addressed by a
    bare number. A value is stored in the first empty slot; a number out of
    range addresses nothing, and writing there has no effect.
-/

/-- A table of `n` slots. -/
structure SlotTable (n : Nat) (α : Type) where
  slot : Fin n → Option α

namespace SlotTable

variable {n : Nat} {α : Type}

/-- The table with no occupied slot. -/
def empty (n : Nat) (α : Type) : SlotTable n α := ⟨fun _ => none⟩

/-- The value at `i`, if `i` is in range and the slot is occupied. -/
def get (t : SlotTable n α) (i : Nat) : Option α :=
  if h : i < n then t.slot ⟨i, h⟩ else none

/-- Overwrite the slot `i`, if `i` is in range. -/
def set (t : SlotTable n α) (i : Nat) (v : Option α) : SlotTable n α :=
  if h : i < n then ⟨Function.update t.slot ⟨i, h⟩ v⟩ else t

/-- The first empty slot. -/
def firstFree (t : SlotTable n α) : Option (Fin n) :=
  (List.finRange n).find? fun i => (t.slot i).isNone

/-- The number of occupied slots. -/
def occupied (t : SlotTable n α) : Nat :=
  (List.finRange n).countP fun i => (t.slot i).isSome

@[ext] theorem ext {t t' : SlotTable n α} (h : ∀ i, t.get i = t'.get i) : t = t' := by
  obtain ⟨f⟩ := t
  obtain ⟨g⟩ := t'
  congr 1
  funext i
  have := h i.val
  simpa only [get, dif_pos i.isLt] using this

@[simp] theorem get_empty (i : Nat) : (empty n α).get i = none := by
  unfold get empty
  split <;> rfl

/-- An occupied slot is in range. -/
theorem lt_of_get {t : SlotTable n α} {i : Nat} {v : α} (h : t.get i = some v) : i < n := by
  unfold get at h
  split at h
  · assumption
  · cases h

theorem get_set_self {t : SlotTable n α} {i : Nat} (hi : i < n) (v : Option α) :
    (t.set i v).get i = v := by
  rw [get, dif_pos hi, set, dif_pos hi]
  exact Function.update_self ..

theorem get_set_of_ne (t : SlotTable n α) {i j : Nat} (h : j ≠ i) (v : Option α) :
    (t.set i v).get j = t.get j := by
  unfold get set
  by_cases hj : j < n
  · rw [dif_pos hj, dif_pos hj]
    by_cases hi : i < n
    · rw [dif_pos hi]
      exact Function.update_of_ne (fun heq => h (Fin.mk.inj heq)) ..
    · rw [dif_neg hi]
  · rw [dif_neg hj, dif_neg hj]

/-- An emptied slot reads as empty, also when it is out of range. -/
@[simp] theorem get_set_none (t : SlotTable n α) (i : Nat) : (t.set i none).get i = none := by
  by_cases hi : i < n
  · exact get_set_self hi none
  · rw [get, dif_neg hi]

theorem get_set (t : SlotTable n α) (i j : Nat) (v : Option α) :
    (t.set i v).get j = if j = i ∧ i < n then v else t.get j := by
  by_cases h : j = i
  · subst h
    by_cases hj : j < n
    · rw [get_set_self hj, if_pos ⟨rfl, hj⟩]
    · rw [if_neg (fun h => hj h.2), set, dif_neg hj]
  · rw [get_set_of_ne t h, if_neg (fun h' => h h'.1)]

@[simp] theorem set_set (t : SlotTable n α) (i : Nat) (v w : Option α) :
    (t.set i v).set i w = t.set i w := by
  ext1 j
  simp only [get_set]
  split <;> rfl

/-- Writing back what is there changes nothing. -/
theorem set_get (t : SlotTable n α) (i : Nat) : t.set i (t.get i) = t := by
  ext1 j
  rw [get_set]
  split
  · next h => rw [h.1]
  · rfl

theorem firstFree_get {t : SlotTable n α} {i : Fin n} (h : t.firstFree = some i) :
    t.get i = none := by
  have := List.find?_some h
  rw [get, dif_pos i.isLt]
  simpa using this

/-- There is no empty slot exactly when all are occupied. -/
theorem firstFree_eq_none {t : SlotTable n α} (h : t.firstFree = none) (i : Fin n) :
    ∃ v, t.get i = some v := by
  have := List.find?_eq_none.mp h i (List.mem_finRange i)
  rw [get, dif_pos i.isLt]
  exact Option.ne_none_iff_exists'.mp (by simpa using this)

/-! ### Counting -/

@[simp] theorem occupied_empty : (empty n α).occupied = 0 := by
  simp [occupied, empty]

theorem occupied_eq_zero {t : SlotTable n α} : t.occupied = 0 ↔ t = empty n α := by
  constructor
  · intro h
    ext1 i
    rw [get_empty]
    by_cases hi : i < n
    · have := List.countP_eq_zero.mp h ⟨i, hi⟩ (List.mem_finRange _)
      rw [get, dif_pos hi]
      simpa using this
    · rw [get, dif_neg hi]
  · rintro rfl
    exact occupied_empty

/-- Counting with one slot set aside. -/
theorem countP_split (p : Fin n → Bool) (i : Fin n) :
    (List.finRange n).countP p =
      (List.finRange n).countP (fun j => p j && j != i) + (if p i then 1 else 0) := by
  have hsplit : ∀ l : List (Fin n), l.Nodup → l.countP p =
      l.countP (fun j => p j && j != i) + (if i ∈ l ∧ p i then 1 else 0) := by
    intro l
    induction l with
    | nil => simp
    | cons j l ih =>
      intro hnd
      obtain ⟨hj, hl⟩ := List.nodup_cons.mp hnd
      rw [List.countP_cons, List.countP_cons, ih hl]
      by_cases hji : j = i
      · subst hji
        simp [hj]
      · have hij : i ≠ j := fun h => hji h.symm
        simp only [List.mem_cons, hij, false_or, bne_iff_ne, ne_eq, hji, not_false_eq_true,
          Bool.and_eq_true, and_true]
        omega
  have := hsplit (List.finRange n) (List.nodup_finRange n)
  simpa [List.mem_finRange] using this

/-- Changing one slot changes the count by that slot. -/
theorem occupied_set {t : SlotTable n α} {i : Nat} (hi : i < n) (v : Option α) :
    (t.set i v).occupied + (if (t.get i).isSome then 1 else 0) =
      t.occupied + (if v.isSome then 1 else 0) := by
  have hget : t.get i = t.slot ⟨i, hi⟩ := by rw [get, dif_pos hi]
  have hset : t.set i v = ⟨Function.update t.slot ⟨i, hi⟩ v⟩ := by rw [set, dif_pos hi]
  have hrest : ∀ j : Fin n, ((Function.update t.slot ⟨i, hi⟩ v j).isSome && j != ⟨i, hi⟩) =
      ((t.slot j).isSome && j != ⟨i, hi⟩) := by
    intro j
    by_cases hj : j = ⟨i, hi⟩
    · simp [hj]
    · rw [Function.update_of_ne hj]
  rw [hset, hget, occupied, occupied, countP_split _ ⟨i, hi⟩,
    countP_split (fun j => (t.slot j).isSome) ⟨i, hi⟩]
  simp only [hrest, Function.update_self]
  omega

/-- Emptying an occupied slot takes one away. -/
theorem occupied_free {t : SlotTable n α} {i : Nat} {v : α} (h : t.get i = some v) :
    (t.set i none).occupied + 1 = t.occupied := by
  have := occupied_set (t := t) (lt_of_get h) none
  simpa [h] using this

/-- A table that emptying one slot empties has that slot in use at most. -/
theorem occupied_le_one {t : SlotTable n α} {i : Nat} (h : (t.set i none).occupied = 0) :
    t.occupied ≤ 1 := by
  cases hget : t.get i with
  | none =>
    have hset := t.set_get i
    rw [hget] at hset
    rw [hset] at h
    omega
  | some v =>
    have := occupied_free hget
    omega

end SlotTable

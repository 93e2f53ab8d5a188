import Mathlib.Data.List.Basic

/-! # Ring buffers

    A buffer of fixed size that a stream is written into at the position of the
    stream modulo the size. The buffer holds as much of the end of the stream as
    it has room for, whatever it held before, and a stretch of the stream that
    it holds is read back in pieces that do not cross the seam.
-/

namespace Ring

variable {α : Type}

/-- A ring of size `size` holds the end of the stream, as much as fits. -/
def Holds (size : ℕ) (ring stream : List α) : Prop :=
  ∀ i, i < stream.length → stream.length ≤ i + size → ring[i % size]? = stream[i]?

/-- `after` is `before` with `src` written at `pos`. -/
structure Written (before after : List α) (pos : ℕ) (src : List α) : Prop where
  new : ∀ k, k < src.length → after[pos + k]? = src[k]?
  old : ∀ j, j < pos ∨ pos + src.length ≤ j → after[j]? = before[j]?

/-- Any buffer holds the empty stream. -/
theorem holds_nil (size : ℕ) (ring : List α) : Holds size ring [] := by
  intro i hi
  exact absurd hi (Nat.not_lt_zero i)

/-- A position a little further on lies a little further on in the ring, up to
    the seam. -/
theorem add_mod_of_fits {size n k : ℕ} (h : n % size + k < size) :
    (n + k) % size = n % size + k := by
  rw [Nat.add_mod, Nat.mod_eq_of_lt (by omega : k < size), Nat.mod_eq_of_lt h]

/-- Positions a ring apart at most do not meet short of the whole ring. -/
theorem mod_outside {size n m i : ℕ} (hfit : n % size + m ≤ size) (hi : i < n)
    (hrecent : n + m ≤ i + size) :
    i % size < n % size ∨ n % size + m ≤ i % size := by
  by_contra hinside
  have hinside : n % size ≤ i % size ∧ i % size < n % size + m := by omega
  have hpos : 0 < size := by omega
  have hidiv := Nat.div_add_mod i size
  have hndiv := Nat.div_add_mod n size
  have hle : i / size ≤ n / size := Nat.div_le_div_right (Nat.le_of_lt hi)
  rcases Nat.lt_or_ge (i / size) (n / size) with hlt | hge
  · have hmul : size * (i / size) + size ≤ size * (n / size) := by
      rw [← Nat.mul_succ]
      exact Nat.mul_le_mul_left _ hlt
    omega
  · have heq : i / size = n / size := Nat.le_antisymm hle hge
    rw [heq] at hidiv
    omega

/-- Writing at the position of the stream, up to the seam, appends to it. -/
theorem Holds.write {size : ℕ} {before after stream src : List α} (h : Holds size before stream)
    (hfit : stream.length % size + src.length ≤ size)
    (hwritten : Written before after (stream.length % size) src) :
    Holds size after (stream ++ src) := by
  intro i hi hrecent
  rw [List.length_append] at hi hrecent
  by_cases hold : i < stream.length
  · rw [List.getElem?_append_left hold, hwritten.old _ (mod_outside hfit hold hrecent)]
    exact h i hold (by omega)
  · obtain ⟨k, rfl⟩ : ∃ k, i = stream.length + k := ⟨i - stream.length, by omega⟩
    rw [List.getElem?_append_right (by omega), add_mod_of_fits (by omega),
      hwritten.new k (by omega), Nat.add_sub_cancel_left]

/-- A stretch of the stream, up to the seam, is read back. -/
theorem Holds.read {size : ℕ} {ring stream : List α} (h : Holds size ring stream) {i n : ℕ}
    (hend : i + n ≤ stream.length) (hrecent : stream.length ≤ i + size)
    (hseam : i % size + n ≤ size) :
    (ring.drop (i % size)).take n = (stream.drop i).take n := by
  apply List.ext_getElem?
  intro k
  by_cases hk : k < n
  · rw [List.getElem?_take_of_lt hk, List.getElem?_take_of_lt hk, List.getElem?_drop,
      List.getElem?_drop, ← add_mod_of_fits (by omega)]
    exact h (i + k) (by omega) (by omega)
  · rw [List.getElem?_take_eq_none (by omega), List.getElem?_take_eq_none (by omega)]

end Ring

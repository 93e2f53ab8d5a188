import Scll.Framework.BlockMode

/-! # Key derivation in counter mode

    A pseudo-random function is called on the counters `1, 2, …`, and as many
    octets as asked for are taken from the front of its blocks. The function
    gets the counter alone; label, length and context are part of it.
-/

namespace CounterMode

open BlockMode

variable {n : ℕ}

/-- The blocks of `k` counters from `i` on. -/
def blocks (f : ℕ → Block n) (i k : ℕ) : List UInt8 := ofBlocks ((List.range' i k).map f)

/-- How many blocks it takes to fill `len` octets. -/
def count (n len : ℕ) : ℕ := (len + n - 1) / n

/-- The first `len` octets. -/
def output (f : ℕ → Block n) (len : ℕ) : List UInt8 := (blocks f 1 (count n len)).take len

@[simp] theorem length_blocks (f : ℕ → Block n) (i k : ℕ) : (blocks f i k).length = n * k := by
  rw [blocks, length_ofBlocks, List.length_map, List.length_range']

theorem blocks_succ (f : ℕ → Block n) (i k : ℕ) :
    blocks f i (k + 1) = (f i).val ++ blocks f (i + 1) k := by
  unfold blocks
  rw [List.range'_succ, List.map_cons, ofBlocks_cons]

theorem le_count (hn : 0 < n) (len : ℕ) : len ≤ n * count n len := by
  have hmod := Nat.mod_lt (len + n - 1) hn
  have hdiv := Nat.div_add_mod (len + n - 1) n
  unfold count
  omega

theorem length_output (hn : 0 < n) (f : ℕ → Block n) (len : ℕ) : (output f len).length = len := by
  rw [output, List.length_take, length_blocks]
  exact Nat.min_eq_left (le_count hn len)

/-- The front of the blocks is the front of the first, and then of the others. -/
theorem take_blocks_succ (f : ℕ → Block n) (i k want : ℕ) :
    (blocks f i (k + 1)).take want =
      (f i).val.take (min n want) ++ (blocks f (i + 1) k).take (want - min n want) := by
  rw [blocks_succ, List.take_append, (f i).property]
  by_cases h : want ≤ n
  · rw [Nat.min_eq_right h, Nat.sub_self, Nat.sub_eq_zero_of_le h]
  · have hle : n ≤ want := Nat.le_of_not_le h
    rw [Nat.min_eq_left hle, List.take_of_length_le (Nat.le_trans (Nat.le_of_eq (f i).property) hle),
      List.take_of_length_le (Nat.le_of_eq (f i).property)]

end CounterMode

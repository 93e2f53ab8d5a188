import Mathlib.Data.List.Induction
import Mathlib.Data.List.Nodup

/-! # Grouping by key

    Items that carry a key, grouped: the keys in the order in which each comes
    first, and the values under a key in their order among the items. A table
    that finds the group of a key or appends a new one holds exactly that, item
    by item: `keys_concat` and `valuesAt_concat` are what one item changes.

    `Fits` is the room of a table with a bounded number of groups of bounded
    size.
-/

namespace Grouping

variable {κ ν : Type} [DecidableEq κ]

/-- The keys, in the order in which each comes first. -/
def keys (items : List (κ × ν)) : List κ := (items.map Prod.fst).eraseDups

/-- The values under a key, in order. -/
def valuesAt (k : κ) (items : List (κ × ν)) : List ν :=
  (items.filter fun item => item.1 == k).map Prod.snd

theorem mem_keys {k : κ} {items : List (κ × ν)} : k ∈ keys items ↔ ∃ v, (k, v) ∈ items := by
  rw [keys, List.mem_eraseDups]
  simp

/-- A new key comes last; a known one changes nothing. -/
theorem keys_concat (items : List (κ × ν)) (k : κ) (v : ν) :
    keys (items ++ [(k, v)]) = if k ∈ keys items then keys items else keys items ++ [k] := by
  simp only [keys, List.map_append, List.map_cons, List.map_nil, List.eraseDups_append,
    List.mem_eraseDups]
  by_cases hk : k ∈ items.map Prod.fst
  · have hold : List.removeAll [k] (items.map Prod.fst) = [] := by
      rw [List.removeAll, List.filter_eq_nil_iff]
      simpa using hk
    rw [if_pos hk, hold, List.eraseDups_nil, List.append_nil]
  · have hnew : List.removeAll [k] (items.map Prod.fst) = [k] := by
      rw [List.removeAll, List.filter_eq_self]
      simpa using hk
    rw [if_neg hk, hnew, List.eraseDups_cons]
    rfl

theorem nodup_keys (items : List (κ × ν)) : (keys items).Nodup := by
  induction items using List.reverseRecOn with
  | nil => exact List.nodup_nil
  | append_singleton items item ih =>
    rw [keys_concat]
    split
    · exact ih
    · next hnew =>
      refine List.nodup_append.mpr ⟨ih, List.nodup_singleton _, fun a ha b hb hab => ?_⟩
      rw [List.mem_singleton] at hb
      exact hnew (hb ▸ hab ▸ ha)

theorem valuesAt_append (k : κ) (as bs : List (κ × ν)) :
    valuesAt k (as ++ bs) = valuesAt k as ++ valuesAt k bs := by
  simp only [valuesAt, List.filter_append, List.map_append]

@[simp] theorem valuesAt_singleton_self (k : κ) (v : ν) : valuesAt k [(k, v)] = [v] := by
  simp [valuesAt]

theorem valuesAt_singleton_ne {k k' : κ} (h : k' ≠ k) (v : ν) : valuesAt k [(k', v)] = [] := by
  simp [valuesAt, h]

/-- An item adds its value to its own group and leaves the others. -/
theorem valuesAt_concat (items : List (κ × ν)) (k k' : κ) (v : ν) :
    valuesAt k' (items ++ [(k, v)]) =
      if k = k' then valuesAt k' items ++ [v] else valuesAt k' items := by
  rw [valuesAt_append]
  split
  · next h => rw [h, valuesAt_singleton_self]
  · next h => rw [valuesAt_singleton_ne h, List.append_nil]

theorem valuesAt_eq_nil {k : κ} {items : List (κ × ν)} (h : k ∉ keys items) :
    valuesAt k items = [] := by
  rw [valuesAt, List.map_eq_nil_iff, List.filter_eq_nil_iff]
  intro item hitem heq
  exact h (mem_keys.mpr ⟨item.2, beq_iff_eq.mp heq ▸ hitem⟩)

/-! ### Room -/

/-- The items form no more groups than there is room for, none too large. -/
structure Fits (groups size : ℕ) (items : List (κ × ν)) : Prop where
  few : (keys items).length ≤ groups
  small : ∀ k, (valuesAt k items).length ≤ size

variable {groups size : ℕ}

theorem Fits.nil : Fits groups size ([] : List (κ × ν)) := ⟨Nat.zero_le _, fun _ => Nat.zero_le _⟩

theorem fits_concat_of_mem {items : List (κ × ν)} {k : κ} (v : ν) (h : Fits groups size items)
    (hk : k ∈ keys items) :
    Fits groups size (items ++ [(k, v)]) ↔ (valuesAt k items).length < size := by
  constructor
  · intro hfits
    have := hfits.small k
    rw [valuesAt_concat, if_pos rfl, List.length_append, List.length_singleton] at this
    omega
  · intro hroom
    refine ⟨?_, fun k' => ?_⟩
    · rw [keys_concat, if_pos hk]
      exact h.few
    · rw [valuesAt_concat]
      split
      · next heq =>
        rw [← heq, List.length_append, List.length_singleton]
        omega
      · exact h.small k'

theorem fits_concat_of_not_mem {items : List (κ × ν)} {k : κ} (v : ν)
    (h : Fits groups size items) (hk : k ∉ keys items) (hsize : 0 < size) :
    Fits groups size (items ++ [(k, v)]) ↔ (keys items).length < groups := by
  constructor
  · intro hfits
    have := hfits.few
    rw [keys_concat, if_neg hk, List.length_append, List.length_singleton] at this
    omega
  · intro hroom
    refine ⟨?_, fun k' => ?_⟩
    · rw [keys_concat, if_neg hk, List.length_append, List.length_singleton]
      omega
    · rw [valuesAt_concat]
      split
      · next heq =>
        rw [← heq, valuesAt_eq_nil hk]
        exact hsize
      · exact h.small k'

/-- Items that fit do so from the first on. -/
theorem Fits.of_append {as bs : List (κ × ν)} (h : Fits groups size (as ++ bs)) :
    Fits groups size as := by
  refine ⟨?_, fun k => ?_⟩
  · have := h.few
    rw [keys, List.map_append, List.eraseDups_append, List.length_append] at this
    show (as.map Prod.fst).eraseDups.length ≤ groups
    omega
  · have := h.small k
    rw [valuesAt_append, List.length_append] at this
    omega

end Grouping

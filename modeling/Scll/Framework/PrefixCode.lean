import Mathlib.Data.List.Forall2

/-! # Prefix codes

    An encoding is a prefix code when what follows an item does not tell where
    the item ends: the item does. So does then a list of items of known length.
    A loop that reads a number of items, and keeps no more than it has room for,
    inverts the encoding.
-/

namespace PrefixCode

variable {α β γ ε : Type}

/-- An encoded item ends where it says it does. -/
def IsPrefixCode (enc : β → List α) : Prop :=
  ∀ ⦃x y : β⦄ ⦃s t : List α⦄, enc x ++ s = enc y ++ t → x = y ∧ s = t

variable {enc : β → List α}

/-- So does a list of items, if it is known how many there are. -/
theorem flatMap_inj (h : IsPrefixCode enc) {xs ys : List β} {s t : List α}
    (hlen : xs.length = ys.length) (heq : xs.flatMap enc ++ s = ys.flatMap enc ++ t) :
    xs = ys ∧ s = t := by
  induction xs generalizing ys with
  | nil =>
    obtain rfl := List.length_eq_zero_iff.mp hlen.symm
    exact ⟨rfl, heq⟩
  | cons x xs ih =>
    obtain ⟨y, ys, rfl⟩ := List.exists_cons_of_length_eq_add_one hlen.symm
    simp only [List.flatMap_cons, List.append_assoc] at heq
    obtain ⟨rfl, hrest⟩ := h heq
    simp only [List.length_cons, Nat.add_right_cancel_iff] at hlen
    obtain ⟨rfl, rfl⟩ := ih hlen hrest
    exact ⟨rfl, rfl⟩

/-! ### Reading a number of items -/

/-- The reader takes an item off the front, and stands for it by a value. -/
def Reads (one : List α → Except ε (γ × List α)) (enc : β → List α) (val : β → γ → Prop) : Prop :=
  ∀ {as : List α} {x : γ} {rest : List α},
    one as = .ok (x, rest) ↔ ∃ b, as = enc b ++ rest ∧ val b x

/-- Read a number of items, at most `cap` behind those that are there. -/
def readCounted (one : List α → Except ε (γ × List α)) (cap : ℕ) (full : ε) :
    ℕ → List α → List γ → Except ε (List γ)
  | 0, _, acc => .ok acc
  | n + 1, as, acc => do
      let (x, rest) ← one as
      if acc.length < cap then readCounted one cap full n rest (acc ++ [x]) else .error full

variable {one : List α → Except ε (γ × List α)} {val : β → γ → Prop} {cap : ℕ} {full : ε}

/-- The loop accepts exactly the encodings of that many items, of which it has
    room for the values. -/
theorem readCounted_iff (h : Reads one enc val) {n : ℕ} {as : List α} {acc out : List γ}
    (hacc : acc.length ≤ cap) :
    readCounted one cap full n as acc = .ok out ↔
      ∃ bs xs rest, bs.length = n ∧ as = bs.flatMap enc ++ rest ∧ List.Forall₂ val bs xs ∧
        out = acc ++ xs ∧ out.length ≤ cap := by
  -- on the count, with the items read so far in the accumulator
  induction n generalizing as acc with
  | zero =>
    constructor
    · intro hok
      obtain rfl := Except.ok.inj hok
      exact ⟨[], [], as, rfl, rfl, .nil, (List.append_nil _).symm, hacc⟩
    · rintro ⟨bs, xs, rest, hlen, -, hvals, rfl, -⟩
      obtain rfl := List.length_eq_zero_iff.mp hlen
      cases hvals
      rw [readCounted, List.append_nil]
  | succ n ih =>
    constructor
    · intro hok
      rw [readCounted] at hok
      cases hone : one as with
      | error e =>
        rw [hone] at hok
        cases hok
      | ok p =>
        obtain ⟨x, rest⟩ := p
        rw [hone] at hok
        replace hok : (if acc.length < cap then readCounted one cap full n rest (acc ++ [x])
          else .error full) = .ok out := hok
        split at hok
        · next hroom =>
          obtain ⟨b, rfl, hval⟩ := h.mp hone
          have hacc' : (acc ++ [x]).length ≤ cap := by
            rw [List.length_append, List.length_singleton]
            omega
          obtain ⟨bs, xs, rest', hlen, rfl, hvals, hout, hcap⟩ := (ih hacc').mp hok
          refine ⟨b :: bs, x :: xs, rest', by rw [List.length_cons, hlen], ?_,
            .cons hval hvals, ?_, hcap⟩
          · rw [List.flatMap_cons, List.append_assoc]
          · rw [hout, List.append_assoc]
            rfl
        · cases hok
    · rintro ⟨bs, xs, rest, hlen, rfl, hvals, rfl, hcap⟩
      obtain ⟨b, bs, rfl⟩ := List.exists_cons_of_length_eq_add_one hlen
      cases hvals with
      | @cons _ x _ xs hval hvals =>
        have hone : one ((b :: bs).flatMap enc ++ rest) = .ok (x, bs.flatMap enc ++ rest) :=
          h.mpr ⟨b, by rw [List.flatMap_cons, List.append_assoc], hval⟩
        have hcap' := hcap
        rw [List.length_append, List.length_cons] at hcap'
        have hacc' : (acc ++ [x]).length ≤ cap := by
          rw [List.length_append, List.length_singleton]
          omega
        rw [readCounted, hone]
        show (if acc.length < cap then readCounted one cap full n _ (acc ++ [x]) else _) = _
        rw [if_pos (by omega)]
        refine (ih hacc').mpr ⟨bs, xs, rest, ?_, rfl, hvals, ?_, hcap⟩
        · simpa using hlen
        · rw [List.append_assoc]
          rfl

/-! ### Taking items off the front -/

/-- Take a number of items off the front, and say what is left. -/
def takeItems (one : List α → Option (β × List α)) : ℕ → List α → Option (List β × List α)
  | 0, as => some ([], as)
  | n + 1, as => do
      let (b, rest) ← one as
      let (bs, rest) ← takeItems one n rest
      some (b :: bs, rest)

/-- The encodings of items that can each be taken off are taken off together. -/
theorem takeItems_flatMap {one : List α → Option (β × List α)} {bs : List β} {rest : List α}
    (h : ∀ b ∈ bs, ∀ rest, one (enc b ++ rest) = some (b, rest)) :
    takeItems one bs.length (bs.flatMap enc ++ rest) = some (bs, rest) := by
  induction bs with
  | nil => rfl
  | cons b bs ih =>
    have hone := h b (List.mem_cons_self ..) (bs.flatMap enc ++ rest)
    have hrest := ih (fun c hc => h c (List.mem_cons_of_mem _ hc))
    rw [List.flatMap_cons, List.append_assoc, List.length_cons, takeItems, hone]
    show (takeItems one bs.length (bs.flatMap enc ++ rest)).bind _ = _
    rw [hrest]
    rfl

end PrefixCode

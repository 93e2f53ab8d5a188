import Mathlib.Data.List.Basic

/-! # Sequences of self-delimiting items

    A reader of one item, iterated until the input is used up, and a writer of
    one item, iterated into a fixed buffer. The reader has room for a bounded
    number of items, as a `heapless::Vec` has. The two theorems a codec needs
    are `readMany_flatMap` (reading back what was written) and
    `readMany_rec` (what an accepted input looks like).

    `Items` is the same without the bound: what is in a whole input, however
    much of it there is. `Occurs` looks no further than the item it finds, and
    `Front` reads the first items and leaves the rest. Where an item says itself
    how long it is, the items of a prefix are the first items of the whole.
-/

namespace Sequence

variable {ε α β : Type}

/-- Read items until the input is empty. An item that was read but finds no
    room left is the error `full`. -/
def readMany (one : List α → Except ε (β × List α)) (full : ε) :
    Nat → List α → Except ε (List β)
  | _, [] => .ok []
  | 0, a :: as => do
      let _ ← one (a :: as)
      .error full
  | room + 1, a :: as => do
      let (x, rest) ← one (a :: as)
      let xs ← readMany one full room rest
      .ok (x :: xs)

variable {one : List α → Except ε (β × List α)} {full : ε}

@[simp] theorem readMany_nil (room : Nat) : readMany one full room [] = .ok [] := by
  cases room <;> rfl

theorem readMany_cons {room : Nat} {as rest : List α} {x : β} (hne : as ≠ [])
    (hone : one as = .ok (x, rest)) :
    readMany one full (room + 1) as = (readMany one full room rest).map (x :: ·) := by
  obtain ⟨a, as, rfl⟩ := List.exists_cons_of_ne_nil hne
  simp only [readMany, hone, bind, Except.bind]
  cases readMany one full room rest <;> rfl

/-- An accepted non-empty input is an accepted item followed by an accepted rest. -/
theorem readMany_ok_cases {room : Nat} {as : List α} {xs : List β}
    (h : readMany one full room as = .ok xs) :
    (as = [] ∧ xs = []) ∨
    (∃ room' x rest ys, room = room' + 1 ∧ as ≠ [] ∧ one as = .ok (x, rest) ∧
      readMany one full room' rest = .ok ys ∧ xs = x :: ys) := by
  cases as with
  | nil =>
    rw [readMany_nil] at h
    exact .inl ⟨rfl, (Except.ok.inj h).symm⟩
  | cons a as =>
    cases hone : one (a :: as) with
    | error e => cases room <;> simp [readMany, hone, bind, Except.bind] at h
    | ok p =>
      obtain ⟨x, rest⟩ := p
      cases room with
      | zero => simp [readMany, hone, bind, Except.bind] at h
      | succ room =>
        rw [readMany_cons (List.cons_ne_nil a as) hone] at h
        cases hrest : readMany one full room rest with
        | error e => simp [hrest, Except.map] at h
        | ok ys =>
          rw [hrest] at h
          exact .inr ⟨room, x, rest, ys, rfl, List.cons_ne_nil a as, rfl, hrest,
            (Except.ok.inj h).symm⟩

/-- Induction over an accepted input, one item at a time. -/
theorem readMany_rec {P : List α → List β → Prop} (hnil : P [] [])
    (hcons : ∀ as x rest ys, as ≠ [] → one as = .ok (x, rest) → P rest ys → P as (x :: ys))
    {room : Nat} {as : List α} {xs : List β} (h : readMany one full room as = .ok xs) :
    P as xs := by
  induction room generalizing as xs with
  | zero =>
    obtain ⟨rfl, rfl⟩ | ⟨_, _, _, _, hroom, _⟩ := readMany_ok_cases h
    · exact hnil
    · omega
  | succ room ih =>
    obtain ⟨rfl, rfl⟩ | ⟨room', x, rest, ys, hroom, hne, hone, hrest, rfl⟩ := readMany_ok_cases h
    · exact hnil
    · obtain rfl : room = room' := by omega
      exact hcons as x rest ys hne hone (ih hrest)

/-- No more items are delivered than there is room for. -/
theorem readMany_length {room : Nat} {as : List α} {xs : List β}
    (h : readMany one full room as = .ok xs) : xs.length ≤ room := by
  induction room generalizing as xs with
  | zero =>
    obtain ⟨_, rfl⟩ | ⟨_, _, _, _, hroom, _⟩ := readMany_ok_cases h
    · simp
    · omega
  | succ room ih =>
    obtain ⟨_, rfl⟩ | ⟨room', x, rest, ys, hroom, _, _, hrest, rfl⟩ := readMany_ok_cases h
    · simp
    · obtain rfl : room = room' := by omega
      have := ih hrest
      simp only [List.length_cons]
      omega

/-- Reading back a sequence of written items, when each item reads back in
    front of whatever follows it. -/
theorem readMany_flatMap {enc : β → List α} {xs : List β} {room : Nat}
    (hne : ∀ x ∈ xs, enc x ≠ [])
    (hone : ∀ x ∈ xs, ∀ rest, one (enc x ++ rest) = .ok (x, rest))
    (hroom : xs.length ≤ room) : readMany one full room (xs.flatMap enc) = .ok xs := by
  induction xs generalizing room with
  | nil => simp
  | cons x xs ih =>
    rw [List.length_cons] at hroom
    obtain ⟨room, rfl⟩ : ∃ r, room = r + 1 := ⟨room - 1, by omega⟩
    rw [List.flatMap_cons,
      readMany_cons (by simp [hne x List.mem_cons_self]) (hone x List.mem_cons_self _),
      ih (fun y hy => hne y (List.mem_cons_of_mem x hy))
        (fun y hy => hone y (List.mem_cons_of_mem x hy)) (by omega)]
    rfl

/-! ### Without a bound -/

/-- The input is these items one after another, and nothing else. -/
inductive Items (one : List α → Except ε (β × List α)) : List α → List β → Prop where
  | nil : Items one [] []
  | cons {as rest : List α} {x : β} {xs : List β} (nonempty : as ≠ [])
      (read : one as = .ok (x, rest)) (tail : Items one rest xs) : Items one as (x :: xs)

/-- The item is reached by reading on from the start of the input. -/
inductive Occurs (one : List α → Except ε (β × List α)) : List α → β → Prop where
  | here {as rest : List α} {x : β} (nonempty : as ≠ []) (read : one as = .ok (x, rest)) :
      Occurs one as x
  | later {as rest : List α} {x y : β} (nonempty : as ≠ []) (read : one as = .ok (x, rest))
      (tail : Occurs one rest y) : Occurs one as y

/-- The bounded reader accepts the inputs that hold no more items than it has room for. -/
theorem readMany_iff {room : Nat} {as : List α} {xs : List β} :
    readMany one full room as = .ok xs ↔ Items one as xs ∧ xs.length ≤ room := by
  constructor
  · intro h
    refine ⟨?_, readMany_length h⟩
    exact readMany_rec .nil (fun _ _ _ _ hne hone htail => .cons hne hone htail) h
  · intro ⟨hitems, hroom⟩
    induction hitems generalizing room with
    | nil => exact readMany_nil room
    | cons hne hone _ ih =>
      rw [List.length_cons] at hroom
      obtain ⟨room, rfl⟩ : ∃ r, room = r + 1 := ⟨room - 1, by omega⟩
      rw [readMany_cons hne hone, ih (by omega)]
      rfl

/-- An input holds one sequence of items. -/
theorem Items.unique {as : List α} {xs ys : List β} (hxs : Items one as xs)
    (hys : Items one as ys) : xs = ys := by
  induction hxs generalizing ys with
  | nil =>
    cases hys with
    | nil => rfl
    | cons hne _ _ => exact absurd rfl hne
  | cons hne hone _ ih =>
    cases hys with
    | nil => exact absurd rfl hne
    | cons _ hone' htail =>
      obtain ⟨rfl, rfl⟩ := Prod.mk.inj (Except.ok.inj (hone.symm.trans hone'))
      rw [ih htail]

/-- What occurs in a whole input is one of its items. -/
theorem Items.occurs_iff {as : List α} {xs : List β} (h : Items one as xs) (y : β) :
    Occurs one as y ↔ y ∈ xs := by
  induction h with
  | nil =>
    constructor
    · intro hoccurs
      cases hoccurs with
      | here hne _ => exact absurd rfl hne
      | later hne _ _ => exact absurd rfl hne
    · intro hy
      cases hy
  | cons hne hone _ ih =>
    rw [List.mem_cons, ← ih]
    constructor
    · intro hoccurs
      cases hoccurs with
      | here _ hone' => exact .inl (Prod.mk.inj (Except.ok.inj (hone'.symm.trans hone))).1
      | later _ hone' htail =>
        obtain ⟨-, rfl⟩ := Prod.mk.inj (Except.ok.inj (hone'.symm.trans hone))
        exact .inr htail
    · rintro (rfl | htail)
      · exact .here hne hone
      · exact .later hne hone htail

/-! ### The first items -/

/-- These are the first items of the input, and `rest` comes after them. -/
inductive Front (one : List α → Except ε (β × List α)) : List α → List β → List α → Prop where
  | nil (as : List α) : Front one as [] as
  | cons {as mid rest : List α} {x : β} {xs : List β} (nonempty : as ≠ [])
      (read : one as = .ok (x, mid)) (tail : Front one mid xs rest) : Front one as (x :: xs) rest

/-- What follows an item changes nothing about it. -/
def SelfDelimiting (one : List α → Except ε (β × List α)) : Prop :=
  ∀ {as rest : List α} {x : β}, one as = .ok (x, rest) →
    ∀ more, one (as ++ more) = .ok (x, rest ++ more)

/-- The items of a prefix are the first items of the whole. -/
theorem Items.front (hone : SelfDelimiting one) {as : List α} {xs : List β} (h : Items one as xs)
    (more : List α) : Front one (as ++ more) xs more := by
  induction h with
  | nil => exact .nil more
  | cons hne hread _ ih =>
    exact .cons (List.append_ne_nil_of_left_ne_nil hne more) (hone hread more) ih

/-- The items of a whole input are its first items and those of the rest. -/
theorem Front.items {as rest : List α} {xs ys : List β} (h : Front one as xs rest)
    (hitems : Items one as ys) : ∃ zs, Items one rest zs ∧ ys = xs ++ zs := by
  induction h generalizing ys with
  | nil as => exact ⟨ys, hitems, rfl⟩
  | cons hne hread _ ih =>
    cases hitems with
    | nil => exact absurd rfl hne
    | cons _ hread' htail =>
      obtain ⟨rfl, rfl⟩ := Prod.mk.inj (Except.ok.inj (hread.symm.trans hread'))
      obtain ⟨zs, hzs, rfl⟩ := ih htail
      exact ⟨zs, hzs, rfl⟩

/-- A sequence of items behind another is the two sequences in one. -/
theorem Items.append (hone : SelfDelimiting one) {as bs : List α} {xs ys : List β}
    (has : Items one as xs) (hbs : Items one bs ys) : Items one (as ++ bs) (xs ++ ys) := by
  induction has with
  | nil => exact hbs
  | cons hne hread _ ih =>
    exact .cons (List.append_ne_nil_of_left_ne_nil hne bs) (hone hread bs) ih

/-- The bounded reader stops at the first item that does not read, or at the
    first one it has no room for. -/
theorem readMany_error_iff {room : Nat} {as : List α} {e : ε} :
    readMany one full room as = .error e ↔
      ∃ xs rest, Front one as xs rest ∧ rest ≠ [] ∧
        ((xs.length ≤ room ∧ one rest = .error e) ∨
          (xs.length = room ∧ e = full ∧ ∃ p, one rest = .ok p)) := by
  constructor
  · intro h
    induction room generalizing as with
    | zero =>
      cases as with
      | nil => cases h
      | cons a as =>
        refine ⟨[], a :: as, .nil _, List.cons_ne_nil a as, ?_⟩
        cases hone : one (a :: as) with
        | error e' =>
          simp only [readMany, hone, bind, Except.bind] at h
          obtain rfl := Except.error.inj h
          exact .inl ⟨Nat.le_refl 0, rfl⟩
        | ok p =>
          simp only [readMany, hone, bind, Except.bind] at h
          exact .inr ⟨rfl, (Except.error.inj h).symm, p, rfl⟩
    | succ room ih =>
      cases as with
      | nil => cases h
      | cons a as =>
        cases hone : one (a :: as) with
        | error e' =>
          simp only [readMany, hone, bind, Except.bind] at h
          obtain rfl := Except.error.inj h
          exact ⟨[], a :: as, .nil _, List.cons_ne_nil a as, .inl ⟨Nat.zero_le _, hone⟩⟩
        | ok p =>
          obtain ⟨x, mid⟩ := p
          rw [readMany_cons (List.cons_ne_nil a as) hone] at h
          cases hmid : readMany one full room mid with
          | ok ys =>
            rw [hmid] at h
            cases h
          | error e' =>
            rw [hmid] at h
            obtain rfl := Except.error.inj h
            obtain ⟨xs, rest, hfront, hne, hstop⟩ := ih hmid
            refine ⟨x :: xs, rest, .cons (List.cons_ne_nil a as) hone hfront, hne, ?_⟩
            rw [List.length_cons]
            exact hstop.imp (And.imp_left Nat.succ_le_succ) (And.imp_left (congrArg Nat.succ))
  · rintro ⟨xs, rest, hfront, hne, hstop⟩
    induction hfront generalizing room with
    | nil as =>
      obtain ⟨a, as, rfl⟩ := List.exists_cons_of_ne_nil hne
      rcases hstop with ⟨-, hone⟩ | ⟨hroom, rfl, p, hone⟩
      · cases room <;> simp only [readMany, hone, bind, Except.bind]
      · obtain rfl : room = 0 := hroom.symm
        simp only [readMany, hone, bind, Except.bind]
    | @cons as mid rest x xs hne' hread _ ih =>
      rw [List.length_cons] at hstop
      obtain ⟨room, rfl⟩ : ∃ r, room = r + 1 := ⟨room - 1, by omega⟩
      rw [readMany_cons hne' hread,
        ih hne (hstop.imp (And.imp_left Nat.le_of_succ_le_succ) (And.imp_left Nat.succ.inj))]
      rfl

end Sequence

import Mathlib.Tactic.Common

/-! # Programs over a state that may fail

    `Prog σ ε α` runs from a state `σ` to a result, or an error, and a state.
    What was done to the state before an error stays done, as it does behind a
    `&mut` borrow. The rules below are those of a Hoare logic whose
    postcondition speaks about both outcomes.
-/

/-- A program over the state `σ` that may fail with `ε`. -/
def Prog (σ ε α : Type) := σ → Except ε α × σ

namespace Prog

variable {σ ε α β : Type}

def pure (a : α) : Prog σ ε α := fun s => (.ok a, s)

def bind (m : Prog σ ε α) (f : α → Prog σ ε β) : Prog σ ε β := fun s =>
  match m s with
  | (.ok a, s') => f a s'
  | (.error e, s') => (.error e, s')

instance : Monad (Prog σ ε) where
  pure := pure
  bind := bind

/-- Fail with `e`, leaving the state as it is. -/
def fail (e : ε) : Prog σ ε α := fun s => (.error e, s)

/-- A pure result or error. -/
def lift (x : Except ε α) : Prog σ ε α := fun s => (x, s)

/-- Read the state. -/
def read : Prog σ ε σ := fun s => (.ok s, s)

/-- A result or error computed from the state, which stays as it is. -/
def query (f : σ → Except ε α) : Prog σ ε α := fun s => (f s, s)

/-- Change the state. -/
def update (f : σ → σ) : Prog σ ε Unit := fun s => (.ok (), f s)

/-- Rename the errors of `m`. -/
def mapErr {δ : Type} (f : ε → δ) (m : Prog σ ε α) : Prog σ δ α := fun s =>
  (match (m s).1 with
    | .ok a => .ok a
    | .error e => .error (f e), (m s).2)

/-- Run `m` on a part of the state. -/
def zoom {κ : Type} (get : σ → κ) (put : σ → κ → σ) (m : Prog κ ε α) : Prog σ ε α := fun s =>
  ((m (get s)).1, put s (m (get s)).2)

@[simp] theorem pure_run (a : α) (s : σ) : (Pure.pure a : Prog σ ε α) s = (.ok a, s) := rfl

@[simp] theorem fail_run (e : ε) (s : σ) : (fail e : Prog σ ε α) s = (.error e, s) := rfl

@[simp] theorem lift_run (x : Except ε α) (s : σ) : lift x s = (x, s) := rfl

@[simp] theorem read_run (s : σ) : (read : Prog σ ε σ) s = (.ok s, s) := rfl

@[simp] theorem query_run (f : σ → Except ε α) (s : σ) : query f s = (f s, s) := rfl

@[simp] theorem update_run (f : σ → σ) (s : σ) :
    (update f : Prog σ ε Unit) s = (.ok (), f s) := rfl

theorem bind_run (m : Prog σ ε α) (f : α → Prog σ ε β) (s : σ) :
    (m >>= f) s = match m s with
      | (.ok a, s') => f a s'
      | (.error e, s') => (.error e, s') := rfl

theorem bind_ok {m : Prog σ ε α} {f : α → Prog σ ε β} {s s' : σ} {a : α}
    (h : m s = (.ok a, s')) : (m >>= f) s = f a s' := by
  rw [bind_run, h]

theorem bind_error {m : Prog σ ε α} {f : α → Prog σ ε β} {s s' : σ} {e : ε}
    (h : m s = (.error e, s')) : (m >>= f) s = (.error e, s') := by
  rw [bind_run, h]

theorem lift_ok_bind (a : α) (f : α → Prog σ ε β) : lift (.ok a) >>= f = f a := rfl

/-! ### Programs that only read -/

/-- `m` leaves the state as it is, whatever comes of it. -/
def Leaves (m : Prog σ ε α) : Prop := ∀ s, (m s).2 = s

theorem Leaves.pure (a : α) : Leaves (Pure.pure a : Prog σ ε α) := fun _ => rfl

theorem Leaves.fail (e : ε) : Leaves (Prog.fail e : Prog σ ε α) := fun _ => rfl

theorem Leaves.lift (x : Except ε α) : Leaves (Prog.lift x : Prog σ ε α) := fun _ => rfl

theorem Leaves.read : Leaves (Prog.read : Prog σ ε σ) := fun _ => rfl

theorem Leaves.query (f : σ → Except ε α) : Leaves (Prog.query f) := fun _ => rfl

theorem Leaves.mapErr {δ : Type} (f : ε → δ) {m : Prog σ ε α} (h : Leaves m) :
    Leaves (Prog.mapErr f m) := h

theorem Leaves.bind {m : Prog σ ε α} {f : α → Prog σ ε β} (hm : Leaves m)
    (hf : ∀ a, Leaves (f a)) : Leaves (m >>= f) := by
  intro s
  have hs := hm s
  rw [bind_run]
  split
  · next a s' heq =>
    rw [heq] at hs
    rw [hf a s']
    exact hs
  · next e s' heq =>
    rw [heq] at hs
    exact hs

theorem Leaves.ite {c : Prop} [Decidable c] {m m' : Prog σ ε α} (h : Leaves m) (h' : Leaves m') :
    Leaves (if c then m else m') := by
  split
  · exact h
  · exact h'

/-- What comes after a program and only reads does not count. -/
theorem Leaves.state_bind {m : Prog σ ε α} {f : α → Prog σ ε β} (hf : ∀ a, Leaves (f a)) (s : σ) :
    ((m >>= f) s).2 = (m s).2 := by
  rw [bind_run]
  split
  · next a s' heq =>
    rw [heq]
    exact hf a s'
  · next e s' heq => rw [heq]

/-- A program that only reads either succeeds or fails in the state it ran in. -/
theorem Leaves.cases {m : Prog σ ε α} (h : Leaves m) (s : σ) :
    (∃ a, m s = (.ok a, s)) ∨ ∃ e, m s = (.error e, s) := by
  have hs := h s
  cases hm : m s with
  | mk r s' =>
    rw [hm] at hs
    cases r with
    | ok a => exact .inl ⟨a, Prod.ext rfl hs⟩
    | error e => exact .inr ⟨e, Prod.ext rfl hs⟩

/-! ### Frames -/

/-- A relation between the states before and after, kept along a run. -/
structure Frame (σ : Type) where
  rel : σ → σ → Prop
  refl : ∀ s, rel s s
  trans : ∀ {s₁ s₂ s₃}, rel s₁ s₂ → rel s₂ s₃ → rel s₁ s₃

/-- `m` keeps the frame, whatever comes of it. -/
def Keeps (F : Frame σ) (m : Prog σ ε α) : Prop := ∀ s, F.rel s (m s).2

section keeps

variable {F : Frame σ}

theorem Keeps.pure (a : α) : Keeps F (Pure.pure a : Prog σ ε α) := F.refl

theorem Keeps.fail (e : ε) : Keeps F (Prog.fail e : Prog σ ε α) := F.refl

theorem Keeps.lift (x : Except ε α) : Keeps F (Prog.lift x : Prog σ ε α) := F.refl

theorem Keeps.query (f : σ → Except ε α) : Keeps F (Prog.query f) := F.refl

theorem Keeps.update {f : σ → σ} (h : ∀ s, F.rel s (f s)) :
    Keeps F (Prog.update f : Prog σ ε Unit) := h

theorem Keeps.mapErr {δ : Type} (f : ε → δ) {m : Prog σ ε α} (h : Keeps F m) :
    Keeps F (Prog.mapErr f m) := h

theorem Keeps.bind {m : Prog σ ε α} {f : α → Prog σ ε β} (hm : Keeps F m)
    (hf : ∀ a, Keeps F (f a)) : Keeps F (m >>= f) := by
  intro s
  have hs := hm s
  rw [bind_run]
  split
  · next a s' heq =>
    rw [heq] at hs
    exact F.trans hs (hf a s')
  · next e s' heq =>
    rw [heq] at hs
    exact hs

/-- A bind on a pure value, which the rest may use. -/
theorem Keeps.lift_bind {x : Except ε α} {f : α → Prog σ ε β}
    (hf : ∀ a, x = .ok a → Keeps F (f a)) : Keeps F (Prog.lift x >>= f) := by
  intro s
  rw [bind_run, lift_run]
  cases x with
  | ok a => exact hf a rfl s
  | error e => exact F.refl s

theorem Keeps.ite {c : Prop} [Decidable c] {m m' : Prog σ ε α} (h : Keeps F m)
    (h' : Keeps F m') : Keeps F (if c then m else m') := by
  split
  · exact h
  · exact h'

end keeps

/-! ### Successes, read backwards -/

/-- A bind that succeeds, read backwards. -/
theorem bind_eq_ok {m : Prog σ ε α} {f : α → Prog σ ε β} {s s' : σ} {b : β} :
    (m >>= f) s = (.ok b, s') ↔ ∃ a s₁, m s = (.ok a, s₁) ∧ f a s₁ = (.ok b, s') := by
  rw [bind_run]
  constructor
  · intro h
    split at h
    · next a s₁ hm => exact ⟨a, s₁, hm, h⟩
    · cases h
  · intro ⟨a, s₁, hm, hf⟩
    rw [hm]
    exact hf

theorem mapErr_eq_ok {δ : Type} {f : ε → δ} {m : Prog σ ε α} {s s' : σ} {a : α} :
    mapErr f m s = (.ok a, s') ↔ m s = (.ok a, s') := by
  unfold mapErr
  cases hm : m s with
  | mk r s₁ =>
    cases r with
    | ok b => simp
    | error e => simp

theorem lift_eq_ok {x : Except ε α} {s s' : σ} {a : α} :
    lift x s = (.ok a, s') ↔ x = .ok a ∧ s = s' := by
  simp [lift]

theorem query_eq_ok {f : σ → Except ε α} {s s' : σ} {a : α} :
    query f s = (.ok a, s') ↔ f s = .ok a ∧ s = s' := by
  simp [query]

end Prog

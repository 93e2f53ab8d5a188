import Scll.Framework.Prog

/-! # Refusals that come in time

    A program refuses with some errors and fails with others. It refuses in time
    when a run that ends in a refusal has kept a frame: what the frame protects
    was not touched yet. Checks go in front of the acts (`Guarded.bind`), and
    what follows an act must not refuse any more (`Guarded.bind_raises`).
-/

namespace Prog

variable {σ ε α β : Type}

/-! ### The errors of a program -/

/-- Every error of `m` has `p`. -/
def Raises (p : ε → Prop) (m : Prog σ ε α) : Prop := ∀ s e s', m s = (.error e, s') → p e

section raises

variable {p : ε → Prop}

theorem Raises.lift {x : Except ε α} (h : ∀ e, x = .error e → p e) :
    Raises p (Prog.lift x : Prog σ ε α) := by
  intro s e s' hrun
  exact h e (Prod.mk.inj hrun).1

/-- A program that always succeeds. -/
theorem Raises.of_ok {m : Prog σ ε α} (h : ∀ s, ∃ a, (m s).1 = .ok a) : Raises p m := by
  intro s e s' hrun
  obtain ⟨a, ha⟩ := h s
  rw [hrun] at ha
  cases ha

theorem Raises.pure (a : α) : Raises p (Pure.pure a : Prog σ ε α) := .of_ok fun _ => ⟨a, rfl⟩

theorem Raises.update (f : σ → σ) : Raises p (Prog.update f : Prog σ ε Unit) :=
  .of_ok fun _ => ⟨(), rfl⟩

theorem Raises.bind {m : Prog σ ε α} {f : α → Prog σ ε β} (hm : Raises p m)
    (hf : ∀ a, Raises p (f a)) : Raises p (m >>= f) := by
  intro s e s' hrun
  rw [bind_run] at hrun
  split at hrun
  · next a s₁ _ => exact hf a s₁ e s' hrun
  · next e₁ s₁ hm₁ =>
    obtain ⟨herr, rfl⟩ := Prod.mk.inj hrun
    obtain rfl := Except.error.inj herr
    exact hm s _ _ hm₁

/-- The errors of a renamed program are new names. -/
theorem Raises.mapErr {δ : Type} {f : δ → ε} (h : ∀ e, p (f e)) (m : Prog σ δ α) :
    Raises p (Prog.mapErr f m) := by
  intro s e s' hrun
  have herr : (Prog.mapErr f m s).1 = .error e := by rw [hrun]
  unfold Prog.mapErr at herr
  dsimp only at herr
  split at herr
  · cases herr
  · obtain rfl := Except.error.inj herr
    exact h _

theorem Raises.zoom {κ : Type} {get : σ → κ} {put : σ → κ → σ} {m : Prog κ ε α}
    (h : Raises p m) : Raises p (Prog.zoom get put m) := by
  intro s e s' hrun
  exact h (get s) e _ (Prod.ext (Prod.mk.inj hrun).1 rfl)

end raises

/-! ### In time -/

/-- A run of `m` that ends in an error with `p` has kept the frame. -/
def Guarded (F : Frame σ) (p : ε → Prop) (m : Prog σ ε α) : Prop :=
  ∀ s e s', m s = (.error e, s') → p e → F.rel s s'

section guarded

variable {F : Frame σ} {p : ε → Prop}

theorem Raises.guarded {m : Prog σ ε α} (h : Raises (fun e => ¬p e) m) : Guarded F p m := by
  intro s e s' hrun hp
  exact absurd hp (h s e s' hrun)

/-- What keeps the frame may stand in front. -/
theorem Guarded.bind {m : Prog σ ε α} {f : α → Prog σ ε β} (hm : Keeps F m)
    (hf : ∀ a, Guarded F p (f a)) : Guarded F p (m >>= f) := by
  intro s e s' hrun hp
  have hs := hm s
  rw [bind_run] at hrun
  split at hrun
  · next a s₁ hm₁ =>
    rw [hm₁] at hs
    exact F.trans hs (hf a s₁ e s' hrun hp)
  · next e₁ s₁ hm₁ =>
    obtain ⟨-, rfl⟩ := Prod.mk.inj hrun
    rw [hm₁] at hs
    exact hs

/-- A check may stand in front, and the rest may use what it has checked. -/
theorem Guarded.lift_bind {x : Except ε α} {f : α → Prog σ ε β}
    (hf : ∀ a, x = .ok a → Guarded F p (f a)) : Guarded F p (Prog.lift x >>= f) := by
  intro s e s' hrun hp
  rw [bind_run, lift_run] at hrun
  cases x with
  | ok a => exact hf a rfl s e s' hrun hp
  | error e₁ =>
    obtain ⟨-, rfl⟩ := Prod.mk.inj hrun
    exact F.refl s

/-- What no longer refuses may stand behind. -/
theorem Guarded.bind_raises {m : Prog σ ε α} {f : α → Prog σ ε β} (hm : Guarded F p m)
    (hf : ∀ a, Raises (fun e => ¬p e) (f a)) : Guarded F p (m >>= f) := by
  intro s e s' hrun hp
  rw [bind_run] at hrun
  split at hrun
  · next a s₁ _ => exact absurd hp (hf a s₁ e s' hrun)
  · next e₁ s₁ hm₁ =>
    obtain ⟨herr, rfl⟩ := Prod.mk.inj hrun
    obtain rfl := Except.error.inj herr
    exact hm s _ _ hm₁ hp

end guarded

end Prog

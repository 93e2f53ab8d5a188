import Mathlib.Init

/-! # Loops

    A loop goes round from state to state until a round leaves it. Nothing
    bounds the number of rounds beforehand: a loop returns if it is left after
    finitely many of them.
-/

namespace Loop

/-- What a round comes to: another one, or the end of the loop. -/
inductive Turn (σ ρ : Type) where
  | again (s : σ)
  | leave (r : ρ)

variable {σ ρ : Type}

/-- The state gone on from, or the result, is as stated. -/
def Turn.Holds (P : σ → Prop) (Q : ρ → Prop) : Turn σ ρ → Prop
  | .again s => P s
  | .leave r => Q r

variable (round : σ → Turn σ ρ → Prop)

/-- The loop is left, with that result. -/
inductive Returns : σ → ρ → Prop where
  | leave {s : σ} {r : ρ} (last : round s (.leave r)) : Returns s r
  | again {s s' : σ} {r : ρ} (first : round s (.again s')) (rest : Returns s' r) : Returns s r

variable {round}

/-- A loop whose rounds are deterministic returns one result at most. -/
theorem Returns.unique (hround : ∀ s t t', round s t → round s t' → t = t') {s : σ} {r r' : ρ}
    (h : Returns round s r) (h' : Returns round s r') : r = r' := by
  induction h with
  | leave hlast =>
    cases h' with
    | leave hlast' =>
      cases hround _ _ _ hlast hlast'
      rfl
    | again hfirst' _ => cases hround _ _ _ hlast hfirst'
  | again hfirst _ ih =>
    cases h' with
    | leave hlast' => cases hround _ _ _ hfirst hlast'
    | again hfirst' hrest' =>
      cases hround _ _ _ hfirst hfirst'
      exact ih hrest'

/-- What every round keeps holds when the loop is left. -/
theorem Returns.keeps {P : σ → Prop} {Q : ρ → Prop}
    (hround : ∀ s t, P s → round s t → t.Holds P Q) {s : σ} {r : ρ} (h : Returns round s r)
    (hs : P s) : Q r := by
  induction h with
  | leave hlast => exact hround _ _ hs hlast
  | again hfirst _ ih => exact ih (hround _ _ hs hfirst)

end Loop

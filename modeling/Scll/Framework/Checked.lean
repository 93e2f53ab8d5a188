import Mathlib.Data.List.Basic
import Mathlib.Tactic.Ring

/-! # Checked machine arithmetic

    Programs over a machine word of `w` bits, in which an operation that leaves
    the word, or an index that leaves its slice, is a fault of the program and
    no error of its input. Where every step of a program is within bounds it
    does what the same program does over the natural numbers: `bind_eq_lift`
    takes that from the steps to the whole.
-/

namespace Checked

/-- How a run stops short: by a fault, or with an error the program returns. -/
inductive Stop (ε : Type) where
  | overflow
  | outOfBounds
  | error (e : ε)
  deriving DecidableEq

variable {ε α β : Type}

/-- The program has no fault. -/
def Safe (r : Except (Stop ε) α) : Prop := r ≠ .error .overflow ∧ r ≠ .error .outOfBounds

/-- A program over the natural numbers has no fault. -/
def lift : Except ε α → Except (Stop ε) α
  | .ok a => .ok a
  | .error e => .error (.error e)

theorem safe_lift (r : Except ε α) : Safe (lift r) := by
  cases r with
  | ok a => exact ⟨nofun, nofun⟩
  | error e => exact ⟨nofun, nofun⟩

theorem lift_ok_iff {r : Except ε α} {a : α} : lift r = .ok a ↔ r = .ok a := by
  cases r with
  | ok b =>
    constructor
    · intro h
      rw [Except.ok.inj h]
    · intro h
      rw [Except.ok.inj h]
      rfl
  | error e =>
    constructor
    · intro h
      cases h
    · intro h
      cases h

/-- Steps that agree make programs that agree. -/
theorem bind_eq_lift {m' : Except (Stop ε) α} {m : Except ε α} {f' : α → Except (Stop ε) β}
    {f : α → Except ε β} (hm : m' = lift m) (hf : ∀ a, m = .ok a → f' a = lift (f a)) :
    m' >>= f' = lift (m >>= f) := by
  subst hm
  cases m with
  | ok a => exact hf a rfl
  | error e => rfl

/-! ### Operations -/

variable (w : ℕ)

def add (a b : ℕ) : Except (Stop ε) ℕ := if a + b < 2 ^ w then .ok (a + b) else .error .overflow

def sub (a b : ℕ) : Except (Stop ε) ℕ := if b ≤ a then .ok (a - b) else .error .overflow

def checkedAdd (a b : ℕ) : Option ℕ := if a + b < 2 ^ w then some (a + b) else none

/-- The elements from one position to another, if both are in order. -/
def get (xs : List α) (start stop : ℕ) : Option (List α) :=
  if start ≤ stop ∧ stop ≤ xs.length then some ((xs.drop start).take (stop - start)) else none

/-- The same by index, which has to be in bounds. -/
def between (xs : List α) (start stop : ℕ) : Except (Stop ε) (List α) :=
  match get xs start stop with
  | some ys => .ok ys
  | none => .error .outOfBounds

def index (xs : List α) (i : ℕ) : Except (Stop ε) α :=
  match xs[i]? with
  | some x => .ok x
  | none => .error .outOfBounds

def sum : List ℕ → Except (Stop ε) ℕ := List.foldlM (add w) 0

variable {w}

theorem add_eq {a b : ℕ} (h : a + b < 2 ^ w) : (add w a b : Except (Stop ε) ℕ) = .ok (a + b) :=
  if_pos h

theorem add_overflow {a b : ℕ} (h : ¬a + b < 2 ^ w) :
    (add w a b : Except (Stop ε) ℕ) = .error .overflow :=
  if_neg h

theorem sub_eq {a b : ℕ} (h : b ≤ a) : (sub a b : Except (Stop ε) ℕ) = .ok (a - b) := if_pos h

theorem checkedAdd_eq {a b : ℕ} (h : a + b < 2 ^ w) : checkedAdd w a b = some (a + b) := if_pos h

theorem between_eq {xs : List α} {start stop : ℕ} (h : start ≤ stop) (hstop : stop ≤ xs.length) :
    (between xs start stop : Except (Stop ε) (List α)) =
      .ok ((xs.drop start).take (stop - start)) := by
  rw [between, get, if_pos ⟨h, hstop⟩]

theorem index_eq {xs : List α} {i : ℕ} {x : α} (h : xs[i]? = some x) :
    (index xs i : Except (Stop ε) α) = .ok x := by
  rw [index, h]

/-- A sum is in bounds if its total is. -/
theorem foldlM_add {xs : List ℕ} {acc : ℕ} (hacc : acc < 2 ^ w) :
    (xs.foldlM (add w) acc : Except (Stop ε) ℕ) =
      if acc + xs.sum < 2 ^ w then .ok (acc + xs.sum) else .error .overflow := by
  induction xs generalizing acc with
  | nil =>
    rw [List.sum_nil, Nat.add_zero, if_pos hacc]
    rfl
  | cons x xs ih =>
    rw [List.foldlM_cons, List.sum_cons, ← Nat.add_assoc]
    by_cases hx : acc + x < 2 ^ w
    · rw [add_eq hx]
      exact ih hx
    · rw [add_overflow hx, if_neg (by omega)]
      rfl

theorem sum_eq (xs : List ℕ) :
    (sum w xs : Except (Stop ε) ℕ) =
      if xs.sum < 2 ^ w then .ok xs.sum else .error .overflow := by
  have hsum : (xs.foldlM (add w) 0 : Except (Stop ε) ℕ) =
      if 0 + xs.sum < 2 ^ w then .ok (0 + xs.sum) else .error .overflow :=
    foldlM_add (Nat.two_pow_pos w)
  rwa [Nat.zero_add] at hsum

end Checked

import Scll.Model

/-! # Card life-cycle transitions

    Which SET STATUS the library sends from which state. `force` permits the
    skip ahead to SECURED, and nothing else.
-/

namespace Scll

/-- Outcome of a legality check: nothing to do, or the `P2` to send. -/
inductive TransitionPlan where
  | noOp
  | apply (p2 : UInt8)
  deriving DecidableEq, Repr

def P2_INITIALIZED : UInt8 := 0x07
def P2_SECURED : UInt8 := 0x0F
def P2_CARD_LOCKED : UInt8 := 0x7F

/-- Raw life-cycle byte. -/
def rawByte : CardLifeCycle → UInt8
  | .opReady => 0x01
  | .initialized => 0x07
  | .secured => 0x0F
  | .cardLocked => 0x7F
  | .terminated => 0xFF
  | .unknown b => b

/-- The `P2` of a move between two different states, when it is allowed. -/
def transitionP2 (current target : CardLifeCycle) (force : Bool) : Option UInt8 :=
  match current, target with
  | .opReady, .initialized => some P2_INITIALIZED
  | .initialized, .secured => some P2_SECURED
  | .cardLocked, .secured => some P2_SECURED
  | .opReady, .secured => if force then some P2_SECURED else none
  | .secured, .cardLocked => some P2_CARD_LOCKED
  | _, _ => none

/-- Validate a requested transition. -/
def checkTransition (current target : CardLifeCycle) (force : Bool) :
    Except ScllError TransitionPlan :=
  match target with
  | .terminated => .error .terminateOutOfScope
  | .unknown _ => .error .illegalLifecycleTransition
  | _ =>
      if current = target then .ok .noOp
      else
        match current with
        | .terminated => .error .illegalLifecycleTransition
        | .unknown _ => .error .illegalLifecycleTransition
        | _ =>
            match transitionP2 current target force with
            | some p2 => .ok (.apply p2)
            | none => .error .illegalLifecycleTransition

/-- What is sent is the coding of the target. -/
theorem checkTransition_apply {current target : CardLifeCycle} {force : Bool} {p2 : UInt8}
    (h : checkTransition current target force = .ok (.apply p2)) : p2 = rawByte target := by
  unfold checkTransition at h
  split at h
  · cases h
  · cases h
  · split at h
    · cases h
    · split at h
      · cases h
      · cases h
      · split at h
        · next hp2 =>
          obtain rfl := TransitionPlan.apply.inj (Except.ok.inj h)
          unfold transitionP2 at hp2
          split at hp2 <;> simp_all [rawByte, P2_INITIALIZED, P2_SECURED, P2_CARD_LOCKED]
        · cases h

/-! ### The matrix -/

/-- The moves that SET STATUS is sent for: forward, lock and unlock, and under
    `force` the skip to SECURED. -/
inductive Allows : CardLifeCycle → CardLifeCycle → Bool → Prop where
  | start (force : Bool) : Allows .opReady .initialized force
  | secure (force : Bool) : Allows .initialized .secured force
  | unlock (force : Bool) : Allows .cardLocked .secured force
  | lock (force : Bool) : Allows .secured .cardLocked force
  | skip : Allows .opReady .secured true

theorem transitionP2_eq_some {current target : CardLifeCycle} {force : Bool} {p2 : UInt8}
    (h : transitionP2 current target force = some p2) : Allows current target force := by
  unfold transitionP2 at h
  split at h
  · exact .start force
  · exact .secure force
  · exact .unlock force
  · split at h
    · next hforce =>
      rw [hforce]
      exact .skip
    · cases h
  · exact .lock force
  · cases h

/-- The check passes exactly the moves of the matrix, with the coding of the target. -/
theorem checkTransition_apply_iff {current target : CardLifeCycle} {force : Bool} {p2 : UInt8} :
    checkTransition current target force = .ok (.apply p2) ↔
      Allows current target force ∧ p2 = rawByte target := by
  constructor
  · intro h
    refine ⟨?_, checkTransition_apply h⟩
    unfold checkTransition at h
    split at h
    · cases h
    · cases h
    · split at h
      · cases h
      · split at h
        · cases h
        · cases h
        · split at h
          · next hp2 => exact transitionP2_eq_some hp2
          · cases h
  · intro ⟨hallows, hp2⟩
    rw [hp2]
    cases hallows with
    | start => rfl
    | secure => rfl
    | unlock => rfl
    | lock => rfl
    | skip => rfl

/-- No move stays where it is. -/
theorem Allows.ne {current target : CardLifeCycle} {force : Bool}
    (h : Allows current target force) : current ≠ target := by
  cases h with
  | start => decide
  | secure => decide
  | unlock => decide
  | lock => decide
  | skip => decide

/-- No move is to TERMINATED, and the codings of the targets are three. -/
theorem Allows.coding {current target : CardLifeCycle} {force : Bool}
    (h : Allows current target force) :
    rawByte target = P2_INITIALIZED ∨ rawByte target = P2_SECURED ∨
      rawByte target = P2_CARD_LOCKED := by
  cases h with
  | start => exact .inl rfl
  | secure => exact .inr (.inl rfl)
  | unlock => exact .inr (.inl rfl)
  | lock => exact .inr (.inr rfl)
  | skip => exact .inr (.inl rfl)

end Scll

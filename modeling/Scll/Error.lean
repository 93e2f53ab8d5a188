import Scll.Tlv

/-! # The error surface

    The error enums of the library, with the detail texts a backend attaches.
    Every detail text is shorter than `OTHER_DETAIL_MAX`, so the `push_str`
    into the fixed string never drops one.
-/

namespace Scll

/-- Coarse error surface returned by every backend method. -/
inductive BackendError where
  | keyImport (detail : String)
  | keyGen (detail : String)
  | crypto (detail : String)
  | rng (detail : String)
  | unsupported (detail : String)
  deriving DecidableEq, Repr

/-- A crypto error with a short, key-free detail text. -/
def cryptoErr (msg : String) : BackendError := .crypto msg

/-- Command-builder failure. -/
inductive BuildError where
  /-- Inputs would exceed the short-APDU plaintext buffer. -/
  | overflow
  /-- `delete_key` was called with neither `kid` nor `kvn`. -/
  | emptyKeyScope
  deriving DecidableEq, Repr

/-- CAP parse failure. -/
inductive CapError where
  | notAZip
  | missingComponent (name : String)
  | malformed
  /-- DEFLATE decompression of a component failed. -/
  | inflate
  deriving DecidableEq, Repr

/-- Transport failure. -/
inductive TransportError where
  | cardRemoved
  | readerGone
  | timeout
  | protocolError
  | other (detail : String)
  deriving DecidableEq, Repr

/-- Fatal error returned by every workflow function. -/
inductive ScllError where
  -- transport
  | transportUnavailable
  | cardRemoved
  | readerGone
  | timeout
  -- secure channel
  | scpProtocolUnsupported
  | noCommonSecurityLevel
  | kvnMismatch
  | cardCryptogramFail
  | cardChallengeFail
  | externalAuthFail (sw : UInt16)
  | securityStatusNotSatisfied
  | noOpenChannel
  -- keys
  | keyNotFound
  | keyTypeUnsupported (offered : UInt8) (supported : List UInt8)
  | keyCheckValueMismatch
  | cannotDeleteActiveKeyset
  -- content
  | invalidAid (len : ℕ)
  | aidAlreadyExists
  | packageAidExists
  | packageNotFound
  | residentSdNotFound
  | loadTooLarge
  | ssdHasApplets
  | elfHasOtherInstances
  -- life cycle
  | cardNotUsable
  | illegalLifecycleTransition
  | conditionsNotSatisfied
  | isdAidNotFound
  | sessionNotIsd
  | targetNoLongerExists
  | terminateOutOfScope
  -- privilege
  | parentLacksAm
  | unsupportedPrivilege
  -- a status word with no case of its own
  | card (sw : UInt16)
  -- wrapped errors of the layers below
  | malformedResponse (e : TlvError)
  | build (e : BuildError)
  | cap (e : CapError)
  | backend (e : BackendError)
  deriving DecidableEq, Repr

/-- Map a context-free status word to its error; all others are `card`. -/
def ScllError.fromGeneralSw (sw : UInt16) : ScllError :=
  if sw = 0x6982 then .securityStatusNotSatisfied
  else if sw = 0x6985 then .conditionsNotSatisfied
  else .card sw

/-! ### Fallible helpers -/

/-- `ok_or`: the value, or the error when there is none. -/
def okOr {ε α : Type} (o : Option α) (e : ε) : Except ε α :=
  match o with
  | some a => .ok a
  | none => .error e

@[simp] theorem okOr_some {ε α : Type} (a : α) (e : ε) : okOr (some a) e = .ok a := rfl

@[simp] theorem okOr_none {ε α : Type} (e : ε) : okOr (none : Option α) e = .error e := rfl

/-- `extend_from_slice` on a `heapless::Vec` of capacity `cap`: all of `src`
    or nothing. -/
def extend {ε : Type} (cap : ℕ) (e : ε) (v src : List UInt8) : Except ε (List UInt8) :=
  if v.length + src.length > cap then .error e else .ok (v ++ src)

theorem extend_eq_ok {ε : Type} {cap : ℕ} {e : ε} {v src out : List UInt8} :
    extend cap e v src = .ok out ↔ out = v ++ src ∧ out.length ≤ cap := by
  unfold extend
  split
  · next h =>
    constructor
    · intro h'
      cases h'
    · intro ⟨hout, hlen⟩
      rw [hout, List.length_append] at hlen
      omega
  · next h =>
    constructor
    · intro h'
      obtain rfl := Except.ok.inj h'
      exact ⟨rfl, by rw [List.length_append]; omega⟩
    · intro ⟨hout, _⟩
      rw [hout]

/-- The error monad's bind, read backwards from a success. -/
theorem bind_eq_ok {ε α β : Type} {x : Except ε α} {f : α → Except ε β} {b : β} :
    x >>= f = .ok b ↔ ∃ a, x = .ok a ∧ f a = .ok b := by
  cases x with
  | error e =>
    constructor
    · intro h
      cases h
    · intro ⟨a, h, _⟩
      cases h
  | ok a =>
    constructor
    · intro h
      exact ⟨a, rfl, h⟩
    · intro ⟨a', h, h'⟩
      obtain rfl := Except.ok.inj h
      exact h'

/-- The error monad's bind, read backwards from an error. -/
theorem bind_eq_error {ε α β : Type} {x : Except ε α} {f : α → Except ε β} {e : ε} :
    x >>= f = .error e ↔ x = .error e ∨ ∃ a, x = .ok a ∧ f a = .error e := by
  cases x with
  | error e' =>
    constructor
    · intro h
      exact .inl (congrArg Except.error (Except.error.inj h))
    · rintro (h | ⟨a, h, -⟩)
      · exact congrArg Except.error (Except.error.inj h)
      · cases h
  | ok a =>
    constructor
    · intro h
      exact .inr ⟨a, rfl, h⟩
    · rintro (h | ⟨a', h, h'⟩)
      · cases h
      · obtain rfl := Except.ok.inj h
        exact h'

/-- Renaming the error keeps a success. -/
theorem mapError_eq_ok {ε δ α : Type} {f : ε → δ} {x : Except ε α} {a : α} :
    x.mapError f = .ok a ↔ x = .ok a := by
  cases x with
  | error e => simp [Except.mapError]
  | ok b => simp [Except.mapError]

theorem map_eq_ok {ε α β : Type} {x : Except ε α} {f : α → β} {b : β} (h : x.map f = .ok b) :
    ∃ a, x = .ok a ∧ f a = b := by
  cases x with
  | error e => cases h
  | ok a => exact ⟨a, rfl, Except.ok.inj h⟩

theorem isOk_iff {ε α : Type} {x : Except ε α} : x.isOk = true ↔ ∃ a, x = .ok a := by
  cases x with
  | ok a => exact ⟨fun _ => ⟨a, rfl⟩, fun _ => rfl⟩
  | error e => exact ⟨fun h => absurd h Bool.false_ne_true, fun ⟨_, h⟩ => by cases h⟩

theorem isOk_ok {ε α : Type} (a : α) : (Except.ok a : Except ε α).isOk = true := rfl

@[simp] theorem ok_bind {ε α β : Type} (a : α) (f : α → Except ε β) :
    (Except.ok a : Except ε α) >>= f = f a := rfl

@[simp] theorem error_bind {ε α β : Type} (e : ε) (f : α → Except ε β) :
    (Except.error e : Except ε α) >>= f = .error e := rfl

end Scll

import Scll.Framework.Prog
import Scll.Backend.State

/-! # The crypto-backend traits

    What the library asks of a crypto backend: opaque key handles, randomness
    and key check values, and the whole of both secure-channel flows. Every
    method runs behind a shared reference, so each may change the backend.
-/

namespace Scll

open BlockMode

/-- Key handles, randomness, KCV, constant-time compare. -/
class KeyBackend (β : Type) where
  importKey : KeyKind → List UInt8 → Prog β BackendError KeyHandle
  generateKey : KeyKind → Prog β BackendError KeyHandle
  /-- The GP key check value. -/
  computeKcv : KeyHandle → Prog β BackendError (Block KCV_LEN)
  /-- Fill a buffer of the given length. -/
  randomBytes : (n : ℕ) → Prog β BackendError (Block n)
  ctEq : β → List UInt8 → List UInt8 → Bool

/-- The SCP03 crypto flow. -/
class Scp03Backend (β : Type) where
  scp03DeriveSession : (staticEnc staticMac : KeyHandle) → ScpMode →
    (hostChallenge cardChallenge : List UInt8) → Prog β BackendError Scp03Session
  scp03CardCryptogram : Scp03Session → (hostCh cardCh : List UInt8) →
    Prog β BackendError (List UInt8)
  scp03HostCryptogram : Scp03Session → (hostCh cardCh : List UInt8) →
    Prog β BackendError (List UInt8)
  scp03PseudoCardChallenge : (staticEnc : KeyHandle) → ScpMode →
    (seqCounter : Block 3) → (invokerAid : List UInt8) → Prog β BackendError (List UInt8)
  /-- Apply the session's level to a command. -/
  scp03WrapCommand : Scp03Session → (capdu : List UInt8) → Prog β BackendError (List UInt8)
  /-- Verify and strip a response. -/
  scp03UnwrapResponse : Scp03Session → (rapdu : List UInt8) → Prog β BackendError (List UInt8)
  /-- A new key for a PUT KEY payload, under the static DEK. -/
  scp03EncryptPutKeyPayload : (dek newKey : KeyHandle) → Prog β BackendError (List UInt8)
  scp03CloseSession : Scp03Session → β → β

/-- The SCP02 crypto flow. -/
class Scp02Backend (β : Type) where
  scp02DeriveSession : (baseEnc baseMac baseDek : KeyHandle) → (seqCounter : Block 2) →
    Prog β BackendError Scp02Session
  scp02CardCryptogram : Scp02Session → (hostCh cardCh : Block 8) → Prog β BackendError (Block 8)
  scp02HostCryptogram : Scp02Session → (hostCh cardCh : Block 8) → Prog β BackendError (Block 8)
  scp02WrapCommand : Scp02Session → (capdu : List UInt8) → Prog β BackendError (List UInt8)
  scp02UnwrapResponse : Scp02Session → (rapdu : List UInt8) → Prog β BackendError (List UInt8)
  /-- A new key for a PUT KEY payload, under the session DEK. -/
  scp02EncryptPutKeyPayloadForSession : Scp02Session → (newKey : KeyHandle) →
    Prog β BackendError (List UInt8)
  scp02CloseSession : Scp02Session → β → β

end Scll

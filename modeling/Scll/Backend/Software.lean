import Scll.Backend.Interface
import Scll.Backend.Scp02
import Scll.Backend.Scp03

/-! # The software backend

    The key methods over `BackendState`, and the backend as an instance of the
    three traits. The primitives are part of its type, so that a backend value
    is nothing but its tables and its random source.
-/

namespace Scll

open BlockMode

/-- A source of random octets. -/
class RngCore (ρ : Type) where
  fillBytes : (n : ℕ) → ρ → Block n × ρ

/-- A source that only yields zeros, for runs on fixed inputs. -/
instance : RngCore Unit where
  fillBytes n rng := (Block.zero n, rng)

variable (P : Primitives) {ρ : Type}

/-! ### Keys -/

/-- Store a key in the first free slot. -/
def storeKey (slot : KeySlot) : Prog (BackendState ρ) BackendError KeyHandle := fun st =>
  match st.keys.firstFree with
  | none => (.error (.keyGen "key table full"), st)
  | some idx => (.ok ⟨UInt16.ofNat idx⟩, { st with keys := st.keys.set idx (some slot) })

def importKey (kind : KeyKind) (bytes : List UInt8) : Prog (BackendState ρ) BackendError KeyHandle :=
  if h : bytes.length = kind.clearLen then storeKey ⟨kind, bytes, h⟩
  else .fail (.keyImport "byte length != key kind")

def generateKey [RngCore ρ] (kind : KeyKind) : Prog (BackendState ρ) BackendError KeyHandle :=
  fun st =>
    let (bytes, rng) := RngCore.fillBytes kind.clearLen st.rng
    storeKey ⟨kind, bytes.val, bytes.property⟩ { st with rng := rng }

/-- The key check value: the first octets of `01…01` under AES, of zeros under 3DES. -/
def computeKcv (h : KeyHandle) (st : BackendState ρ) : Except BackendError (Block KCV_LEN) := do
  let slot ← okOr (st.keys.get h.index.toNat) (cryptoErr "key handle invalid")
  match slot.kind with
  | .aes128 | .aes192 | .aes256 =>
      let out ← aesEcbBlock P slot.bytes ⟨List.replicate 16 0x01, by decide⟩
      .ok (Block.ofOctets KCV_LEN out.val)
  | .tripleDesDouble =>
      let out ← tdesEcbBlock P slot.bytes (Block.zero 8)
      .ok (Block.ofOctets KCV_LEN out.val)

def randomBytes [RngCore ρ] (n : ℕ) : Prog (BackendState ρ) BackendError (Block n) := fun st =>
  let (bytes, rng) := RngCore.fillBytes n st.rng
  (.ok bytes, { st with rng := rng })

/-! ### The traits -/

/-- The software backend over the primitives `P`. -/
def RustCryptoBackend (_ : Primitives) (ρ : Type) := BackendState ρ

instance [RngCore ρ] : KeyBackend (RustCryptoBackend P ρ) where
  importKey := importKey
  generateKey := generateKey
  computeKcv h := .query (computeKcv P h)
  randomBytes := randomBytes
  ctEq _ := ctEq

instance : Scp03Backend (RustCryptoBackend P ρ) where
  scp03DeriveSession := scp03DeriveSession P
  scp03CardCryptogram s hostCh cardCh := .query (scp03CardCryptogram P s hostCh cardCh)
  scp03HostCryptogram s hostCh cardCh := .query (scp03HostCryptogram P s hostCh cardCh)
  scp03PseudoCardChallenge h mode seq aid := .query (scp03PseudoCardChallenge P h mode seq.val aid)
  scp03WrapCommand := scp03WrapCommand P
  scp03UnwrapResponse := scp03UnwrapResponse P
  scp03EncryptPutKeyPayload dek newKey := .query (scp03EncryptPutKeyPayload P dek newKey)
  scp03CloseSession s st := (scp03CloseSession (ε := BackendError) s st).2

instance : Scp02Backend (RustCryptoBackend P ρ) where
  scp02DeriveSession := scp02DeriveSession P
  scp02CardCryptogram s hostCh cardCh := .query (scp02CardCryptogram P s hostCh cardCh)
  scp02HostCryptogram s hostCh cardCh := .query (scp02HostCryptogram P s hostCh cardCh)
  scp02WrapCommand := scp02WrapCommand P
  scp02UnwrapResponse := scp02UnwrapResponse P
  scp02EncryptPutKeyPayloadForSession s newKey :=
    .query (scp02EncryptPutKeyPayloadForSession P s newKey)
  scp02CloseSession s st := (scp02CloseSession (ε := BackendError) s st).2

end Scll

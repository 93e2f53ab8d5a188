import Scll.Workflow.Session

/-! # Keys, and plain exchanges over a channel

    PUT KEY adds a keyset to the Security Domain the session was opened
    against; DELETE KEY removes a whole key version. `transmit` exchanges one
    command of the caller's own.
-/

namespace Scll

namespace Workflow

open BlockMode

/-! ### PUT KEY -/

/-- Add: the new version travels in the data field. -/
def P1_ADD : UInt8 := 0x00
/-- `new_kvn ‖ 3×KCV(3)`. -/
def KCV_ECHO_LEN : ℕ := 1 + 9

/-- Three new keys of one kind, as handles. -/
structure NewKeyset where
  enc : KeyHandle
  mac : KeyHandle
  dek : KeyHandle
  kind : KeyKind

structure PutSdKeysArgs where
  /-- The static DEK; ignored under SCP02. -/
  dek : KeyHandle
  newKeys : NewKeyset
  newKvn : UInt8
  targetSdAid : List UInt8

/-- The echo of a key check value that the card returns must be ours. -/
def verifyKcvEcho (echo : List UInt8) (newKvn : UInt8) (kcvEnc kcvMac kcvDek : Block KCV_LEN) :
    Except ScllError (List UInt8) :=
  let kcvs := kcvEnc.val ++ kcvMac.val ++ kcvDek.val
  -- a shorter echo is not checked
  if KCV_ECHO_LEN ≤ echo.length ∧ echo.take KCV_ECHO_LEN ≠ newKvn :: kcvs then
    .error .keyCheckValueMismatch
  else .ok kcvs

/-- The plaintext key length, as the AES key block and the report carry it. -/
def clearLenByte (session : ScpSession) (kind : KeyKind) : UInt8 :=
  match session.protocol with
  | .scp03 => UInt8.ofNat kind.clearLen
  | .scp02 => 16

def keyTypeByte (session : ScpSession) : UInt8 :=
  match session.protocol with
  | .scp03 => Capdu.KEY_TYPE_AES
  | .scp02 => Capdu.KEY_TYPE_3DES

def reportKeyType (session : ScpSession) : KeyType :=
  match session.protocol with
  | .scp03 => .aes
  | .scp02 => .des

/-- What a status word without a case of its own makes of an exchange. -/
def requireSw (sw : UInt16) : Except ScllError Unit :=
  if sw = SW_OK then .ok () else .error (.fromGeneralSw sw)

/-- `delete_sd_keyset` on its status word. -/
def deleteKeyOutcome (sw : UInt16) : Except ScllError Unit :=
  if sw = SW_OK then .ok ()
  else if sw = SW_REF_NOT_FOUND then .error .keyNotFound
  else .error (.fromGeneralSw sw)

section keys

variable {τ β : Type} [Transport τ] [KeyBackend β] [Scp03Backend β] [Scp02Backend β]

/-- Encrypt a new key for the payload: under the static DEK for SCP03, under the
    session's own for SCP02. -/
def encryptNewKey (session : ScpSession) (dek new : KeyHandle) : Prog β ScllError (List UInt8) :=
  match session with
  | .scp03 _ => ofBackend (Scp03Backend.scp03EncryptPutKeyPayload dek new)
  | .scp02 s => ofBackend (Scp02Backend.scp02EncryptPutKeyPayloadForSession s.session new)

/-- The three key check values of the new keys. -/
structure NewKcvs where
  enc : Block KCV_LEN
  mac : Block KCV_LEN
  dek : Block KCV_LEN

/-- The PUT KEY command, from what the backend makes of the new keys. -/
def putKeyCommand (session : ScpSession) (args : PutSdKeysArgs) :
    Prog β ScllError (Capdu × NewKcvs) := do
  let keyset := args.newKeys
  let encBlob ← encryptNewKey session args.dek keyset.enc
  let macBlob ← encryptNewKey session args.dek keyset.mac
  let dekBlob ← encryptNewKey session args.dek keyset.dek
  let kcvEnc ← ofBackend (KeyBackend.computeKcv keyset.enc)
  let kcvMac ← ofBackend (KeyBackend.computeKcv keyset.mac)
  let kcvDek ← ofBackend (KeyBackend.computeKcv keyset.dek)
  let block := fun (blob : List UInt8) (kcv : Block KCV_LEN) =>
    Capdu.KeyBlock.mk (keyTypeByte session) blob kcv.val (clearLenByte session keyset.kind)
  let capdu ← .lift (ofBuild (Capdu.putKey P1_ADD args.newKvn (block encBlob kcvEnc)
    (block macBlob kcvMac) (block dekBlob kcvDek)))
  pure (capdu, ⟨kcvEnc, kcvMac, kcvDek⟩)

/-- What the report says of a PUT KEY; the target AID is validated here. -/
def putKeysReport (session : ScpSession) (args : PutSdKeysArgs) (kcvs : List UInt8) :
    Except ScllError (Report PutKeysParams) := do
  let targetSdAid ← Aid.new args.targetSdAid
  .ok
    { effective :=
        { targetSdAid
          scpProtocol := session.protocol
          newKvn := args.newKvn
          keyType := reportKeyType session
          keyLength := clearLenByte session args.newKeys.kind
          kcvs }
      warnings := [] }

/-- Add a keyset on a Security Domain. -/
def putSdKeys (session : ScpSession) (args : PutSdKeysArgs) :
    Prog (World τ β) ScllError (Report PutKeysParams) := do
  let (capdu, kcv) ← onBackend (putKeyCommand session args)
  let (echo, sw) ← transmitInSession session capdu
  .lift (requireSw sw)
  let kcvs ← .lift (verifyKcvEcho echo args.newKvn kcv.enc kcv.mac kcv.dek)
  .lift (putKeysReport session args kcvs)

/-! ### DELETE KEY -/

def deleteKeyReport (kvn : UInt8) (targetSdAid : List UInt8) :
    Except ScllError (Report DeleteKeyParams) := do
  let targetSdAid ← Aid.new targetSdAid
  .ok ⟨⟨targetSdAid, kvn⟩, []⟩

/-- Delete all keys of a version. -/
def deleteSdKeyset (session : ScpSession) (kvn : UInt8) (targetSdAid : List UInt8) :
    Prog (World τ β) ScllError (Report DeleteKeyParams) := do
  let capdu ← .lift (ofBuild (Capdu.deleteKey none (some kvn)))
  let (_, sw) ← transmitInSession session capdu
  .lift (deleteKeyOutcome sw)
  .lift (deleteKeyReport kvn targetSdAid)

/-! ### One exchange -/

/-- `u16::try_from(n).unwrap_or(u16::MAX)`. -/
def saturateU16 (n : ℕ) : UInt16 := if n < 2 ^ 16 then UInt16.ofNat n else 0xFFFF

/-- Exchange one command over the channel; the status word is the caller's to read. -/
def transmit (session : ScpSession) (plaintextCapdu : Capdu) :
    Prog (World τ β) ScllError AppletTransmitReport := do
  let (data, sw) ← transmitInSession session plaintextCapdu
  pure
    { rapdu := data
      sw
      effective :=
        { sessionId := session.sessionId
          capduPlaintextLen := saturateU16 plaintextCapdu.length
          rapduPlaintextLen := saturateU16 data.length
          sw
          secLevel := session.securityLevel
          scpProtocol := session.protocol }
      warnings := [] }

end keys

end Workflow

end Scll

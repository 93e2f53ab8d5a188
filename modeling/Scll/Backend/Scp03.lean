import Scll.Framework.Prog
import Scll.Backend.State

/-! # The SCP03 backend

    Session keys and cryptograms from the counter-mode KDF, command wrapping
    (C-MAC over a persistent chaining value, C-DECRYPTION under an ECB-derived
    ICV) and response unwrapping (R-MAC, R-ENC). The security level is latched
    from the `P1` of EXTERNAL AUTHENTICATE, and any failed unwrap frees the slot.

    What a call computes from one slot is a pure function of the slot; the
    methods over `BackendState` read the slot, run it and commit.
-/

namespace Scll

open Octets BlockMode

variable (P : Primitives) {ρ : Type}

/-! ### Constants -/

/-- C-DECRYPTION. -/
def SL_CENC : UInt8 := 0x02
def SL_RMAC : UInt8 := 0x10
def SL_RENC : UInt8 := 0x20

def DC_S_ENC : UInt8 := 0x04
def DC_S_MAC : UInt8 := 0x06
def DC_S_RMAC : UInt8 := 0x07
def DC_CARD_CRYPTO : UInt8 := 0x00
def DC_HOST_CRYPTO : UInt8 := 0x01
/-- Pseudo-random card challenges. -/
def DC_CARD_CHALLENGE : UInt8 := 0x02

def MAC_CHAIN_LEN : ℕ := 16

/-! ### Session opening -/

/-- `host_challenge ‖ card_challenge`, the KDF context. -/
def context (host card : List UInt8) : Except BackendError (List UInt8) := do
  let ctx ← extend 32 (cryptoErr "context overflow") [] host
  extend 32 (cryptoErr "context overflow") ctx card

/-- Read an AES key by handle. -/
def readAesKey (st : BackendState ρ) (h : KeyHandle) : Except BackendError AesKey :=
  match st.keys.get h.index.toNat with
  | none => .error (cryptoErr "key handle invalid")
  | some ⟨.aes128, bytes, fits⟩ => .ok ⟨bytes, .inl fits⟩
  | some ⟨.aes192, bytes, fits⟩ => .ok ⟨bytes, .inr (.inl fits)⟩
  | some ⟨.aes256, bytes, fits⟩ => .ok ⟨bytes, .inr (.inr fits)⟩
  | some ⟨.tripleDesDouble, _, _⟩ => .error (cryptoErr "SCP03 needs an AES key")

/-- The KDF fills exactly what is asked for. -/
theorem kdfFrom_length {key : List UInt8} {constant : UInt8} {lBits : UInt16}
    {context : List UInt8} {counter : UInt8} {want : ℕ} {out : List UInt8}
    (h : kdfFrom P key constant lBits context counter want = .ok out) : out.length = want := by
  induction want using Nat.strong_induction_on generalizing counter out with
  | _ want ih =>
    unfold kdfFrom at h
    split at h
    · next h0 =>
      obtain rfl := Except.ok.inj h
      exact h0.symm
    · next h0 =>
      obtain ⟨block, -, h⟩ := bind_eq_ok.mp h
      obtain ⟨tag, -, h⟩ := bind_eq_ok.mp h
      obtain ⟨rest, hrest, h⟩ := bind_eq_ok.mp h
      obtain rfl := Except.ok.inj h
      have htag := tag.property
      have hmin : min BLOCK want = min 16 want := rfl
      have := ih _ (by omega) hrest
      rw [List.length_append, List.length_take, this]
      omega

/-- A session key: the KDF output at the length of the key it derives from. -/
def sessionKey (key : AesKey) (constant : UInt8) (ctx : List UInt8) :
    Except BackendError AesKey :=
  match h : kdf P key.val constant (UInt16.ofNat (key.val.length * 8)) ctx key.val.length with
  | .ok out => .ok ⟨out, by rw [kdfFrom_length P h]; exact key.property⟩
  | .error e => .error e

/-- A session slot as derivation leaves it: pre-authentication, level zero. -/
def Scp03SessionSlot.fresh (sEnc sMac sRmac : AesKey) (mode : ScpMode) : Scp03SessionSlot where
  sEnc := sEnc
  sMac := sMac
  sRmac := sRmac
  mode := mode
  chain := Block.zero 16
  counter := 0
  level := 0
  authed := false

/-- The session keys of a derivation: S-ENC, S-MAC and S-RMAC. -/
def scp03SessionKeys (st : BackendState ρ) (staticEnc staticMac : KeyHandle) (mode : ScpMode)
    (hostChallenge cardChallenge : List UInt8) :
    Except BackendError (AesKey × AesKey × AesKey) := do
  if hostChallenge.length ≠ mode.fieldLen ∨ cardChallenge.length ≠ mode.fieldLen then
    .error (cryptoErr "challenge length does not match mode")
  else
    let ctx ← context hostChallenge cardChallenge
    let enc ← readAesKey st staticEnc
    let mac ← readAesKey st staticMac
    if enc.val.length ≠ mac.val.length then .error (cryptoErr "ENC/MAC key lengths differ")
    else
      let sEnc ← sessionKey P enc DC_S_ENC ctx
      let sMac ← sessionKey P mac DC_S_MAC ctx
      let sRmac ← sessionKey P mac DC_S_RMAC ctx
      .ok (sEnc, sMac, sRmac)

/-- Derive a session into the first free slot. -/
def scp03DeriveSession (staticEnc staticMac : KeyHandle) (mode : ScpMode)
    (hostChallenge cardChallenge : List UInt8) :
    Prog (BackendState ρ) BackendError Scp03Session := fun st =>
  match scp03SessionKeys P st staticEnc staticMac mode hostChallenge cardChallenge with
  | .error e => (.error e, st)
  | .ok (sEnc, sMac, sRmac) =>
      match st.sessions.firstFree with
      | none => (.error (.keyGen "session table full"), st)
      | some idx =>
          let slot := Scp03SessionSlot.fresh sEnc sMac sRmac mode
          (.ok ⟨UInt16.ofNat idx⟩, { st with sessions := st.sessions.set idx (some slot) })

/-- Shared card/host cryptogram under S-MAC. -/
def cryptogram (s : Scp03Session) (hostCh cardCh : List UInt8) (constant : UInt8)
    (st : BackendState ρ) : Except BackendError (List UInt8) := do
  let ctx ← context hostCh cardCh
  let slot ← okOr (st.sessions.get s.index.toNat) (cryptoErr "session handle invalid")
  kdf P slot.sMac.val constant slot.mode.lBits ctx slot.mode.fieldLen

def scp03CardCryptogram (s : Scp03Session) (hostCh cardCh : List UInt8) :
    BackendState ρ → Except BackendError (List UInt8) :=
  cryptogram P s hostCh cardCh DC_CARD_CRYPTO

def scp03HostCryptogram (s : Scp03Session) (hostCh cardCh : List UInt8) :
    BackendState ρ → Except BackendError (List UInt8) :=
  cryptogram P s hostCh cardCh DC_HOST_CRYPTO

/-- The card challenge a pseudo-random card derives from its sequence counter. -/
def scp03PseudoCardChallenge (staticEnc : KeyHandle) (mode : ScpMode) (seqCounter : List UInt8)
    (invokerAid : List UInt8) (st : BackendState ρ) : Except BackendError (List UInt8) := do
  let ctx ← extend 19 (cryptoErr "challenge context overflow") [] seqCounter
  let ctx ← extend 19 (cryptoErr "challenge context overflow") ctx invokerAid
  let enc ← readAesKey st staticEnc
  kdf P enc.val DC_CARD_CHALLENGE mode.lBits ctx mode.fieldLen

/-! ### Counter and ICV -/

/-- The block the CBC ICV is derived from: the counter, marked for responses. -/
def counterBlock (counter : UInt32) (response : Bool) : Block 16 :=
  ⟨(if response then 0x80 else 0x00) :: List.replicate 11 0 ++ writeBE 4 counter.toNat, by simp⟩

def ecbIcv (key : AesKey) (counter : UInt32) (response : Bool) :
    Except BackendError (Block 16) :=
  aesEcbBlock P key.val (counterBlock counter response)

/-- `checked_add(1)` on the command counter. -/
def checkedSucc (counter : UInt32) : Option UInt32 :=
  if counter.toNat + 1 < 2 ^ 32 then some (counter + 1) else none

/-! ### Wrapping -/

/-- C-DECRYPTION of the command data under the ICV of `counter`. -/
def encryptCommand (slot : Scp03SessionSlot) (counter : UInt32) (data : List UInt8) :
    Except BackendError (List UInt8) := do
  if data.length > CAPDU_MAX then .error (cryptoErr "command data too large")
  else
    let scratch := overwrite (List.replicate CAPDU_MAX 0) 0 data
    let (scratch, padded) ← pad80 scratch data.length
    let icv ← ecbIcv P slot.sEnc counter false
    let (scratch, n) ← aesCbcEncrypt P slot.sEnc.val icv scratch padded
    .ok (scratch.take n)

/-- The transmitted body, with the counter and the level after the command. -/
def commandBody (slot : Scp03SessionSlot) (ins p1 : UInt8) (data : List UInt8) :
    Except BackendError (List UInt8 × UInt32 × UInt8) := do
  if slot.authed then
    let counter ← okOr (checkedSucc slot.counter) (cryptoErr "command counter overflow")
    if slot.level &&& SL_CENC ≠ 0 ∧ data ≠ [] then
      let body ← encryptCommand P slot counter data
      .ok (body, counter, slot.level)
    else .ok (data, counter, slot.level)
  else if ins ≠ EXTERNAL_AUTHENTICATE then
    -- the first wrap on a fresh session must be EXTERNAL AUTHENTICATE
    .error (cryptoErr "first wrap must be EXTERNAL AUTHENTICATE")
  else .ok (data, slot.counter, p1)

/-- Wrap one command over one slot: the wire command and the slot after it. -/
def wrapSlot (slot : Scp03SessionSlot) (cla ins p1 p2 : UInt8) (rest : List UInt8) :
    Except BackendError (List UInt8 × Scp03SessionSlot) := do
  let (data, le) ← commandData rest
  let (body, counter, level) ← commandBody P slot ins p1 data
  let lcByte ← lcPlusMac body.length slot.mode.macLen
  let header := [secureCla cla, ins, p1, p2, lcByte]
  let macIn ← push 320 [] slot.chain.val
  let macIn ← push 320 macIn header
  let macIn ← push 320 macIn body
  let full ← aesCmac P slot.sMac.val macIn
  let out ← push CAPDU_MAX [] header
  let out ← push CAPDU_MAX out body
  let out ← push CAPDU_MAX out (full.val.take slot.mode.macLen)
  let out ← push CAPDU_MAX out le
  .ok (out, { slot with chain := full, counter, level, authed := true })

def scp03WrapCommand (s : Scp03Session) (capdu : List UInt8) :
    Prog (BackendState ρ) BackendError (List UInt8) := fun st =>
  match capdu with
  | cla :: ins :: p1 :: p2 :: rest =>
      match st.sessions.get s.index.toNat with
      | none => (.error (cryptoErr "session handle invalid"), st)
      | some slot =>
          match wrapSlot P slot cla ins p1 p2 rest with
          | .error e => (.error e, st)
          | .ok (out, slot) =>
              (.ok out, { st with sessions := st.sessions.set s.index.toNat (some slot) })
  | _ => (.error (cryptoErr "C-APDU shorter than header"), st)

/-! ### Unwrapping -/

/-- Only `9000` and the warnings `62xx`/`63xx` carry R-MAC and R-ENC. -/
def swIsProtected (sw : List UInt8) : Bool :=
  match sw with
  | [0x90, 0x00] => true
  | [0x62, _] => true
  | [0x63, _] => true
  | _ => false

/-- Verify and strip the R-MAC. -/
def verifyRmac (slot : Scp03SessionSlot) (body sw : List UInt8) :
    Except BackendError (List UInt8) := do
  if body.length < slot.mode.macLen then .error (cryptoErr "R-APDU too short for R-MAC")
  else
    let data := body.take (body.length - slot.mode.macLen)
    let rmac := body.drop (body.length - slot.mode.macLen)
    let macIn ← push (RAPDU_MAX + MAC_CHAIN_LEN) [] slot.chain.val
    let macIn ← push (RAPDU_MAX + MAC_CHAIN_LEN) macIn data
    let macIn ← push (RAPDU_MAX + MAC_CHAIN_LEN) macIn sw
    let full ← aesCmac P slot.sRmac.val macIn
    if ctEq (full.val.take slot.mode.macLen) rmac then .ok data
    else .error (cryptoErr "R-MAC verification failed")

/-- Decrypt and unpad R-ENC data. -/
def decryptResponse (slot : Scp03SessionSlot) (data : List UInt8) :
    Except BackendError (List UInt8) := do
  if data.length % BLOCK ≠ 0 then .error (cryptoErr "R-ENC data not block-aligned")
  else
    let icv ← ecbIcv P slot.sEnc slot.counter true
    if data.length > RAPDU_MAX then .error (cryptoErr "response data too large")
    else
      let scratch := overwrite (List.replicate RAPDU_MAX 0) 0 data
      let (plain, _) ← aesCbcDecrypt P slot.sEnc.val icv (scratch.take data.length)
      let plainLen ← unpad80 plain
      .ok (plain.take plainLen)

/-- The response data once the R-MAC, if there is one, is off. -/
def responseData (slot : Scp03SessionSlot) (body sw : List UInt8) :
    Except BackendError (List UInt8) :=
  if slot.level &&& SL_RMAC ≠ 0 ∧ swIsProtected sw then verifyRmac P slot body sw
  else .ok body

/-- The response data once R-ENC, if there is one, is undone. -/
def responsePlain (slot : Scp03SessionSlot) (data sw : List UInt8) :
    Except BackendError (List UInt8) :=
  if slot.level &&& SL_RENC ≠ 0 ∧ swIsProtected sw ∧ data ≠ [] then decryptResponse P slot data
  else .ok data

/-- Response verify and strip, then decrypt, pure over a slot. -/
def unwrapInner (slot : Scp03SessionSlot) (rapdu : List UInt8) :
    Except BackendError (List UInt8) := do
  let split := rapdu.length - 2
  let sw := rapdu.drop split
  let body := rapdu.take split
  let data ← responseData P slot body sw
  let plain ← responsePlain P slot data sw
  let out ← push RAPDU_MAX [] plain
  push RAPDU_MAX out sw

/-- Unwrap over one slot, with the checks made before any octet is read. -/
def unwrapSlot (slot : Scp03SessionSlot) (rapdu : List UInt8) :
    Except BackendError (List UInt8) :=
  if ¬slot.authed then .error (cryptoErr "unwrap before authentication")
  else if rapdu.length < 2 then .error (cryptoErr "R-APDU shorter than SW")
  else unwrapInner P slot rapdu

/-- Unwrap one response. Any failure frees the slot. -/
def scp03UnwrapResponse (s : Scp03Session) (rapdu : List UInt8) :
    Prog (BackendState ρ) BackendError (List UInt8) := fun st =>
  match st.sessions.get s.index.toNat with
  | none => (.error (cryptoErr "session handle invalid"), st)
  | some slot =>
      match unwrapSlot P slot rapdu with
      | .error e => (.error e, { st with sessions := st.sessions.set s.index.toNat none })
      | .ok out => (.ok out, st)

/-! ### The other methods -/

/-- The new key under the static DEK, AES-CBC with a zero ICV. -/
def scp03EncryptPutKeyPayload (dek newKey : KeyHandle) (st : BackendState ρ) :
    Except BackendError (List UInt8) := do
  let dekBytes ← readAesKey st dek
  let nkBytes ← readAesKey st newKey
  let nkLen := nkBytes.val.length
  if nkLen > ENC_KEY_BLOCK_MAX then .error (cryptoErr "new key too large")
  else
    let scratch := overwrite (List.replicate ENC_KEY_BLOCK_MAX 0) 0 nkBytes.val
    let (scratch, msgLen) ← if nkLen % BLOCK = 0 then .ok (scratch, nkLen) else pad80 scratch nkLen
    let (scratch, n) ← aesCbcEncrypt P dekBytes.val (Block.zero 16) scratch msgLen
    extend ENC_KEY_BLOCK_MAX (cryptoErr "enc key block overflow") [] (scratch.take n)

/-- Drop the slot; an already free or out-of-range one is a no-op. -/
def scp03CloseSession {ε : Type} (s : Scp03Session) : Prog (BackendState ρ) ε Unit :=
  .update fun st => { st with sessions := st.sessions.set s.index.toNat none }

end Scll

import Scll.Framework.Prog
import Scll.Backend.State

/-! # The SCP02 backend

    GPCS Appendix E with `i = 55`: session keys by 3DES-CBC, the C-MAC as a
    Retail MAC over the modified header and the plaintext data under an
    encrypted ICV, C-DECRYPTION by 3DES-CBC, and the R-MAC over the stripped
    command and its response, chained on its own.

    As in the SCP03 backend, what a call computes is a pure function of a slot.
-/

namespace Scll

open Octets BlockMode

variable (P : Primitives) {ρ : Type}

namespace Scp02

/-! ### Constants -/

/-- C-DECRYPTION. -/
def SL_CDEC : UInt8 := 0x02
def SL_RMAC : UInt8 := 0x10

def DC_S_ENC : List UInt8 := [0x01, 0x82]
def DC_S_MAC : List UInt8 := [0x01, 0x01]
def DC_S_RMAC : List UInt8 := [0x01, 0x02]
def DC_S_DEK : List UInt8 := [0x01, 0x81]

/-- One wrapped command and the response it is finalised against. -/
def RMAC_BUF_MAX : ℕ := CAPDU_MAX + RAPDU_MAX

/-- The C-MAC and the R-MAC are 8 octets. -/
def MAC_LEN : ℕ := 8

/-! ### Session opening -/

/-- Read a two-key 3DES key by handle. -/
def readTdesKey (st : BackendState ρ) (h : KeyHandle) : Except BackendError TdesKey :=
  match st.keys.get h.index.toNat with
  | none => .error (cryptoErr "key handle invalid")
  | some ⟨.tripleDesDouble, bytes, fits⟩ => .ok ⟨bytes, fits⟩
  | some _ => .error (cryptoErr "SCP02 needs a 3DES double-length key")

/-- One session key: `3DES-CBC(constant ‖ seq ‖ 00…)` under the base key. -/
def deriveOne (base : TdesKey) (constant seq : List UInt8) : Except BackendError TdesKey := do
  let buf := constant ++ seq ++ List.replicate 12 0
  let (buf, _) ← tdesCbcEncrypt P base.val (Block.zero 8) buf 16
  .ok (Block.ofOctets 16 buf)

/-- A session slot as derivation leaves it. -/
def fresh (sEnc sMac sRmac sDek : TdesKey) : Scp02SessionSlot where
  sEnc := sEnc
  sMac := sMac
  sRmac := sRmac
  sDek := sDek
  icv := Block.zero 8
  icvValid := false
  ricv := Block.zero 8
  rmacBuf := []
  level := 0
  authed := false

end Scp02

open Scp02

/-- The session keys of a derivation: S-ENC, S-MAC, S-RMAC and S-DEK. -/
def scp02SessionKeys (st : BackendState ρ) (baseEnc baseMac baseDek : KeyHandle)
    (seqCounter : Block 2) : Except BackendError (TdesKey × TdesKey × TdesKey × TdesKey) := do
  let enc ← readTdesKey st baseEnc
  let mac ← readTdesKey st baseMac
  let dek ← readTdesKey st baseDek
  let sEnc ← deriveOne P enc DC_S_ENC seqCounter.val
  let sMac ← deriveOne P mac DC_S_MAC seqCounter.val
  -- the R-MAC key derives from the base MAC key
  let sRmac ← deriveOne P mac DC_S_RMAC seqCounter.val
  let sDek ← deriveOne P dek DC_S_DEK seqCounter.val
  .ok (sEnc, sMac, sRmac, sDek)

/-- Derive a session into the first free slot. -/
def scp02DeriveSession (baseEnc baseMac baseDek : KeyHandle) (seqCounter : Block 2) :
    Prog (BackendState ρ) BackendError Scp02Session := fun st =>
  match scp02SessionKeys P st baseEnc baseMac baseDek seqCounter with
  | .error e => (.error e, st)
  | .ok (sEnc, sMac, sRmac, sDek) =>
      match st.scp02Sessions.firstFree with
      | none => (.error (.keyGen "session table full"), st)
      | some idx =>
          let slot := fresh sEnc sMac sRmac sDek
          (.ok ⟨UInt16.ofNat idx⟩, { st with scp02Sessions := st.scp02Sessions.set idx (some slot) })

/-- Full 3DES-CBC MAC under S-ENC over `head ‖ tail`. -/
def scp02Cryptogram (s : Scp02Session) (head tail : List UInt8) (st : BackendState ρ) :
    Except BackendError (Block 8) := do
  let slot ← okOr (st.scp02Sessions.get s.index.toNat) (cryptoErr "session handle invalid")
  if head.length + tail.length > 16 then .error (cryptoErr "cryptogram input too large")
  else tdesMac P slot.sEnc.val (Block.zero 8) (head ++ tail) (List.replicate 24 0)

def scp02CardCryptogram (s : Scp02Session) (hostCh cardCh : Block 8) :
    BackendState ρ → Except BackendError (Block 8) :=
  scp02Cryptogram P s hostCh.val cardCh.val

def scp02HostCryptogram (s : Scp02Session) (hostCh cardCh : Block 8) :
    BackendState ρ → Except BackendError (Block 8) :=
  scp02Cryptogram P s cardCh.val hostCh.val

namespace Scp02

/-! ### Wrapping -/

/-- `let _ = v.extend_from_slice(src)`: a write that does not fit is dropped. -/
def tryExtend (cap : ℕ) (v src : List UInt8) : List UInt8 :=
  if v.length + src.length > cap then v else v ++ src

/-- The ICV of the next command: zero on the first wrap, then the single-DES
    encryption of the previous C-MAC. -/
def nextIcv (slot : Scp02SessionSlot) : Except BackendError (Block 8) :=
  if slot.icvValid then desEcbBlock P (slot.sMac.val.take DES_BLOCK) slot.icv
  else .ok (Block.zero 8)

/-- The C-MAC over the modified header and the plaintext data. -/
def commandCmac (slot : Scp02SessionSlot) (cla ins p1 p2 : UInt8) (data : List UInt8) :
    Except BackendError (Block 8) := do
  let icv ← nextIcv P slot
  let macLc ← lcPlusMac data.length MAC_LEN
  if 5 + data.length > 5 + 255 then .error (cryptoErr "command data too large")
  else
    let scratch := List.replicate (5 + 255 + DES_BLOCK) 0
    retailMac P slot.sMac.val icv ([secureCla cla, ins, p1, p2, macLc] ++ data) scratch

/-- 3DES-CBC of the padded command data, with a zero IV. -/
def encryptCommand (slot : Scp02SessionSlot) (data : List UInt8) :
    Except BackendError (List UInt8) := do
  if data.length > CAPDU_MAX then .error (cryptoErr "command data too large")
  else
    let scratch := overwrite (List.replicate CAPDU_MAX 0) 0 data
    let (scratch, padded) ← pad80_8 scratch data.length
    let (scratch, n) ← tdesCbcEncrypt P slot.sEnc.val (Block.zero 8) scratch padded
    .ok (scratch.take n)

/-- The transmitted body. -/
def commandBody (slot : Scp02SessionSlot) (data : List UInt8) : Except BackendError (List UInt8) :=
  if slot.authed ∧ slot.level &&& SL_CDEC ≠ 0 ∧ data ≠ [] then encryptCommand P slot data
  else .ok data

/-- The accumulated command of the R-MAC: C-MAC removed, modified header undone,
    `Lc` always present. -/
def rmacCommand (cla ins p1 p2 : UInt8) (data : List UInt8) : List UInt8 :=
  let buf := tryExtend RMAC_BUF_MAX [] [cla &&& ~~~0x07, ins, p1, p2]
  let buf := tryExtend RMAC_BUF_MAX buf [UInt8.ofNat data.length]
  tryExtend RMAC_BUF_MAX buf data

/-- The slot after a wrap whose C-MAC is `cmac`. -/
def commit (slot : Scp02SessionSlot) (cla ins p1 p2 : UInt8) (data : List UInt8)
    (cmac : Block 8) : Scp02SessionSlot :=
  let latched := if slot.authed then slot.level else p1
  { slot with
    icv := cmac
    icvValid := true
    level := latched
    -- EXTERNAL AUTHENTICATE seeds the R-MAC chain with its own C-MAC
    ricv := if slot.authed then slot.ricv else cmac
    rmacBuf := if slot.authed ∧ latched &&& SL_RMAC ≠ 0 then rmacCommand cla ins p1 p2 data
      else slot.rmacBuf
    authed := true }

/-- Wrap one command over one slot. -/
def wrapSlot (slot : Scp02SessionSlot) (cla ins p1 p2 : UInt8) (rest : List UInt8) :
    Except BackendError (List UInt8 × Scp02SessionSlot) := do
  let (data, _) ← commandData rest
  if ¬slot.authed ∧ ins ≠ EXTERNAL_AUTHENTICATE then
    .error (cryptoErr "first wrap must be EXTERNAL AUTHENTICATE")
  else
    let cmac ← commandCmac P slot cla ins p1 p2 data
    let body ← commandBody P slot data
    let outLc ← lcPlusMac body.length MAC_LEN
    let out ← push CAPDU_MAX [] [secureCla cla, ins, p1, p2, outLc]
    let out ← push CAPDU_MAX out body
    let out ← push CAPDU_MAX out cmac.val
    .ok (out, commit slot cla ins p1 p2 data cmac)

/-! ### Unwrapping -/

/-- R-MAC verify and strip: the response and the new chaining value. -/
def unwrapRmac (slot : Scp02SessionSlot) (rapdu : List UInt8) :
    Except BackendError (List UInt8 × Block 8) := do
  let split := rapdu.length - 2
  let sw := rapdu.drop split
  let body := rapdu.take split
  if body.length < 8 then .error (cryptoErr "R-APDU too short for R-MAC")
  else
    let respLen := body.length - 8
    let appData := body.take respLen
    let rmacRecv := body.drop respLen
    let input ← push (RMAC_BUF_MAX + 3) [] slot.rmacBuf
    let input ← push (RMAC_BUF_MAX + 3) input [UInt8.ofNat respLen]
    let input ← push (RMAC_BUF_MAX + 3) input appData
    let input ← push (RMAC_BUF_MAX + 3) input sw
    let scratch := List.replicate (RMAC_BUF_MAX + 3 + DES_BLOCK) 0
    let mac ← retailMac P slot.sRmac.val slot.ricv input scratch
    if ctEq mac.val rmacRecv then
      let out ← push RAPDU_MAX [] appData
      let out ← push RAPDU_MAX out sw
      .ok (out, mac)
    else .error (cryptoErr "R-MAC verification failed")

/-- What an unwrap makes of a response. -/
inductive Unwrapped where
  /-- Delivered, with the new R-MAC chaining value. -/
  | deliver (out : List UInt8) (ricv : Block 8)
  /-- Refused; the slot is freed. -/
  | tearDown (e : BackendError)
  /-- Refused by the early return of the pass-through copy; the slot stays. -/
  | refuse (e : BackendError)

/-- Unwrap over one slot. -/
def unwrapSlot (slot : Scp02SessionSlot) (rapdu : List UInt8) : Unwrapped :=
  if ¬slot.authed then .tearDown (cryptoErr "unwrap before authentication")
  else if rapdu.length < 2 then .tearDown (cryptoErr "R-APDU shorter than SW")
  else if slot.level &&& SL_RMAC ≠ 0 then
    match unwrapRmac P slot rapdu with
    | .ok (out, ricv) => .deliver out ricv
    | .error e => .tearDown e
  else
    match push RAPDU_MAX [] rapdu with
    | .ok out => .deliver out slot.ricv
    | .error e => .refuse e

end Scp02

def scp02WrapCommand (s : Scp02Session) (capdu : List UInt8) :
    Prog (BackendState ρ) BackendError (List UInt8) := fun st =>
  match capdu with
  | cla :: ins :: p1 :: p2 :: rest =>
      match st.scp02Sessions.get s.index.toNat with
      | none => (.error (cryptoErr "session handle invalid"), st)
      | some slot =>
          match Scp02.wrapSlot P slot cla ins p1 p2 rest with
          | .error e => (.error e, st)
          | .ok (out, slot) =>
              (.ok out,
                { st with scp02Sessions := st.scp02Sessions.set s.index.toNat (some slot) })
  | _ => (.error (cryptoErr "C-APDU shorter than header"), st)

def scp02UnwrapResponse (s : Scp02Session) (rapdu : List UInt8) :
    Prog (BackendState ρ) BackendError (List UInt8) := fun st =>
  match st.scp02Sessions.get s.index.toNat with
  | none => (.error (cryptoErr "session handle invalid"), st)
  | some slot =>
      match Scp02.unwrapSlot P slot rapdu with
      | .deliver out ricv =>
          let slot := { slot with ricv := ricv, rmacBuf := [] }
          (.ok out, { st with scp02Sessions := st.scp02Sessions.set s.index.toNat (some slot) })
      | .tearDown e =>
          (.error e, { st with scp02Sessions := st.scp02Sessions.set s.index.toNat none })
      | .refuse e => (.error e, st)

/-- The new key under the session DEK, 3DES-ECB block by block. -/
def ecbEncryptPutKey (dek newKey : TdesKey) : Except BackendError (List UInt8) := do
  let enc₁ ← tdesEcbBlock P dek.val (Block.ofOctets 8 newKey.val)
  let out ← push ENC_KEY_BLOCK_MAX [] enc₁.val
  let enc₂ ← tdesEcbBlock P dek.val (Block.ofOctets 8 (newKey.val.drop DES_BLOCK))
  push ENC_KEY_BLOCK_MAX out enc₂.val

def scp02EncryptPutKeyPayloadForSession (s : Scp02Session) (newKey : KeyHandle)
    (st : BackendState ρ) : Except BackendError (List UInt8) := do
  let slot ← okOr (st.scp02Sessions.get s.index.toNat) (cryptoErr "session handle invalid")
  let nk ← readTdesKey st newKey
  ecbEncryptPutKey P slot.sDek nk

def scp02CloseSession {ε : Type} (s : Scp02Session) : Prog (BackendState ρ) ε Unit :=
  .update fun st => { st with scp02Sessions := st.scp02Sessions.set s.index.toNat none }

end Scll

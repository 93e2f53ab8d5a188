import Scll.Backend.Interface

/-! # The SCP03 state machine

    Framing and pure decisions of the SCP03 open; the crypto is the backend's.
    INITIALIZE UPDATE answers `KDD(10) KVN(1) SCP(1) i(1) challenge cryptogram`
    and, for a pseudo-random card, a sequence counter. EXTERNAL AUTHENTICATE
    carries the host cryptogram, and in `P1` the level capped to what the card's
    `i` allows.
-/

namespace Scll

open BlockMode

/-- The `?` on a backend call. -/
def ofBackend {β α : Type} (m : Prog β BackendError α) : Prog β ScllError α :=
  m.mapErr .backend

namespace Scp03

def INS_INITIALIZE_UPDATE : UInt8 := 0x50
def INS_EXTERNAL_AUTHENTICATE : UInt8 := 0x82
def SCP_ID_SCP03 : UInt8 := 0x03

/-- `KDD(10) KVN(1) SCP(1) i(1)`. -/
def IU_PREFIX_LEN : ℕ := 13
def SEQ_COUNTER_LEN : ℕ := 3

def I_S16 : UInt8 := 0x08
def I_PSEUDO_RANDOM : UInt8 := 0x10
def I_RMAC : UInt8 := 0x20
def I_RENC : UInt8 := 0x40

/-- Parsed INITIALIZE UPDATE response. -/
structure IuResponse where
  /-- The key version the card used. -/
  kvn : UInt8
  iParam : UInt8
  mode : ScpMode
  cardChallenge : List UInt8
  cardCryptogram : List UInt8
  /-- Present iff the card uses pseudo-random challenges. -/
  sequenceCounter : Option (Block SEQ_COUNTER_LEN)

/-- Host-side channel state: the backend handle and what was negotiated. -/
structure Scp03State where
  session : Scp03Session
  iParam : UInt8
  securityLevel : UInt8
  kvn : UInt8

/-- `extend_from_slice` on a command. -/
def extendApdu (apdu src : List UInt8) : Except ScllError (List UInt8) :=
  extend CAPDU_MAX (.build .overflow) apdu src

/-- `u8::try_from` on a data length. -/
def lcByte (data : List UInt8) : Except ScllError UInt8 :=
  if data.length ≤ 255 then .ok (UInt8.ofNat data.length) else .error (.build .overflow)

/-- `80 50 <kvn> 00 <Lc> <host challenge> 00`. -/
def iuCommand (kvn : UInt8) (hostChallenge : List UInt8) : Except ScllError (List UInt8) := do
  let lc ← lcByte hostChallenge
  let apdu ← extendApdu [] [0x80, INS_INITIALIZE_UPDATE, kvn, 0x00, lc]
  let apdu ← extendApdu apdu hostChallenge
  extendApdu apdu [0x00]

/-- `84 82 <level> 00 <Lc> <host cryptogram>`, before the C-MAC. -/
def eaPlaintext (securityLevel : UInt8) (hostCryptogram : List UInt8) :
    Except ScllError (List UInt8) := do
  let lc ← lcByte hostCryptogram
  let apdu ← extendApdu [] [0x84, INS_EXTERNAL_AUTHENTICATE, securityLevel, 0x00, lc]
  extendApdu apdu hostCryptogram

/-- The `i` values in scope: no RFU bit, and R-ENC implies R-MAC. -/
def iSupported (iParam : UInt8) : Bool :=
  if iParam &&& ~~~(I_S16 ||| I_PSEUDO_RANDOM ||| I_RMAC ||| I_RENC) ≠ 0 then false
  else ¬(iParam &&& I_RENC ≠ 0 ∧ iParam &&& I_RMAC = 0)

/-- Parse and validate the INITIALIZE UPDATE response, its SW already stripped. -/
def parseIuResponse (bytes : List UInt8) : Except ScllError IuResponse :=
  match bytes.drop 10 with
  | kvn :: scpId :: iParam :: rest =>
      if scpId ≠ SCP_ID_SCP03 then .error .scpProtocolUnsupported
      else if ¬iSupported iParam then .error .noCommonSecurityLevel
      else
        let mode := ScpMode.fromI iParam
        let field := mode.fieldLen
        let seqLen := if iParam &&& I_PSEUDO_RANDOM ≠ 0 then SEQ_COUNTER_LEN else 0
        if bytes.length ≠ IU_PREFIX_LEN + 2 * field + seqLen then .error .scpProtocolUnsupported
        else
          .ok
            { kvn
              iParam
              mode
              cardChallenge := rest.take field
              cardCryptogram := (rest.drop field).take field
              sequenceCounter :=
                if iParam &&& I_PSEUDO_RANDOM ≠ 0 then
                  some (Block.ofOctets SEQ_COUNTER_LEN (rest.drop (2 * field)))
                else none }
  | _ => .error .scpProtocolUnsupported

/-- The levels an `i` allows: C-MAC and C-DEC always, R-MAC and R-ENC by its bits. -/
def allowedLevel (iParam : UInt8) : UInt8 :=
  0x03 ||| (if iParam &&& I_RMAC ≠ 0 then 0x10 else 0) |||
    (if iParam &&& I_RENC ≠ 0 then 0x20 else 0)

/-- Cap the requested level to the card's `i`. -/
def capSecurityLevel (iParam requested : UInt8) : Except ScllError UInt8 :=
  let effective := requested &&& allowedLevel iParam
  if effective = 0 then .error .noCommonSecurityLevel else .ok effective

section open_channel

variable {β : Type} [KeyBackend β] [Scp03Backend β]

/-- Compare in constant time what the card sent with what it should have sent. -/
def verify (expected actual : List UInt8) (e : ScllError) : Prog β ScllError Unit := do
  let backend ← Prog.read
  if KeyBackend.ctEq backend expected actual then pure () else Prog.fail e

/-- The card challenge of a pseudo-random card is recomputed and compared. -/
def verifyChallenge (staticEnc : KeyHandle) (iu : IuResponse) (invokerAid : List UInt8) :
    Prog β ScllError Unit :=
  match iu.sequenceCounter with
  | none => pure ()
  | some seq => do
      let expected ← ofBackend
        (Scp03Backend.scp03PseudoCardChallenge staticEnc iu.mode seq invokerAid)
      verify expected iu.cardChallenge .cardChallengeFail

/-- From a derived session to the EXTERNAL AUTHENTICATE plaintext, with its level:
    both sides of the card's proof are checked before anything is sent. -/
def prepareEa (session : Scp03Session) (staticEnc : KeyHandle) (requestedLevel : UInt8)
    (hostChallenge invokerAid : List UInt8) (iu : IuResponse) :
    Prog β ScllError (UInt8 × List UInt8) := do
  let expectedCard ← ofBackend
    (Scp03Backend.scp03CardCryptogram session hostChallenge iu.cardChallenge)
  verify expectedCard iu.cardCryptogram .cardCryptogramFail
  verifyChallenge staticEnc iu invokerAid
  let securityLevel ← Prog.lift (capSecurityLevel iu.iParam requestedLevel)
  let hostCryptogram ← ofBackend
    (Scp03Backend.scp03HostCryptogram session hostChallenge iu.cardChallenge)
  let eaPlain ← Prog.lift (eaPlaintext securityLevel hostCryptogram)
  pure (securityLevel, eaPlain)

/-- The host side of the open, from the INITIALIZE UPDATE response to a wrapped
    EXTERNAL AUTHENTICATE ready to send. -/
def begin (staticEnc staticMac : KeyHandle) (kvnExpected requestedLevel : UInt8)
    (hostChallenge invokerAid iuResponse : List UInt8) :
    Prog β ScllError (Scp03State × List UInt8) := do
  let iu ← Prog.lift (parseIuResponse iuResponse)
  -- `00` lets the card pick; only a pinned version is enforced
  if kvnExpected ≠ 0x00 ∧ iu.kvn ≠ kvnExpected then Prog.fail .kvnMismatch
  else
    let session ← ofBackend
      (Scp03Backend.scp03DeriveSession staticEnc staticMac iu.mode hostChallenge iu.cardChallenge)
    let (securityLevel, eaPlain) ←
      prepareEa session staticEnc requestedLevel hostChallenge invokerAid iu
    let eaWrapped ← ofBackend (Scp03Backend.scp03WrapCommand session eaPlain)
    pure (⟨session, iu.iParam, securityLevel, iu.kvn⟩, eaWrapped)

end open_channel

end Scp03

end Scll

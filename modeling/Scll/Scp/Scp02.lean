import Scll.Scp.Scp03

/-! # The SCP02 state machine

    As for SCP03: INITIALIZE UPDATE answers 28 octets,
    `KDD(10) KVN(1) SCP(1) counter(2) challenge(6) cryptogram(8)`, with no `i`;
    the `i` comes from the version selection.
-/

namespace Scll

open BlockMode

namespace Scp02

def SCP_ID_SCP02 : UInt8 := 0x02
def IU_RESPONSE_LEN : ℕ := 28

/-- Parsed INITIALIZE UPDATE response. -/
structure IuResponse where
  kvn : UInt8
  seqCounter : Block 2
  cardChallenge : Block 6
  cardCryptogram : Block 8

/-- Host-side channel state. -/
structure Scp02State where
  session : Scp02Session
  iParam : UInt8
  securityLevel : UInt8
  kvn : UInt8

/-- `80 50 <kvn> <key id> 08 <host challenge> 00`. -/
def iuCommand (kvn keyId : UInt8) (hostChallenge : Block 8) : Except ScllError (List UInt8) := do
  let apdu ← Scp03.extendApdu [] [0x80, Scp03.INS_INITIALIZE_UPDATE, kvn, keyId, 0x08]
  let apdu ← Scp03.extendApdu apdu hostChallenge.val
  Scp03.extendApdu apdu [0x00]

/-- `84 82 <level> 00 08 <host cryptogram>`, before the C-MAC. -/
def eaPlaintext (securityLevel : UInt8) (hostCryptogram : Block 8) :
    Except ScllError (List UInt8) := do
  let apdu ← Scp03.extendApdu [] [0x84, Scp03.INS_EXTERNAL_AUTHENTICATE, securityLevel, 0x00, 0x08]
  Scp03.extendApdu apdu hostCryptogram.val

/-- Parse and validate the INITIALIZE UPDATE response, its SW already stripped. -/
def parseIuResponse (bytes : List UInt8) : Except ScllError IuResponse :=
  if bytes.length ≠ IU_RESPONSE_LEN then .error .scpProtocolUnsupported
  else
    match bytes.drop 10 with
    | kvn :: scpId :: rest =>
        if scpId ≠ SCP_ID_SCP02 then .error .scpProtocolUnsupported
        else
          .ok
            { kvn
              seqCounter := Block.ofOctets 2 rest
              cardChallenge := Block.ofOctets 6 (rest.drop 2)
              cardCryptogram := Block.ofOctets 8 (rest.drop 8) }
    | _ => .error .scpProtocolUnsupported

/-- The levels an `i` allows: C-MAC and C-DECRYPTION always, R-MAC for two values. -/
def allowedLevel (iParam : UInt8) : UInt8 :=
  0x03 ||| (if iParam = 0x15 ∨ iParam = 0x55 then 0x10 else 0)

/-- Cap the requested level to what `i` allows. -/
def capSecurityLevel (iParam requested : UInt8) : Except ScllError UInt8 :=
  let effective := requested &&& allowedLevel iParam
  if effective = 0 then .error .noCommonSecurityLevel else .ok effective

section open_channel

variable {β : Type} [KeyBackend β] [Scp02Backend β]

/-- The 8-octet card challenge of the cryptograms: the counter and the challenge. -/
def cardCh8 (iu : IuResponse) : Block 8 :=
  Block.ofOctets 8 (iu.seqCounter.val ++ iu.cardChallenge.val)

/-- From a derived session to the EXTERNAL AUTHENTICATE plaintext, with its level. -/
def prepareEa (session : Scp02Session) (iParam requestedLevel : UInt8) (hostChallenge : Block 8)
    (iu : IuResponse) : Prog β ScllError (UInt8 × List UInt8) := do
  let expectedCard ← ofBackend
    (Scp02Backend.scp02CardCryptogram session hostChallenge (cardCh8 iu))
  Scp03.verify expectedCard.val iu.cardCryptogram.val .cardCryptogramFail
  let securityLevel ← Prog.lift (capSecurityLevel iParam requestedLevel)
  let hostCryptogram ← ofBackend
    (Scp02Backend.scp02HostCryptogram session hostChallenge (cardCh8 iu))
  let eaPlain ← Prog.lift (eaPlaintext securityLevel hostCryptogram)
  pure (securityLevel, eaPlain)

/-- The host side of the open, from the INITIALIZE UPDATE response to a wrapped
    EXTERNAL AUTHENTICATE ready to send. -/
def begin (baseEnc baseMac baseDek : KeyHandle) (iParam kvnExpected requestedLevel : UInt8)
    (hostChallenge : Block 8) (iuResponse : List UInt8) :
    Prog β ScllError (Scp02State × List UInt8) := do
  let iu ← Prog.lift (parseIuResponse iuResponse)
  if kvnExpected ≠ 0x00 ∧ iu.kvn ≠ kvnExpected then Prog.fail .kvnMismatch
  else
    let session ← ofBackend
      (Scp02Backend.scp02DeriveSession baseEnc baseMac baseDek iu.seqCounter)
    let (securityLevel, eaPlain) ← prepareEa session iParam requestedLevel hostChallenge iu
    let eaWrapped ← ofBackend (Scp02Backend.scp02WrapCommand session eaPlain)
    pure (⟨session, iParam, securityLevel, iu.kvn⟩, eaWrapped)

end open_channel

end Scp02

end Scll

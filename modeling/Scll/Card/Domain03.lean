import Scll.Card.Handshake
import Scll.Card.Scp03
import Scll.CryptoSpec

/-! # An SCP03 Security Domain

    What Amendment D has a Security Domain do in an open: session keys and
    cryptograms come from the counter-mode KDF over the static keys, the
    challenge of a pseudo-random card from its sequence counter, and
    EXTERNAL AUTHENTICATE is accepted when its C-MAC and the host cryptogram
    verify. Nothing here is translated from the host.
-/

namespace Scll

open Octets BlockMode

/-- How far an open has come. -/
inductive Scp03Phase where
  | idle
  /-- INITIALIZE UPDATE was answered; this host cryptogram is to come. -/
  | challenged (card : Scp03Card) (hostCryptogram : List UInt8)
  | opened (card : Scp03Card)

/-- A Security Domain with its static keys, over the primitives `P`. -/
structure Scp03Domain (P : Primitives) where
  /-- Key diversification data. -/
  kdd : Block 10
  kvn : UInt8
  iParam : UInt8
  enc : AesKey
  mac : AesKey
  sameLength : enc.val.length = mac.val.length
  /-- The full AID it is registered under. -/
  aid : Aid
  /-- What a random card draws its challenge from. -/
  random : Block 16
  /-- The sequence counter of a pseudo-random card. -/
  sequence : Block 3
  phase : Scp03Phase

namespace Scp03Domain

variable {P : Primitives}

/-- The size mode, from b4 of `i`. -/
def mode (sd : Scp03Domain P) : ScpMode := ScpMode.fromI sd.iParam

/-- b5 of `i`: the challenge is derived. -/
def pseudoRandom (sd : Scp03Domain P) : Bool := sd.iParam &&& 0x10 ≠ 0

/-- The challenge of this open. -/
def challenge (sd : Scp03Domain P) : List UInt8 :=
  if sd.pseudoRandom then
    counterKdf P sd.enc.val 0x02 (sd.sequence.val ++ sd.aid.bytes) sd.mode.fieldLen
  else sd.random.val.take sd.mode.fieldLen

/-- The context of all derivations of a session. -/
def sessionContext (sd : Scp03Domain P) (hostChallenge : List UInt8) : List UInt8 :=
  hostChallenge ++ sd.challenge

/-- A session key, as long as the key it derives from. -/
def derive (P : Primitives) (key : AesKey) (constant : UInt8) (context : List UInt8) : AesKey :=
  ⟨counterKdf P key.val constant context key.val.length, by
    rw [length_counterKdf]
    exact key.property⟩

/-- The card's end of the channel. -/
def card (sd : Scp03Domain P) (hostChallenge : List UInt8) : Scp03Card :=
  .fresh (derive P sd.enc 0x04 (sd.sessionContext hostChallenge))
    (derive P sd.mac 0x06 (sd.sessionContext hostChallenge))
    (derive P sd.mac 0x07 (sd.sessionContext hostChallenge)) sd.mode

/-- The card cryptogram (`00`) or the host cryptogram (`01`). -/
def cryptogram (sd : Scp03Domain P) (constant : UInt8) (hostChallenge : List UInt8) : List UInt8 :=
  counterKdf P (sd.card hostChallenge).sMac.val constant (sd.sessionContext hostChallenge)
    sd.mode.fieldLen

/-- `KDD(10) KVN 03 i challenge cryptogram [counter]`. -/
def response (sd : Scp03Domain P) (hostChallenge : List UInt8) : List UInt8 :=
  sd.kdd.val ++ [sd.kvn, 0x03, sd.iParam] ++ sd.challenge ++ sd.cryptogram 0x00 hostChallenge ++
    if sd.pseudoRandom then sd.sequence.val else []

/-- A domain that has come to `phase`. -/
def enter (phase : Scp03Phase) (sd : Scp03Domain P) : Scp03Domain P := { sd with phase := phase }

/-- Answer a host challenge of the right length, under the domain's key version. -/
def initializeUpdate (kvn : UInt8) (hostChallenge : List UInt8) (sd : Scp03Domain P) :
    Option (List UInt8 × Scp03Domain P) :=
  if kvn ≠ 0x00 ∧ kvn ≠ sd.kvn then none
  else if hostChallenge.length ≠ sd.mode.fieldLen then none
  else some (sd.response hostChallenge,
    sd.enter (.challenged (sd.card hostChallenge) (sd.cryptogram 0x01 hostChallenge)))

/-- A level has C-MAC, R-MAC by b6 of `i`, and R-ENC by b7. -/
def LevelOffered (sd : Scp03Domain P) (level : UInt8) : Prop :=
  level &&& 0x01 ≠ 0 ∧ (level &&& 0x10 ≠ 0 → sd.iParam &&& 0x20 ≠ 0) ∧
    (level &&& 0x20 ≠ 0 → sd.iParam &&& 0x40 ≠ 0)

instance (sd : Scp03Domain P) (level : UInt8) : Decidable (sd.LevelOffered level) :=
  inferInstanceAs (Decidable (_ ∧ (_ → _) ∧ (_ → _)))

/-- Verify the C-MAC, the level and the host cryptogram. -/
def externalAuthenticate (capdu : List UInt8) (sd : Scp03Domain P) : Option (Scp03Domain P) :=
  match sd.phase with
  | .challenged card hostCryptogram =>
    match card.receive P capdu with
    | some (command, card) =>
      if command.ins = 0x82 ∧ sd.LevelOffered command.p1 ∧ command.data = hostCryptogram then
        some (sd.enter (.opened card))
      else none
    | none => none
  | _ => none

instance : SecurityDomain (Scp03Domain P) where
  initializeUpdate := initializeUpdate
  externalAuthenticate := externalAuthenticate
  forget sd := sd.enter .idle

end Scp03Domain

end Scll

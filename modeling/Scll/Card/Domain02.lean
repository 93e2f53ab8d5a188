import Scll.Card.Handshake
import Scll.Card.Scp02

/-! # An SCP02 Security Domain

    GPCS Appendix E with `i = 55` from the card's side: session keys by 3DES-CBC
    over the sequence counter, cryptograms as full 3DES MACs, and
    EXTERNAL AUTHENTICATE accepted when its C-MAC and the host cryptogram
    verify.
-/

namespace Scll

open Octets BlockMode

/-- How far an open has come. -/
inductive Scp02Phase where
  | idle
  /-- INITIALIZE UPDATE was answered; this host cryptogram is to come. -/
  | challenged (card : Scp02Card) (hostCryptogram : Block 8)
  | opened (card : Scp02Card)

/-- A Security Domain with its static keys, over the primitives `P`. -/
structure Scp02Domain (P : Primitives) where
  /-- Key diversification data. -/
  kdd : Block 10
  kvn : UInt8
  enc : TdesKey
  mac : TdesKey
  dek : TdesKey
  sequence : Block 2
  challenge : Block 6
  phase : Scp02Phase

namespace Scp02Domain

variable {P : Primitives}

/-- `constant ‖ sequence ‖ 00…` under a static key, with a zero IV. -/
def derive (P : Primitives) (key : TdesKey) (constant : List UInt8) (sequence : Block 2) :
    TdesKey :=
  Block.ofOctets 16 (encryptOctets (P.tdesEde2 key.val) (Block.zero 8)
    (constant ++ sequence.val ++ List.replicate 12 0x00))

def sEnc (sd : Scp02Domain P) : TdesKey := derive P sd.enc [0x01, 0x82] sd.sequence

/-- The key that PUT KEY payloads of the session are under. -/
def sDek (sd : Scp02Domain P) : TdesKey := derive P sd.dek [0x01, 0x81] sd.sequence

/-- The card's end of the channel. -/
def card (sd : Scp02Domain P) : Scp02Card :=
  .fresh sd.sEnc (derive P sd.mac [0x01, 0x01] sd.sequence) (derive P sd.mac [0x01, 0x02] sd.sequence)

/-- Over the host challenge, the counter and the card challenge. -/
def cardCryptogram (sd : Scp02Domain P) (hostChallenge : List UInt8) : Block 8 :=
  tdesCbcMac P sd.sEnc.val (Block.zero 8)
    (hostChallenge ++ sd.sequence.val ++ sd.challenge.val)

/-- Over the counter, the card challenge and the host challenge. -/
def hostCryptogram (sd : Scp02Domain P) (hostChallenge : List UInt8) : Block 8 :=
  tdesCbcMac P sd.sEnc.val (Block.zero 8)
    (sd.sequence.val ++ sd.challenge.val ++ hostChallenge)

/-- `KDD(10) KVN 02 counter challenge cryptogram`. -/
def response (sd : Scp02Domain P) (hostChallenge : List UInt8) : List UInt8 :=
  sd.kdd.val ++ [sd.kvn, 0x02] ++ sd.sequence.val ++ sd.challenge.val ++
    (sd.cardCryptogram hostChallenge).val

/-- A domain that has come to `phase`. -/
def enter (phase : Scp02Phase) (sd : Scp02Domain P) : Scp02Domain P := { sd with phase := phase }

def initializeUpdate (kvn : UInt8) (hostChallenge : List UInt8) (sd : Scp02Domain P) :
    Option (List UInt8 × Scp02Domain P) :=
  if kvn ≠ 0x00 ∧ kvn ≠ sd.kvn then none
  else if hostChallenge.length ≠ 8 then none
  else some (sd.response hostChallenge,
    sd.enter (.challenged sd.card (sd.hostCryptogram hostChallenge)))

/-- A level has C-MAC, and no R-ENC. -/
def LevelOffered (level : UInt8) : Prop := level &&& 0x01 ≠ 0 ∧ level &&& 0x20 = 0

instance (level : UInt8) : Decidable (LevelOffered level) :=
  inferInstanceAs (Decidable (_ ∧ _))

/-- Verify the C-MAC, the level and the host cryptogram. -/
def externalAuthenticate (capdu : List UInt8) (sd : Scp02Domain P) : Option (Scp02Domain P) :=
  match sd.phase with
  | .challenged card hostCryptogram =>
    match card.receive P capdu with
    | some (command, card) =>
      if command.ins = 0x82 ∧ LevelOffered command.p1 ∧ command.data = hostCryptogram.val then
        some (sd.enter (.opened card))
      else none
    | none => none
  | _ => none

instance : SecurityDomain (Scp02Domain P) where
  initializeUpdate := initializeUpdate
  externalAuthenticate := externalAuthenticate
  forget sd := sd.enter .idle

end Scp02Domain

end Scll

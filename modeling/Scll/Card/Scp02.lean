import Scll.CryptoSpec
import Scll.Card.Command

/-! # The SCP02 reference card

    GPCS Appendix E with `i = 55`, from the card's side: the C-MAC is verified
    over the decrypted data, its ICV is the single-DES encryption of the
    previous C-MAC, and the R-MAC chain starts from the C-MAC of EXTERNAL
    AUTHENTICATE.
-/

namespace Scll

open Octets BlockMode

/-- What the card application answers, under any status word. -/
structure Scp02Reply where
  data : List UInt8
  sw1 : UInt8
  sw2 : UInt8

/-- The status word of a reply. -/
def Scp02Reply.sw (r : Scp02Reply) : List UInt8 := [r.sw1, r.sw2]

/-- The state of the card's end of the channel. -/
structure Scp02Card where
  sEnc : TdesKey
  sMac : TdesKey
  sRmac : TdesKey
  /-- The C-MAC of the last command; none before the first. -/
  lastMac : Option (Block 8)
  /-- The last R-MAC, or what the R-MAC chain starts from. -/
  ricv : Block 8
  level : UInt8
  opened : Bool
  /-- The current command as the R-MAC covers it. -/
  command : List UInt8

namespace Scp02Card

variable (P : Primitives)

/-- A card that answered INITIALIZE UPDATE. -/
def fresh (sEnc sMac sRmac : TdesKey) : Scp02Card where
  sEnc := sEnc
  sMac := sMac
  sRmac := sRmac
  lastMac := none
  ricv := Block.zero 8
  level := 0
  opened := false
  command := []

/-- The ICV of the next C-MAC. -/
def icv (card : Scp02Card) : Block 8 :=
  match card.lastMac with
  | none => Block.zero 8
  | some mac => P.des (card.sMac.val.take 8) mac

/-- The C-MAC of a command, over the plaintext data. -/
def cmac (card : Scp02Card) (cla ins p1 p2 : UInt8) (data : List UInt8) : Block 8 :=
  macAlgorithm3 P card.sMac.val (card.icv P)
    ([cla, ins, p1, p2, UInt8.ofNat (data.length + 8)] ++ data)

/-- The plaintext of a command body. -/
def plain (card : Scp02Card) (body : List UInt8) : Option (List UInt8) :=
  if card.opened ∧ card.level &&& 0x02 ≠ 0 ∧ body ≠ [] then
    if body.length % 8 = 0 then
      unpad (decryptOctets (P.tdesEde2 card.sEnc.val) (Block.zero 8) body)
    else none
  else some body

/-- A command whose C-MAC was verified. -/
def accept (card : Scp02Card) (cla ins p1 p2 : UInt8) (data : List UInt8) (mac : Block 8) :
    Option Scp02Card :=
  if card.opened then
    if card.level &&& 0x01 = 0 then none
    else
      -- the class byte as it was before secure messaging, on logical channel zero
      some { card with
        lastMac := some mac
        command := [cla &&& ~~~0x07, ins, p1, p2, UInt8.ofNat data.length] ++ data }
  else if ins = 0x82 then
    some { card with lastMac := some mac, ricv := mac, level := p1, opened := true }
  else none

/-- Receive a wrapped command. `none` is a refusal. -/
def receive (card : Scp02Card) : List UInt8 → Option (Command × Scp02Card)
  | cla :: ins :: p1 :: p2 :: lc :: rest =>
      let field := rest.take lc.toNat
      let body := field.take (field.length - 8)
      let mac := field.drop (field.length - 8)
      if cla &&& 0x04 = 0 then none
      else if field.length ≠ lc.toNat ∨ field.length < 8 then none
      else
        match card.plain P body with
        | none => none
        | some data =>
            let full := card.cmac P cla ins p1 p2 data
            if mac ≠ full.val then none
            else (card.accept cla ins p1 p2 data full).map fun card => (⟨ins, p1, p2, data⟩, card)
  | _ => none

/-- The R-MAC of a reply. -/
def rmac (card : Scp02Card) (r : Scp02Reply) : Block 8 :=
  macAlgorithm3 P card.sRmac.val card.ricv
    (card.command ++ [UInt8.ofNat r.data.length] ++ r.data ++ r.sw)

/-- The body of a reply on the wire, and the card after it. -/
def respondBody (card : Scp02Card) (r : Scp02Reply) : List UInt8 × Scp02Card :=
  if card.level &&& 0x10 ≠ 0 then
    (r.data ++ (card.rmac P r).val, { card with ricv := card.rmac P r })
  else (r.data, card)

end Scp02Card

end Scll

import Scll.Card.Command

/-! # The SCP03 reference card

    The other end of the channel: what Amendment D has a card do with a wrapped
    command and with a response. The card keeps its own chaining value, an
    unbounded counter and the level it took from EXTERNAL AUTHENTICATE. Nothing
    here is translated from the host; the two sides share the keys, the size
    mode and the primitives.

    The host cryptogram inside EXTERNAL AUTHENTICATE is application data here:
    the channel only carries it.
-/

namespace Scll

open Octets BlockMode

/-- The status words under which a response is protected. -/
def ProtectedStatus (sw1 sw2 : UInt8) : Prop := (sw1 = 0x90 ∧ sw2 = 0x00) ∨ sw1 = 0x62 ∨ sw1 = 0x63

instance (sw1 sw2 : UInt8) : Decidable (ProtectedStatus sw1 sw2) :=
  inferInstanceAs (Decidable ((sw1 = 0x90 ∧ sw2 = 0x00) ∨ sw1 = 0x62 ∨ sw1 = 0x63))

/-- What the card application answers. An error status word carries no data. -/
structure CardReply where
  data : List UInt8
  sw1 : UInt8
  sw2 : UInt8
  bare : ¬ProtectedStatus sw1 sw2 → data = []

/-- The status word of a reply. -/
def CardReply.sw (r : CardReply) : List UInt8 := [r.sw1, r.sw2]

/-- The state of the card's end of the channel. -/
structure Scp03Card where
  sEnc : AesKey
  sMac : AesKey
  sRmac : AesKey
  mode : ScpMode
  chain : Block 16
  /-- The encryption counter: commands received since EXTERNAL AUTHENTICATE. -/
  counter : ℕ
  level : UInt8
  /-- EXTERNAL AUTHENTICATE was accepted. -/
  opened : Bool

namespace Scp03Card

variable (P : Primitives)

/-- A card that answered INITIALIZE UPDATE: keys derived, nothing received yet. -/
def fresh (sEnc sMac sRmac : AesKey) (mode : ScpMode) : Scp03Card where
  sEnc := sEnc
  sMac := sMac
  sRmac := sRmac
  mode := mode
  chain := Block.zero 16
  counter := 0
  level := 0
  opened := false

/-- The counter as a 16-octet number, its first octet `80` for a response. -/
def icvBlock (counter : ℕ) (response : Bool) : Block 16 :=
  if response then Block.ofOctets 16 (0x80 :: (writeBE 16 counter).tail)
  else Block.ofOctets 16 (writeBE 16 counter)

/-- The ICV of the current command or of its response. -/
def icv (card : Scp03Card) (response : Bool) : Block 16 :=
  P.aes card.sEnc.val (icvBlock card.counter response)

/-- Undo C-DECRYPTION. -/
def decrypt (card : Scp03Card) (body : List UInt8) : Option (List UInt8) :=
  if body.length % 16 = 0 then
    unpad (decryptOctets (P.aes card.sEnc.val) (card.icv P false) body)
  else none

/-- The data of a command whose C-MAC was verified. -/
def accept (card : Scp03Card) (ins p1 : UInt8) (body : List UInt8) :
    Option (List UInt8 × Scp03Card) :=
  if card.opened then
    -- every command counts, also one without data
    let card := { card with counter := card.counter + 1 }
    if card.level &&& 0x01 = 0 then none
    else if card.level &&& 0x02 ≠ 0 ∧ body ≠ [] then
      (card.decrypt P body).map fun data => (data, card)
    else some (body, card)
  else if ins = 0x82 then some (body, { card with level := p1, opened := true })
  else none

/-- The C-MAC of a command, before truncation. -/
def cmac (card : Scp03Card) (header body : List UInt8) : Block 16 :=
  P.aesCmac card.sMac.val (card.chain.val ++ header ++ body)

/-- Receive a wrapped command: split it at `Lc`, verify the C-MAC, recover the
    data. `none` is a refusal. What follows the data field is `Le`. -/
def receive (card : Scp03Card) : List UInt8 → Option (Command × Scp03Card)
  | cla :: ins :: p1 :: p2 :: lc :: rest =>
      let field := rest.take lc.toNat
      let body := field.take (field.length - card.mode.macLen)
      let mac := field.drop (field.length - card.mode.macLen)
      let full := card.cmac P [cla, ins, p1, p2, lc] body
      if cla &&& 0x04 = 0 then none
      else if field.length ≠ lc.toNat ∨ field.length < card.mode.macLen then none
      else if mac ≠ full.val.take card.mode.macLen then none
      else
        (card.accept P ins p1 body).map fun (data, card) =>
          (⟨ins, p1, p2, data⟩, { card with chain := full })
  | _ => none

/-- The wire data of a protected reply: padded and encrypted under R-ENC. -/
def wireData (card : Scp03Card) (data : List UInt8) : List UInt8 :=
  if card.level &&& 0x20 ≠ 0 ∧ data ≠ [] then
    encryptOctets (P.aes card.sEnc.val) (card.icv P true) (pad 16 data)
  else data

/-- The R-MAC of a protected reply. -/
def rmac (card : Scp03Card) (wdata sw : List UInt8) : List UInt8 :=
  if card.level &&& 0x10 ≠ 0 then
    (P.aesCmac card.sRmac.val (card.chain.val ++ wdata ++ sw)).val.take card.mode.macLen
  else []

/-- The body of a reply on the wire. -/
def respondBody (card : Scp03Card) (r : CardReply) : List UInt8 :=
  if ProtectedStatus r.sw1 r.sw2 then
    card.wireData P r.data ++ card.rmac P (card.wireData P r.data) r.sw
  else []

/-- A reply on the wire. -/
def respond (card : Scp03Card) (r : CardReply) : List UInt8 := card.respondBody P r ++ r.sw

end Scp03Card

end Scll

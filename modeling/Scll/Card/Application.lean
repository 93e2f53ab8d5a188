import Scll.Handshake

/-! # A card with an application

    Behind the channel there is something that acts on commands. A reply is
    bounded so that padding and MAC still fit a response, and an error carries
    no data. `ServedCard` puts an application behind an honest Security Domain:
    the application says which keyset answers an open, and is told when a
    channel is opened. Nothing here is translated from the host.
-/

namespace Scll

open BlockMode Workflow

/-! ### Applications -/

/-- The longest reply that still fits a response at any level. -/
def MAX_REPLY_DATA : ℕ := 239

/-- What an application answers. -/
structure AppReply where
  data : List UInt8
  sw : UInt16
  /-- Only a protected status word comes with data. -/
  bare : ¬ProtectedStatus (sw >>> 8).toUInt8 sw.toUInt8 → data = []
  small : data.length ≤ MAX_REPLY_DATA

theorem protected_ok : ProtectedStatus (SW_OK >>> 8).toUInt8 SW_OK.toUInt8 := by decide

/-- A reply without data. -/
def AppReply.status (sw : UInt16) : AppReply where
  data := []
  sw := sw
  bare _ := rfl
  small := Nat.zero_le _

/-- A reply with data, cut to what fits. -/
def AppReply.ok (data : List UInt8) : AppReply where
  data := data.take MAX_REPLY_DATA
  sw := SW_OK
  bare h := absurd protected_ok h
  small := List.length_take_le ..

/-- An application: it acts on the commands it is given. -/
class CardApplication (α : Type) where
  perform : Command → α → AppReply × α

/-- An application with the keysets of a Security Domain. -/
class Issuer (P : Primitives) (α : Type) extends CardApplication α where
  /-- The Security Domain that answers under a key version; `00` for any. -/
  domain : UInt8 → α → Option (HonestDomain P)
  /-- A channel was opened with a Security Domain. -/
  opened : HonestDomain P → α → α

/-! ### The card's end of a channel -/

/-- The reply of an SCP03 card. -/
def AppReply.card03 (r : AppReply) : CardReply where
  data := r.data
  sw1 := (r.sw >>> 8).toUInt8
  sw2 := r.sw.toUInt8
  bare := r.bare

/-- The reply of an SCP02 card. -/
def AppReply.card02 (r : AppReply) : Scp02Reply where
  data := r.data
  sw1 := (r.sw >>> 8).toUInt8
  sw2 := r.sw.toUInt8

/-- Either reference card, past EXTERNAL AUTHENTICATE. -/
inductive CardChannel where
  | scp03 (card : Scp03Card)
  | scp02 (card : Scp02Card)

namespace CardChannel

variable (P : Primitives)

def receive (capdu : List UInt8) : CardChannel → Option (Command × CardChannel)
  | .scp03 card => (card.receive P capdu).map fun p => (p.1, .scp03 p.2)
  | .scp02 card => (card.receive P capdu).map fun p => (p.1, .scp02 p.2)

/-- The body of a reply on the wire, and the channel after it. -/
def respond (r : AppReply) : CardChannel → List UInt8 × CardChannel
  | .scp03 card => (card.respondBody P r.card03, .scp03 card)
  | .scp02 card => ((card.respondBody P r.card02).1, .scp02 (card.respondBody P r.card02).2)

end CardChannel

namespace HonestDomain

variable {P : Primitives}

def protocol : HonestDomain P → ScpProtocol
  | .scp03 _ => .scp03
  | .scp02 _ => .scp02

/-- The DEK that derives with a session. -/
def sessionDek : HonestDomain P → Option TdesKey
  | .scp03 _ => none
  | .scp02 sd => some sd.sDek

/-- The open channel of a Security Domain. -/
def channel : HonestDomain P → Option CardChannel
  | .scp03 sd =>
      match sd.phase with
      | .opened card => some (.scp03 card)
      | _ => none
  | .scp02 sd =>
      match sd.phase with
      | .opened card => some (.scp02 card)
      | _ => none

/-- The Security Domain once its channel has moved on. -/
def setChannel (ch : CardChannel) : HonestDomain P → HonestDomain P
  | .scp03 sd =>
      match ch with
      | .scp03 card => .scp03 (sd.enter (.opened card))
      | .scp02 _ => .scp03 sd
  | .scp02 sd =>
      match ch with
      | .scp02 card => .scp02 (sd.enter (.opened card))
      | .scp03 _ => .scp02 sd

end HonestDomain

/-! ### The application behind a Security Domain -/

/-- An honest card in front of an application. -/
structure ServedCard (P : Primitives) (α : Type) where
  front : HonestCard (HonestDomain P)
  app : α

namespace ServedCard

variable {P : Primitives} {α : Type}

/-- What is answered to a command that does not verify. -/
def SW_SECURITY : UInt16 := 0x6982

/-- The open channel. -/
def channel (c : ServedCard P α) : Option CardChannel := c.front.domain.channel

/-- The front answers, whatever is behind it. -/
def answerFront (capdu : List UInt8) (c : ServedCard P α) : Rapdu × ServedCard P α :=
  ((c.front.answer capdu).1, { c with front := (c.front.answer capdu).2 })

variable [Issuer P α]

/-- A command under secure messaging. -/
def serve (ch : CardChannel) (capdu : List UInt8) (c : ServedCard P α) :
    Rapdu × ServedCard P α :=
  match ch.receive P capdu with
  | none =>
      (.ofAnswer [] SW_SECURITY,
        { c with front := c.front.setDomain (SecurityDomain.forget c.front.domain) })
  | some (cmd, ch) =>
      let (reply, app) := CardApplication.perform cmd c.app
      let (body, ch) := ch.respond P reply
      (.ofAnswer body reply.sw, ⟨c.front.setDomain (c.front.domain.setChannel ch), app⟩)

/-- INITIALIZE UPDATE: the keyset decides which Security Domain answers. -/
def challenge (kvn : UInt8) (capdu : List UInt8) (c : ServedCard P α) :
    Rapdu × ServedCard P α :=
  match Issuer.domain kvn c.app with
  | none => (.ofAnswer [] SW_REF_NOT_FOUND, c)
  | some (sd : HonestDomain P) =>
      answerFront capdu { c with front := c.front.setDomain (SecurityDomain.forget sd) }

/-- EXTERNAL AUTHENTICATE: the application is told when it opens a channel. -/
def authenticate (capdu : List UInt8) (c : ServedCard P α) : Rapdu × ServedCard P α :=
  let (rapdu, c') := answerFront capdu c
  match c.channel, c'.channel with
  | none, some _ => (rapdu, { c' with app := Issuer.opened c'.front.domain c.app })
  | _, _ => (rapdu, c')

/-- A command outside secure messaging. -/
def answerPlain (capdu : List UInt8) (c : ServedCard P α) : Rapdu × ServedCard P α :=
  match capdu with
  | _ :: ins :: p1 :: _ =>
      if ins = 0x50 then challenge p1 capdu c
      else if ins = 0x82 then authenticate capdu c
      else answerFront capdu c
  | _ => answerFront capdu c

def answer (capdu : List UInt8) (c : ServedCard P α) : Rapdu × ServedCard P α :=
  match c.channel with
  | some ch =>
      if capdu.headD 0x00 &&& 0x04 = 0 then answerPlain capdu c else serve ch capdu c
  | none => answerPlain capdu c

instance : Transport (ServedCard P α) where
  transmit capdu c := (.ok (answer capdu c).1, (answer capdu c).2)
  capabilities _ := ⟨false, .t1, false⟩
  reset c :=
    (.ok ⟨[], .t1, Nat.zero_le _⟩,
      { c with
        front := { c.front with
          selected := false
          domain := SecurityDomain.forget c.front.domain } })
  protocol _ := .t1
  isConnected _ := true

end ServedCard

end Scll

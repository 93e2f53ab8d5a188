import Scll.Workflow.Session
import Scll.Framework.Framing

/-! # The simulator adapter

    `scll-transport-jcsim`: a transport that speaks to a simulator bridge over
    TCP. Every frame is a 4-octet big-endian length and then the raw APDU, the
    same in both directions. The bridge answers each request frame with one
    response frame, in order.

    What the operating system makes of the reads and writes is a schedule in
    the state: each of them does all it was asked to, or fails after some
    octets. A read that waits for octets the bridge has not sent times out.
-/

namespace Scll

open Octets Framing

namespace JcSim

/-- Bridge frame payload ceiling. -/
def MAX_FRAME : ℕ := 65535

/-! ### Errors of the operating system -/

/-- The kinds of `io::Error` that `map_io_err` tells apart. -/
inductive ErrorKind where
  | timedOut
  | wouldBlock
  | unexpectedEof
  | connectionReset
  | connectionAborted
  | brokenPipe
  | notConnected
  | other
  deriving DecidableEq, Repr

structure IoError where
  kind : ErrorKind
  /-- The pieces its debug form is written in. -/
  debug : List String
  deriving DecidableEq, Repr

/-- Write pieces into a fixed string, up to the first that does not fit. -/
def writeText (cap : ℕ) (s : String) : List String → String
  | [] => s
  | piece :: pieces =>
    if s.utf8ByteSize + piece.utf8ByteSize > cap then s else writeText cap (s ++ piece) pieces

/-- `TransportError::Other` with a bounded debug rendering. -/
def other (e : IoError) : TransportError := .other (writeText OTHER_DETAIL_MAX "" e.debug)

/-- The bridge is the whole reader and card stack, so a dropped connection is
    `ReaderGone`. -/
def mapIoErr (e : IoError) : TransportError :=
  match e.kind with
  | .timedOut | .wouldBlock => .timeout
  | .unexpectedEof | .connectionReset | .connectionAborted | .brokenPipe | .notConnected =>
    .readerGone
  | .other => other e

/-! ### The bridge and the connection -/

/-- A response the bridge can frame. -/
structure Response where
  octets : List UInt8
  fits : octets.length < 256 ^ 4

/-- The bridge, with the card behind it. -/
class Bridge (κ : Type) where
  /-- A client has connected. -/
  accept : κ → κ
  /-- The response to one command. -/
  answer : κ → List UInt8 → Response × κ

/-- One TCP connection, with what is under way on it. -/
structure TcpStream where
  /-- Octets written that are not yet a whole request frame. -/
  pending : List UInt8
  /-- Octets the bridge has sent that are not read yet. -/
  unread : List UInt8
  /-- `shutdown` was called. -/
  shut : Bool
  /-- The commands the bridge has answered here, and its responses. Nothing reads it. -/
  answered : List (List UInt8 × List UInt8)

def TcpStream.fresh : TcpStream := ⟨[], [], false, []⟩

/-- What comes of one read or write: all of it, or an error after some octets. -/
inductive Io where
  | done
  | cut (moved : ℕ) (e : IoError)

/-- What comes of the reads and writes of one `transmit`. -/
structure ExchangeIo where
  writeLength : Io
  writeBody : Io
  readLength : Io
  readBody : Io

def ExchangeIo.calm : ExchangeIo := ⟨.done, .done, .done, .done⟩

/-- What comes of the calls that open a connection. -/
structure OpenIo where
  connect : Option IoError
  setReadTimeout : Option IoError
  setWriteTimeout : Option IoError

def OpenIo.calm : OpenIo := ⟨none, none, none⟩

/-- The bridge, and what the network will do. After the schedule all is calm. -/
structure Net (κ : Type) where
  bridge : κ
  exchanges : List ExchangeIo
  opens : List OpenIo

end JcSim

open JcSim

/-- The transport to the bridge. -/
structure JcSimTransport (κ : Type) where
  stream : TcpStream
  connected : Bool
  net : Net κ

namespace JcSim

variable {κ : Type} [Bridge κ]

/-- The bridge answers one request. -/
def serve (t : JcSimTransport κ) (request : List UInt8) : JcSimTransport κ :=
  let response := (Bridge.answer t.net.bridge request).1
  { t with
    stream := { t.stream with
      unread := t.stream.unread ++ frame 4 response.octets
      answered := t.stream.answered ++ [(request, response.octets)] }
    net := { t.net with bridge := (Bridge.answer t.net.bridge request).2 } }

/-- What is left of the octets written. -/
def setPending (pending : List UInt8) (t : JcSimTransport κ) : JcSimTransport κ :=
  { t with stream := { t.stream with pending := pending } }

/-- Octets reach the bridge, which answers every request they complete. -/
def deliver (bs : List UInt8) (t : JcSimTransport κ) : JcSimTransport κ :=
  let (requests, pending) := splitFrames 4 (t.stream.pending ++ bs)
  requests.foldl serve (setPending pending t)

/-- Take octets off the connection. -/
def consume (n : ℕ) (t : JcSimTransport κ) : JcSimTransport κ :=
  { t with stream := { t.stream with unread := t.stream.unread.drop n } }

/-- `write_all`: nothing is written after a `shutdown`. -/
def writeAll (io : Io) (bs : List UInt8) : Prog (JcSimTransport κ) IoError Unit := fun t =>
  if bs = [] then (.ok (), t)
  else if t.stream.shut then (.error ⟨.brokenPipe, []⟩, t)
  else match io with
    | .done => (.ok (), deliver bs t)
    | .cut moved e => (.error e, deliver (bs.take (min moved (bs.length - 1))) t)

/-- `read_exact`: what was read before an error is gone. -/
def readExact (io : Io) (n : ℕ) : Prog (JcSimTransport κ) IoError (List UInt8) := fun t =>
  if n = 0 then (.ok [], t)
  else match io with
    | .done =>
      if n ≤ t.stream.unread.length then (.ok (t.stream.unread.take n), consume n t)
      else (.error ⟨.timedOut, []⟩, consume n t)
    | .cut moved e => (.error e, consume (min moved (n - 1)) t)

/-- Map an I/O error, and mark the transport disconnected. -/
def fail (e : IoError) (t : JcSimTransport κ) : TransportError × JcSimTransport κ :=
  (mapIoErr e, { t with connected := false })

/-- `map_err(|e| self.fail(&e))`. -/
def orFail {α : Type} (m : Prog (JcSimTransport κ) IoError α) :
    Prog (JcSimTransport κ) TransportError α := fun t =>
  match m t with
  | (.ok a, t') => (.ok a, t')
  | (.error e, t') => (.error (fail e t').1, (fail e t').2)

/-- `u32::try_from`. -/
def tryU32 (n : ℕ) : Option ℕ := if n < 2 ^ 32 then some n else none

/-- `extend_from_slice` into the R-APDU. -/
def rapduOf (octets : List UInt8) : Except TransportError Rapdu :=
  if h : octets.length ≤ RAPDU_MAX then .ok ⟨octets, h⟩ else .error .protocolError

/-- The schedule of the reads and writes of this call. -/
def nextExchange : Prog (JcSimTransport κ) TransportError ExchangeIo := fun t =>
  (.ok (t.net.exchanges.head?.getD .calm),
    { t with net := { t.net with exchanges := t.net.exchanges.tail } })

def transmit (capdu : List UInt8) : Prog (JcSimTransport κ) TransportError Rapdu := do
  let len ← Prog.lift (okOr ((tryU32 capdu.length).filter (· ≤ MAX_FRAME)) .protocolError)
  let io ← nextExchange
  orFail do
    writeAll io.writeLength (writeBE 4 len)
    writeAll io.writeBody capdu
  let lenBuf ← orFail (readExact io.readLength 4)
  -- A response longer than a short APDU's is refused, and not read.
  if readBE lenBuf > RAPDU_MAX then Prog.fail .protocolError
  else
    let body ← orFail (readExact io.readBody (readBE lenBuf))
    Prog.lift (rapduOf body)

/-- Open a connection and apply the timeouts. -/
def openStream : Prog (Net κ) TransportError TcpStream := fun net =>
  let io := net.opens.head?.getD .calm
  let net := { net with opens := net.opens.tail }
  match io.connect with
  | some e => (.error (mapIoErr e), net)
  | none =>
    let net := { net with bridge := Bridge.accept net.bridge }
    match io.setReadTimeout, io.setWriteTimeout with
    | some e, _ => (.error (other e), net)
    | none, some e => (.error (other e), net)
    | none, none => (.ok .fresh, net)

/-- Connect to the bridge at an address already resolved. -/
def connect (net : Net κ) : Except TransportError (JcSimTransport κ) :=
  match openStream net with
  | (.ok stream, net') => .ok ⟨stream, true, net'⟩
  | (.error e, _) => .error e

/-- `shutdown` of the old connection. -/
def shutdown (t : JcSimTransport κ) : JcSimTransport κ :=
  { t with stream := { t.stream with shut := true } }

/-- The bridge has neither a card reset nor an ATR: drop the connection and open
    a new one. -/
def reset : Prog (JcSimTransport κ) TransportError AtrAts := do
  Prog.update shutdown
  Prog.update fun t => { t with connected := false }
  let stream ← Prog.zoom JcSimTransport.net (fun t net => { t with net := net }) openStream
  Prog.update fun t => { t with stream := stream }
  Prog.update fun t => { t with connected := true }
  pure ⟨[], .t1, Nat.zero_le _⟩

/-- The socket has a peer until it is shut down. -/
def isConnected (t : JcSimTransport κ) : Bool := t.connected && !t.stream.shut

end JcSim

instance {κ : Type} [Bridge κ] : Transport (JcSimTransport κ) where
  transmit := JcSim.transmit
  capabilities _ := ⟨false, .t1, false⟩
  reset := JcSim.reset
  protocol _ := .t1
  isConnected := JcSim.isConnected

end Scll

import Scll.Report
import Scll.Response

/-! # Exchanging commands with a card

    The transport trait, the world a workflow runs in, and the two ways it
    talks to the card: plainly before a channel is open, and through the
    session afterwards.
-/

namespace Scll

/-! ### The transport -/

/-- One short R-APDU. -/
structure Rapdu where
  octets : List UInt8
  short : octets.length ≤ RAPDU_MAX

/-- A response of at most 256 data octets. -/
def Rapdu.ofAnswer (data : List UInt8) (sw : UInt16) : Rapdu where
  octets := data.take 256 ++ [(sw >>> 8).toUInt8, sw.toUInt8]
  short := by
    simp only [List.length_append, List.length_take, List.length_cons, List.length_nil]
    show _ ≤ 258
    omega

/-- One short C-APDU in, one R-APDU out; capabilities, reset, liveness. -/
class Transport (τ : Type) where
  transmit : List UInt8 → Prog τ TransportError Rapdu
  capabilities : τ → TransportCaps
  reset : Prog τ TransportError AtrAts
  protocol : τ → TransportProtocol
  isConnected : τ → Bool

/-- What a workflow runs in: the transport and the backend it borrows. -/
structure World (τ β : Type) where
  transport : τ
  backend : β
  /-- The plaintext commands handed to the transport so far. Nothing reads it. -/
  sent : List Capdu

namespace Workflow

def SW_OK : UInt16 := 0x9000
def SW_REF_NOT_FOUND : UInt16 := 0x6A88
def SW_FILE_NOT_FOUND : UInt16 := 0x6A82
def SW_WRONG_DATA : UInt16 := 0x6A80
def SW_CONDITIONS : UInt16 := 0x6985
def SW_MORE_DATA : UInt16 := 0x6310

def mapTransport : TransportError → ScllError
  | .cardRemoved => .cardRemoved
  | .readerGone => .readerGone
  | .timeout => .timeout
  | .protocolError => .transportUnavailable
  | .other _ => .transportUnavailable

/-- The last two octets of a response, big-endian. -/
def statusWord (rapdu : List UInt8) : UInt16 :=
  match rapdu.drop (rapdu.length - 2) with
  | [sw1, sw2] => (sw1.toUInt16 <<< 8) ||| sw2.toUInt16
  | _ => 0

/-- Split `data ‖ SW`. -/
def splitSw (rapdu : List UInt8) : Except ScllError (List UInt8 × UInt16) :=
  if rapdu.length < 2 then .error (.card 0x0000)
  else do
    let sw := statusWord rapdu
    let data ← extend RAPDU_MAX (.card sw) [] (rapdu.take (rapdu.length - 2))
    .ok (data, sw)

/-! ### What a response of a known form comes to -/

/-- The octets of a status word, read back. -/
theorem statusWord_octets (data : List UInt8) (sw : UInt16) :
    statusWord (data ++ [(sw >>> 8).toUInt8, sw.toUInt8]) = sw := by
  have hdrop : (data ++ [(sw >>> 8).toUInt8, sw.toUInt8]).drop
      ((data ++ [(sw >>> 8).toUInt8, sw.toUInt8]).length - 2) =
      [(sw >>> 8).toUInt8, sw.toUInt8] := List.drop_left' (by simp)
  have hlt := sw.toNat_lt
  have hhigh : (sw >>> 8).toUInt8.toNat = sw.toNat / 256 := by
    rw [UInt16.toNat_toUInt8, UInt16.toNat_shiftRight, Nat.mod_eq_of_lt]
    · exact Nat.shiftRight_eq_div_pow ..
    · show sw.toNat >>> 8 < 256
      rw [Nat.shiftRight_eq_div_pow]
      omega
  have hshift : ((sw >>> 8).toUInt8.toUInt16 <<< 8).toNat = (sw.toNat / 256) <<< 8 := by
    rw [UInt16.toNat_shiftLeft, UInt8.toNat_toUInt16, hhigh, Nat.mod_eq_of_lt]
    · rfl
    · show (sw.toNat / 256) <<< 8 < 65536
      rw [Nat.shiftLeft_eq]
      omega
  unfold statusWord
  rw [hdrop]
  apply UInt16.toNat_inj.mp
  rw [UInt16.toNat_or, hshift, UInt8.toNat_toUInt16, UInt16.toNat_toUInt8,
    ← Nat.shiftLeft_add_eq_or_of_lt (Nat.mod_lt _ (by decide)), Nat.shiftLeft_eq]
  omega

theorem splitSw_ofAnswer {data : List UInt8} (h : data.length ≤ 256) (sw : UInt16) :
    splitSw (Rapdu.ofAnswer data sw).octets = .ok (data, sw) := by
  have htake : data.take 256 = data := List.take_of_length_le h
  have hlen : (data ++ [(sw >>> 8).toUInt8, sw.toUInt8]).length - 2 = data.length := by simp
  unfold splitSw Rapdu.ofAnswer
  simp only [htake]
  rw [if_neg (by simp), statusWord_octets, hlen, List.take_left, extend]
  rw [if_neg (by simp only [List.length_nil]; show ¬_ > 258; omega)]
  rfl

/-! ### Lifting results -/

/-- The `?` on a builder. -/
def ofBuild {α : Type} (x : Except BuildError α) : Except ScllError α :=
  x.mapError .build

theorem ofBuild_eq_ok {α : Type} {x : Except BuildError α} {a : α} :
    ofBuild x = .ok a ↔ x = .ok a := mapError_eq_ok

/-- The `?` on a TLV parser. -/
def ofTlv {α : Type} (x : Except TlvError α) : Except ScllError α :=
  x.mapError .malformedResponse

section transmit

variable {τ β : Type}

/-- A backend call of a workflow. -/
def onBackend {α : Type} (m : Prog β ScllError α) : Prog (World τ β) ScllError α :=
  m.zoom World.backend fun w b => { w with backend := b }

theorem onBackend_run {α : Type} {m : Prog β ScllError α} {w : World τ β}
    {r : Except ScllError α} {b : β} (h : m w.backend = (r, b)) :
    onBackend m w = (r, { w with backend := b }) := by
  unfold onBackend Prog.zoom
  rw [h]

/-- Note the plaintext of a command that goes to the transport. -/
def note (plain : Capdu) : Prog (World τ β) ScllError Unit :=
  .update fun w => { w with sent := w.sent ++ [plain] }

variable [Transport τ]

/-- Hand the wire form of a command to the transport. -/
def exchange (plain wire : Capdu) : Prog (World τ β) ScllError Rapdu := do
  note plain
  ((Transport.transmit wire).mapErr mapTransport).zoom World.transport
    fun w t => { w with transport := t }

/-- Send one raw C-APDU and split the response. -/
def transmitPlain (capdu : Capdu) : Prog (World τ β) ScllError (List UInt8 × UInt16) := do
  let rapdu ← exchange capdu capdu
  .lift (splitSw rapdu.octets)

/-- What SELECT makes of its status word. -/
def selectOutcome (data : List UInt8) (sw : UInt16) : Except ScllError (List UInt8) :=
  if sw = SW_OK then .ok data
  else if sw = SW_FILE_NOT_FOUND then .error .cardNotUsable
  else .error (.fromGeneralSw sw)

/-- SELECT by AID and require `9000`; the FCI on success. -/
def select (aid : List UInt8) : Prog (World τ β) ScllError (List UInt8) := do
  let capdu ← .lift (ofBuild (Capdu.selectByAid aid))
  let (data, sw) ← transmitPlain capdu
  .lift (selectOutcome data sw)

def TAG_FCI : UInt32 := 0x6F
def TAG_DF_NAME : UInt32 := 0x84

/-- The DF name of an FCI, inside the `'6F'` template or bare. -/
def fciDfName (fci : List UInt8) : Except ScllError (Option (List UInt8)) :=
  if fci.isEmpty then .ok none
  else do
    let top ← ofTlv (Tlv.parse fci)
    match find top TAG_FCI with
    | some inner => do
        let parsed ← ofTlv (Tlv.parse inner)
        .ok (find parsed TAG_DF_NAME)
    | none => .ok (find top TAG_DF_NAME)

variable [Scp03Backend β] [Scp02Backend β]

/-- `wrap_command` of either protocol. -/
def wrapCommand (session : ScpSession) (capdu : Capdu) : Prog β ScllError Capdu :=
  match session with
  | .scp03 s => ofBackend (Scp03Backend.scp03WrapCommand s.session capdu)
  | .scp02 s => ofBackend (Scp02Backend.scp02WrapCommand s.session capdu)

/-- `unwrap_response` of either protocol. -/
def unwrapResponse (session : ScpSession) (rapdu : List UInt8) : Prog β ScllError (List UInt8) :=
  match session with
  | .scp03 s => ofBackend (Scp03Backend.scp03UnwrapResponse s.session rapdu)
  | .scp02 s => ofBackend (Scp02Backend.scp02UnwrapResponse s.session rapdu)

/-- Wrap a plaintext command, transmit it, unwrap the response and split it. -/
def transmitInSession (session : ScpSession) (capdu : Capdu) :
    Prog (World τ β) ScllError (List UInt8 × UInt16) := do
  let wrapped ← onBackend (wrapCommand session capdu)
  let rapdu ← exchange capdu wrapped
  let unwrapped ← onBackend (unwrapResponse session rapdu.octets)
  .lift (splitSw unwrapped)

end transmit

end Workflow

end Scll

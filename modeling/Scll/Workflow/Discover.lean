import Scll.Workflow.Session

/-! # Before authentication

    What the card tells without a channel. Missing optional data is a warning;
    a broken template or a refused command is an error.
-/

namespace Scll

namespace Workflow

open Response

def TAG_CRD : UInt16 := 0x0066
def TAG_KIT : UInt16 := 0x00E0
def TAG_CCI : UInt16 := 0x0067
def TAG_IIN : UInt16 := 0x0042
def TAG_CIN : UInt16 := 0x0045
def TAG_CPLC : UInt16 := 0x9F7F

/-- Assumed when a card advertises no secure channel. -/
def FALLBACK_SCP : ScpVariant := .scp02 0x55

/-- Strip the `'9F7F'` wrapper of a CPLC, if present. -/
def cplcValue (data : List UInt8) : List UInt8 :=
  match data with
  | 0x9F :: 0x7F :: len :: rest => if len.toNat ≤ rest.length then rest.take len.toNat else data
  | _ => data

/-- One-octet privileges for NXP JCOP silicon, the canonical three otherwise. -/
def privLenFromCplc (value : List UInt8) : Capdu.PrivLen :=
  if 6 ≤ value.length ∧ value.take 2 = [0x47, 0x90] ∧ value.getD 4 0 = 0x47 then .jcop1Byte
  else .canonical

/-- The ISD AID: the caller's, or the DF name of the FCI. -/
def resolveIsdAid (expected : Option (List UInt8)) (fci : List UInt8) : Except ScllError Aid :=
  match expected with
  | some e => Aid.new e
  | none => do
      match ← fciDfName fci with
      | some name => Aid.new name
      | none => .error .isdAidNotFound

/-- Absent is `6A88`, or `9000` with no data. -/
def optionalData (data : List UInt8) (sw : UInt16) : Except ScllError (Option (List UInt8)) :=
  if sw = SW_OK ∧ ¬data.isEmpty then .ok (some data)
  else if sw = SW_OK ∨ sw = SW_REF_NOT_FOUND then .ok none
  else .error (.fromGeneralSw sw)

/-- Copy into a bounded buffer, or nothing. -/
def copyOpt (cap : ℕ) (src : List UInt8) : Option (List UInt8) :=
  if src.length ≤ cap then some src else none

/-- The Card Recognition Data of a card: its octets and the variants on offer. -/
def recognition (crd : Option (List UInt8)) : Except ScllError (List UInt8 × List ScpVariant) :=
  match crd with
  | none => .ok ([], [])
  | some data => do
      let scp ← ofTlv (parseCardRecognition data)
      .ok (data.take GETDATA_RAW_MAX, scp)

/-- The variants to choose from, never none. -/
def orFallback (scp : List ScpVariant) : List ScpVariant :=
  if scp.isEmpty then [FALLBACK_SCP] else scp

/-- The warnings of a discovery, in the order its steps give them. -/
def discoveryWarnings (scp : List ScpVariant) (kit cci : Option (List UInt8)) :
    List DiscoveryWarning :=
  (if scp.isEmpty then [.cardRecognitionDataMissing] else []) ++
    (if kit.isNone then [.keyInformationTemplateMissing] else []) ++
    (if cci.isNone then [.cardCapabilityInfoMissing] else [])

section discovery

variable {τ β : Type} [Transport τ]

/-- Availability and self-reported capabilities of the transport. -/
def probe (name : TransportName) : Prog (World τ β) ScllError (Report ProbeParams) :=
  .query fun w =>
    if Transport.isConnected w.transport then
      .ok ⟨⟨name, Transport.capabilities w.transport⟩, []⟩
    else .error .transportUnavailable

/-- Reset the card. -/
def reset : Prog (World τ β) ScllError AtrAts :=
  ((Transport.reset).mapErr mapTransport).zoom World.transport
    fun w t => { w with transport := t }

/-- GET DATA, with absence as a value. -/
def optionalGetData (tag : UInt16) : Prog (World τ β) ScllError (Option (List UInt8)) := do
  let capdu ← .lift (ofBuild (Capdu.getData tag))
  let (data, sw) ← transmitPlain capdu
  .lift (optionalData data sw)

/-- Discover what the card reports with no authentication. -/
def discoverCard (expectedIsdAid : Option (List UInt8)) :
    Prog (World τ β) ScllError CardInfo := do
  let atr ← reset
  let fci ← select (expectedIsdAid.getD [])
  let isdAid ← .lift (resolveIsdAid expectedIsdAid fci)
  let crd ← optionalGetData TAG_CRD
  let (cardRecognitionDataRaw, scp) ← .lift (recognition crd)
  let kit ← optionalGetData TAG_KIT
  let keys ← .lift (ofTlv (parseKeyInformation (kit.getD [])))
  let cci ← optionalGetData TAG_CCI
  let capabilities ← .lift (ofTlv (parseCardCapabilities (cci.getD [])))
  let iin ← optionalGetData TAG_IIN
  let cin ← optionalGetData TAG_CIN
  let cplc ← optionalGetData TAG_CPLC
  pure
    { isdAid
      atrOrAts := atr.bytes
      transportProtocol := atr.protocol
      scpSupported := orFallback scp
      scpDefault := (orFallback scp).headD FALLBACK_SCP
      isdKeysets := keys.keysets
      isdKeyTemplateFormat := keys.format
      capabilities
      cardRecognitionDataRaw
      iin := iin.bind (copyOpt IIN_MAX)
      cin := cin.bind (copyOpt CIN_MAX)
      cardImageNumber := cin.bind (copyOpt CIN_MAX)
      privilegeEncoding := (cplc.map fun d => privLenFromCplc (cplcValue d)).getD .canonical
      discoveryWarnings := discoveryWarnings scp kit cci }

end discovery

end Workflow

end Scll

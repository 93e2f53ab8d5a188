import Scll.Command
import Scll.Scp.Scp02

/-! # Reports

    What each workflow reports back: the effective parameters and the
    non-fatal warnings. The report types that carry nothing but these two share
    `Report`.
-/

namespace Scll

/-- A report: its effective parameters and its warnings. -/
structure Report (α : Type) where
  effective : α
  warnings : List Warning

/-! ### Transport -/

/-- Negotiated card protocol. -/
inductive TransportProtocol where
  | t0
  | t1
  | tCl
  deriving DecidableEq, Repr

/-- Self-reported transport capabilities. -/
structure TransportCaps where
  handlesT0GetResponse : Bool
  protocol : TransportProtocol
  contactless : Bool
  deriving DecidableEq, Repr

/-- Answer-To-Reset or Answer-To-Select. -/
structure AtrAts where
  bytes : List UInt8
  protocol : TransportProtocol
  fits : bytes.length ≤ ATR_ATS_MAX

/-- Transport identity. -/
inductive TransportName where
  | pcsc
  | jcsim
  | user
  | other (name : String)
  deriving DecidableEq, Repr

structure ProbeParams where
  transportName : TransportName
  transportCapabilities : TransportCaps

/-! ### Secure channel -/

inductive ScpProtocol where
  | scp02
  | scp03
  deriving DecidableEq, Repr

/-- Open secure-channel handle, protocol-tagged. -/
inductive ScpSession where
  | scp03 (s : Scp03.Scp03State)
  | scp02 (s : Scp02.Scp02State)

namespace ScpSession

/-- The effective security level fixed at channel open. -/
def securityLevel : ScpSession → UInt8
  | .scp03 s => s.securityLevel
  | .scp02 s => s.securityLevel

def iParam : ScpSession → UInt8
  | .scp03 s => s.iParam
  | .scp02 s => s.iParam

def protocol : ScpSession → ScpProtocol
  | .scp03 _ => .scp03
  | .scp02 _ => .scp02

/-- The backend slot index, as a session identifier. -/
def sessionId : ScpSession → UInt64
  | .scp03 s => s.session.index.toUInt64
  | .scp02 s => s.session.index.toUInt64

end ScpSession

inductive ScpTargetKind where
  | securityDomainAid
  | applicationAid
  deriving DecidableEq, Repr

structure OpenScpParams where
  targetAid : Aid
  targetKind : ScpTargetKind
  sdAidUsedForKeys : Aid
  scpProtocolEffective : ScpProtocol
  kvnRequested : UInt8
  kvnEffective : UInt8
  iParamEffective : UInt8
  securityLevelRequested : UInt8
  securityLevelEffective : UInt8
  sessionId : UInt64
  invokerAidUsed : Aid

/-- `open_scp` also yields the session. -/
structure OpenScpReport where
  session : ScpSession
  effective : OpenScpParams
  warnings : List Warning

structure AppletTransmitParams where
  sessionId : UInt64
  capduPlaintextLen : UInt16
  rapduPlaintextLen : UInt16
  sw : UInt16
  secLevel : UInt8
  scpProtocol : ScpProtocol

/-- The status word is not itself an error. -/
structure AppletTransmitReport where
  rapdu : List UInt8
  sw : UInt16
  effective : AppletTransmitParams
  warnings : List Warning

/-! ### Keys -/

structure PutKeysParams where
  targetSdAid : Aid
  scpProtocol : ScpProtocol
  newKvn : UInt8
  keyType : KeyType
  keyLength : UInt8
  /-- Three octets for each of ENC, MAC and DEK. -/
  kcvs : List UInt8

structure DeleteKeyParams where
  targetSdAid : Aid
  kvn : UInt8

/-! ### Content -/

structure CreateSsdParams where
  ssdAidEffective : Aid
  aidWasGenerated : Bool
  parentSdAid : Aid
  privilegesUsed : Privileges
  elfAidUsed : Aid
  moduleAidUsed : Aid
  installParamsUsed : List UInt8

structure LoadPackageParams where
  packageAid : Aid
  loadFileSize : UInt32
  hashValue : List UInt8
  blockCount : UInt16
  targetSdAid : Aid

inductive DeleteTargetKind where
  | ssd
  | appletInstance
  | executableLoadFile
  deriving DecidableEq, Repr

inductive DeleteCascade where
  | never
  | onlyIfEmpty
  | ifLastInstance
  | cascade
  | always
  deriving DecidableEq, Repr

structure DeleteObjectParams where
  targetAid : Aid
  targetKind : DeleteTargetKind
  cascadeRequested : DeleteCascade
  cascadeUsed : Bool
  instancesRemoved : List Aid
  elfsRemoved : List Aid

structure InstallAppletParams where
  instanceAid : Aid
  packageAidUsed : Aid
  moduleAidUsed : Aid
  privilegesUsed : Privileges
  systemInstallParams : List UInt8
  appletInstallParams : List UInt8
  parentSdAid : Aid

/-! ### Status -/

structure SetCardStatusParams where
  stateBefore : CardLifeCycle
  targetState : CardLifeCycle
  p1StatusType : UInt8
  p2StateByte : UInt8
  wasNoOp : Bool
  forceUsed : Bool
  irreversible : Bool

structure GetCardStatusParams where
  rawStateByte : UInt8
  decodedState : CardLifeCycle
  isdAid : Aid

structure GetCardStatusReport where
  state : CardLifeCycle
  effective : GetCardStatusParams
  warnings : List Warning

/-- The counts are the retained totals. -/
structure GetCardInventoryParams where
  isdAid : Aid
  securityDomainCount : ℕ
  applicationCount : ℕ
  elfCount : ℕ
  truncated : Bool

structure GetCardInventoryReport where
  inventory : CardInventory
  effective : GetCardInventoryParams
  warnings : List Warning

/-! ### Discovery -/

/-- Everything the card reports before authentication. -/
structure CardInfo where
  isdAid : Aid
  atrOrAts : List UInt8
  transportProtocol : TransportProtocol
  scpSupported : List ScpVariant
  scpDefault : ScpVariant
  isdKeysets : List Keyset
  isdKeyTemplateFormat : KeyTemplateFormat
  capabilities : CardCapabilities
  cardRecognitionDataRaw : List UInt8
  iin : Option (List UInt8)
  cin : Option (List UInt8)
  cardImageNumber : Option (List UInt8)
  privilegeEncoding : Capdu.PrivLen
  discoveryWarnings : List DiscoveryWarning

end Scll

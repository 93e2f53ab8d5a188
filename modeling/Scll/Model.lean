import Scll.Error

/-! # The card model

    What the library tells its caller about a card: AIDs, the secure-channel
    variants on offer, keysets, capabilities, and the object inventory. An AID
    carries its length bounds, so that one out of range cannot be built.
-/

namespace Scll

/-! ### AIDs -/

/-- Smallest legal AID: a 5-octet RID with an empty PIX. -/
def AID_MIN : ℕ := 5

/-- The one length check on an AID. -/
def AidLength (bytes : List UInt8) : Prop := AID_MIN ≤ bytes.length ∧ bytes.length ≤ AID_MAX

instance (bytes : List UInt8) : Decidable (AidLength bytes) := inferInstanceAs (Decidable (_ ∧ _))

/-- Validated AID. -/
structure Aid where
  bytes : List UInt8
  valid : AidLength bytes
  deriving DecidableEq

/-- Build an `Aid`, rejecting lengths outside 5..=16. -/
def Aid.new (bytes : List UInt8) : Except ScllError Aid :=
  if h : AidLength bytes then .ok ⟨bytes, h⟩ else .error (.invalidAid bytes.length)

/-- `Aid::new(..).ok()`. -/
def Aid.ofOctets? (bytes : List UInt8) : Option Aid := (Aid.new bytes).toOption

theorem Aid.new_of_valid {bytes : List UInt8} (h : AidLength bytes) :
    Aid.new bytes = .ok ⟨bytes, h⟩ := by
  unfold Aid.new
  rw [dif_pos h]

theorem Aid.new_eq_ok {bytes : List UInt8} {aid : Aid} :
    Aid.new bytes = .ok aid ↔ aid.bytes = bytes := by
  unfold Aid.new
  split
  · next h =>
    constructor
    · intro heq
      rw [← Except.ok.inj heq]
    · intro heq
      cases aid with
      | mk b hb =>
        subst heq
        rfl
  · next h =>
    constructor
    · intro heq
      cases heq
    · intro heq
      exact absurd (heq ▸ aid.valid) h

theorem Aid.new_of_invalid {bytes : List UInt8} (h : ¬AidLength bytes) :
    Aid.new bytes = .error (.invalidAid bytes.length) := by
  unfold Aid.new
  rw [dif_neg h]

theorem Aid.ofOctets?_eq_some {bytes : List UInt8} {aid : Aid} :
    Aid.ofOctets? bytes = some aid ↔ aid.bytes = bytes := by
  rw [← Aid.new_eq_ok]
  unfold Aid.ofOctets?
  cases Aid.new bytes with
  | ok a => simp [Except.toOption]
  | error e => simp [Except.toOption]

/-! ### Secure channels and keys -/

/-- One advertised secure-channel variant. -/
inductive ScpVariant where
  | scp02 (iParam : UInt8)
  | scp03 (iParam : UInt8)
  deriving DecidableEq, Repr

/-- GP key-type byte decode. -/
inductive KeyType where
  | des
  | aes
  | rsaPublic
  | rsaPrivateCrt
  | rsaPrivateExponent
  | eccPublic
  | eccPrivate
  | eccParametersRef
  | other (byte : UInt8)
  deriving DecidableEq, Repr

/-- One key slot of the Key Information Template. -/
structure KeyInfo where
  kid : UInt8
  keyType : KeyType
  keyLength : UInt8
  deriving DecidableEq, Repr

/-- A keyset grouped by Key Version Number. -/
structure Keyset where
  kvn : UInt8
  keys : List KeyInfo
  deriving DecidableEq, Repr

/-- Key Information Template format. -/
inductive KeyTemplateFormat where
  | basic
  | extended
  deriving DecidableEq, Repr

/-- Parsed Card Capability Information. The cipher list and the memory figures
    are never decoded. -/
structure CardCapabilities where
  /-- Default 1 if absent. -/
  maxLogicalChannels : UInt8
  privilegesSupported : List UInt8
  cciRaw : List UInt8
  deriving DecidableEq, Repr

/-! ### Life cycle -/

/-- Card life-cycle state. -/
inductive CardLifeCycle where
  | opReady
  | initialized
  | secured
  | cardLocked
  /-- Read only, never a set target. -/
  | terminated
  | unknown (byte : UInt8)
  deriving DecidableEq, Repr

/-! ### Object inventory -/

/-- The fixed three privilege octets. -/
structure Privileges where
  byte0 : UInt8
  byte1 : UInt8
  byte2 : UInt8
  deriving DecidableEq, Repr

def Privileges.toList (p : Privileges) : List UInt8 := [p.byte0, p.byte1, p.byte2]

/-- Security Domain registry entry. -/
structure SecurityDomainEntry where
  aid : Aid
  lifeCycleState : UInt8
  privileges : Privileges
  /-- Present for SSDs; none for the ISD. -/
  associatedSdAid : Option Aid
  deriving DecidableEq

/-- Application (applet instance) registry entry. -/
structure ApplicationEntry where
  aid : Aid
  lifeCycleState : UInt8
  privileges : Privileges
  /-- Applets always have a parent SD. -/
  associatedSdAid : Aid
  associatedElfAid : Option Aid
  deriving DecidableEq

/-- Executable Load File registry entry. -/
structure ExecutableLoadFileEntry where
  aid : Aid
  lifeCycleState : UInt8
  associatedSdAid : Aid
  /-- Class AIDs inside this ELF. -/
  modules : List Aid
  deriving DecidableEq

/-- Object inventory snapshot. -/
structure CardInventory where
  securityDomains : List SecurityDomainEntry
  applets : List ApplicationEntry
  elfs : List ExecutableLoadFileEntry
  deriving DecidableEq

/-! ### Warnings -/

/-- Typed warning kinds. -/
inductive WarningKind where
  | cardRecognitionDataMissing
  | keyInformationTemplateMissing
  | cardCapabilityInfoMissing
  | unknownLifecycleByte (byte : UInt8)
  | getStatusParseFailed
  | lifecycleNoOp
  /-- The returned inventory is a valid prefix, not the full card content. -/
  | inventoryTruncated
  deriving DecidableEq, Repr

/-- A non-fatal warning. -/
structure Warning where
  kind : WarningKind
  detail : String
  deriving DecidableEq, Repr

/-- Typed discovery warning. -/
inductive DiscoveryWarning where
  | cardRecognitionDataMissing
  | keyInformationTemplateMissing
  | cardCapabilityInfoMissing
  | unknownLifecycleByte (byte : UInt8)
  | getStatusParseFailed
  | other (detail : String)
  deriving DecidableEq, Repr

/-! ### Bounded vectors -/

/-- `push` on a `heapless::Vec` of capacity `cap`, its failure ignored: the new
    contents, and whether the element was taken. -/
def tryPush {α : Type} (cap : ℕ) (v : List α) (a : α) : List α × Bool :=
  if v.length < cap then (v ++ [a], true) else (v, false)

theorem tryPush_of_lt {α : Type} {cap : ℕ} {v : List α} (h : v.length < cap) (a : α) :
    tryPush cap v a = (v ++ [a], true) := by
  unfold tryPush
  rw [if_pos h]

/-- `push` with its failure mapped to `e`. -/
def pushOr {ε α : Type} (cap : ℕ) (e : ε) (v : List α) (a : α) : Except ε (List α) :=
  if v.length < cap then .ok (v ++ [a]) else .error e

end Scll

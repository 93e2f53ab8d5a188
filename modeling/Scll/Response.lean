import Scll.Model

/-! # Card-response parsers

    One level above BER-TLV: each function walks a template and decodes it into
    the card model. A missing optional element yields a default, an unknown
    byte an `other`; only a broken template, or one with more objects than the
    model holds, is an error.
-/

namespace Scll

/-- The value of the first object with `tag`. -/
def find (tlvs : List Tlv) (tag : UInt32) : Option (List UInt8) :=
  (tlvs.find? fun t => t.tag == tag).map Tlv.value

namespace Response

/-! ### Card Recognition Data -/

def TAG_CRD : UInt32 := 0x66
def TAG_CRD_BODY : UInt32 := 0x73
/-- Secure-channel protocol and its options. -/
def TAG_SCP_ENTRY : UInt32 := 0x64
def TAG_OID : UInt32 := 0x06

/-- SCP01 and any other id is not representable. -/
def scpVariant (scpId iParam : UInt8) : Option ScpVariant :=
  if scpId = 0x02 then some (.scp02 iParam)
  else if scpId = 0x03 then some (.scp03 iParam)
  else none

/-- The last two octets of an OID are the protocol and its `i`. -/
def oidVariant (oid : List UInt8) : Option ScpVariant :=
  match oid.reverse with
  | i :: scpId :: _ => scpVariant scpId i
  | _ => none

/-- One `'64'` entry. -/
def scpEntry (scp : List ScpVariant) (entry : Tlv) : Except TlvError (List ScpVariant) := do
  let oidTlvs ← Tlv.parse entry.value
  match (find oidTlvs TAG_OID).bind oidVariant with
  | some variant => pushOr MAX_SCP_VARIANTS .tooMany scp variant
  | none => .ok scp

/-- The `'73'` body, wrapped in `'66'` or bare. -/
def crdBody (top : List Tlv) : Except TlvError (Option (List UInt8)) :=
  match find top TAG_CRD with
  | some v66 => do
      let wrapped ← Tlv.parse v66
      .ok (find wrapped TAG_CRD_BODY)
  | none => .ok (find top TAG_CRD_BODY)

/-- Every `(scp, i)` the card advertises, in order. -/
def parseCardRecognition (data : List UInt8) : Except TlvError (List ScpVariant) :=
  if data.isEmpty then .ok []
  else do
    let top ← Tlv.parse data
    match ← crdBody top with
    | none => .ok []
    | some body => do
        let entries ← Tlv.parse body
        (entries.filter fun t => t.tag == TAG_SCP_ENTRY).foldlM scpEntry []

/-! ### Key Information Template -/

def TAG_KEY_TEMPLATE : UInt32 := 0xE0
def TAG_KEY_ENTRY : UInt32 := 0xC0
def KEY_EXTENDED_MARKER : UInt8 := 0xB9

/-- Decoded Key Information Template: keysets grouped by version. -/
structure KeyInformation where
  format : KeyTemplateFormat
  keysets : List Keyset

def decodeKeyType (byte : UInt8) : KeyType :=
  if byte = 0x80 then .des
  else if byte = 0x88 then .aes
  else if byte = 0xA1 then .rsaPublic
  else if byte = 0xA2 then .rsaPrivateCrt
  else if byte = 0xA3 then .rsaPrivateExponent
  else if byte = 0xB0 then .eccPublic
  else if byte = 0xB1 then .eccPrivate
  else if byte = 0xB2 then .eccParametersRef
  else .other byte

/-- Insert a key under its version, creating the keyset if new. -/
def pushKey (kvn : UInt8) (key : KeyInfo) : List Keyset → ℕ → Except TlvError (List Keyset)
  | [], seen =>
      if seen < MAX_KEYSETS then .ok [⟨kvn, [key]⟩] else .error .tooMany
  | set :: sets, seen =>
      if set.kvn = kvn then do
        let keys ← pushOr MAX_KEYS_PER_SET .tooMany set.keys key
        .ok ({ set with keys } :: sets)
      else do
        let sets ← pushKey kvn key sets (seen + 1)
        .ok (set :: sets)

/-- `chunks_exact(2)`: the pairs, without a trailing odd octet. -/
def pairs : List UInt8 → List (UInt8 × UInt8)
  | a :: b :: rest => (a, b) :: pairs rest
  | _ => []

/-- One `'C0'` entry: identifier first, then version. -/
def keyEntry (info : KeyInformation) (entry : Tlv) : Except TlvError KeyInformation :=
  match entry.value with
  | kid :: kvn :: rest =>
      if rest.head? = some KEY_EXTENDED_MARKER then do
        let keysets ← pushKey kvn ⟨kid, .other KEY_EXTENDED_MARKER, 0⟩ info.keysets 0
        .ok ⟨.extended, keysets⟩
      else do
        let keysets ← (pairs rest).foldlM
          (fun sets pair => pushKey kvn ⟨kid, decodeKeyType pair.1, pair.2⟩ sets 0) info.keysets
        .ok { info with keysets }
  | _ => .ok info

def parseKeyInformation (data : List UInt8) : Except TlvError KeyInformation :=
  if data.isEmpty then .ok ⟨.basic, []⟩
  else do
    let top ← Tlv.parse data
    let entries ← Tlv.parse ((find top TAG_KEY_TEMPLATE).getD data)
    (entries.filter fun t => t.tag == TAG_KEY_ENTRY).foldlM keyEntry ⟨.basic, []⟩

/-! ### Card Capability Information -/

def TAG_CCI : UInt32 := 0x67
def TAG_CCI_CHANNELS : UInt32 := 0xA0
def TAG_CCI_PRIVILEGES : UInt32 := 0xA3

/-- The two sub-tags that are decoded. -/
def decodeCapabilities (raw : List UInt8) (subs : List Tlv) : CardCapabilities where
  maxLogicalChannels := ((find subs TAG_CCI_CHANNELS).bind List.head?).getD 1
  privilegesSupported := ((find subs TAG_CCI_PRIVILEGES).getD []).take MAX_PRIVILEGE_BYTES
  cciRaw := raw

def parseCardCapabilities (data : List UInt8) : Except TlvError CardCapabilities :=
  let raw := data.take GETDATA_RAW_MAX
  if data.isEmpty then .ok (decodeCapabilities raw [])
  else do
    let top ← Tlv.parse data
    let subs ← Tlv.parse ((find top TAG_CCI).getD data)
    .ok (decodeCapabilities raw subs)

/-! ### GET STATUS registry entries -/

def TAG_GP_REGISTRY : UInt32 := 0xE3
def TAG_LIFE_CYCLE : UInt32 := 0x9F70
def TAG_AID : UInt32 := 0x4F
def TAG_PRIVILEGES : UInt32 := 0xC5
def TAG_ASSOC_SD_AID : UInt32 := 0xCC
def TAG_ELF_AID : UInt32 := 0xC4
def TAG_MODULE_AID : UInt32 := 0x84

def decodeLifeCycle (byte : UInt8) : CardLifeCycle :=
  if byte = 0x01 then .opReady
  else if byte = 0x07 then .initialized
  else if byte = 0x0F then .secured
  else if byte = 0x7F then .cardLocked
  else if byte = 0xFF then .terminated
  else .unknown byte

/-- The life cycle of the first registry entry; `none` when it is not there. -/
def parseStatusE3 (data : List UInt8) : Except TlvError (Option CardLifeCycle) :=
  if data.isEmpty then .ok none
  else do
    let top ← Tlv.parse data
    match find top TAG_GP_REGISTRY with
    | none => .ok none
    | some registry => do
        let fields ← Tlv.parse registry
        .ok (((find fields TAG_LIFE_CYCLE).bind List.head?).map decodeLifeCycle)

/-- One decoded registry entry, in the shape all scopes share. -/
structure RegistryEntry where
  /-- Empty if the card omits it. -/
  aid : List UInt8
  /-- 0 if absent. -/
  lifeCycle : UInt8
  /-- All zero if absent. -/
  privileges : Privileges
  associatedSdAid : Option (List UInt8)
  elfAid : Option (List UInt8)
  modules : List (List UInt8)
  deriving DecidableEq, Repr

/-- Pad or truncate to three octets. -/
def privilegesTo3 (value : Option (List UInt8)) : Privileges :=
  let b := value.getD []
  ⟨b.getD 0 0, b.getD 1 0, b.getD 2 0⟩

/-- The fields of one `'E3'`. -/
def decodeEntry (fields : List Tlv) : RegistryEntry where
  aid := (find fields TAG_AID).getD []
  lifeCycle := ((find fields TAG_LIFE_CYCLE).bind List.head?).getD 0
  privileges := privilegesTo3 (find fields TAG_PRIVILEGES)
  associatedSdAid := find fields TAG_ASSOC_SD_AID
  elfAid := find fields TAG_ELF_AID
  -- more modules than the model holds are dropped
  modules := ((fields.filter fun t => t.tag == TAG_MODULE_AID).map Tlv.value).take
    MAX_MODULES_PER_ELF

/-- The entries, up to `room` of them: one that does not fit is decoded before
    the loop stops. -/
def decodeEntries : ℕ → List Tlv → Except TlvError (List RegistryEntry)
  | _, [] => .ok []
  | 0, e3 :: _ => do
      let _ ← Tlv.parse e3.value
      .ok []
  | room + 1, e3 :: rest => do
      let fields ← Tlv.parse e3.value
      let entries ← decodeEntries room rest
      .ok (decodeEntry fields :: entries)

/-- The registry entries of one GET STATUS response. -/
def parseStatusRegistry (data : List UInt8) : Except TlvError (List RegistryEntry) :=
  if data.isEmpty then .ok []
  else do
    let top ← Tlv.parse data
    decodeEntries MAX_REGISTRY_ENTRIES (top.filter fun t => t.tag == TAG_GP_REGISTRY)

end Response

end Scll

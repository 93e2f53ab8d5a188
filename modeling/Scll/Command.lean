import Scll.Backend.State
import Scll.Model

/-! # The command builders

    Each builder writes the plaintext of a short C-APDU; the secure channel is
    applied later. All of them go through `build`, which lays out the ISO short
    cases, and `pushLv`, which writes a field behind its one-octet length. A
    builder is total: what does not fit is `overflow`.
-/

namespace Scll

/-- A built short C-APDU plaintext. -/
abbrev Capdu := List UInt8

namespace Capdu

/-! ### Reading a command back -/

def ins (apdu : Capdu) : UInt8 := apdu.getD 1 0
def p1 (apdu : Capdu) : UInt8 := apdu.getD 2 0
def p2 (apdu : Capdu) : UInt8 := apdu.getD 3 0

/-- The data field, by `Lc`. -/
def data (apdu : Capdu) : List UInt8 :=
  match apdu.drop 4 with
  | [] => []
  | lc :: rest => rest.take lc.toNat

def INS_PUT_KEY : UInt8 := 0xD8
def INS_DELETE : UInt8 := 0xE4
def INS_INSTALL : UInt8 := 0xE6
def INS_LOAD : UInt8 := 0xE8
def INS_SET_STATUS : UInt8 := 0xF0
def INS_GET_STATUS : UInt8 := 0xF2

/-- The commands that change what is on the card. -/
def stateChanging (apdu : Capdu) : Bool :=
  apdu.ins ∈ [INS_PUT_KEY, INS_DELETE, INS_INSTALL, INS_LOAD, INS_SET_STATUS]

/-! ### The framer -/

/-- Append to a command. -/
def push (out : Capdu) (src : List UInt8) : Except BuildError Capdu :=
  extend CAPDU_MAX .overflow out src

/-- `u8::try_from` on a length. -/
def lenByte (bytes : List UInt8) : Except BuildError UInt8 :=
  if bytes.length ≤ 255 then .ok (UInt8.ofNat bytes.length) else .error .overflow

/-- Append a field behind its one-octet length. -/
def pushLv (out : Capdu) (bytes : List UInt8) : Except BuildError Capdu := do
  let len ← lenByte bytes
  let out ← push out [len]
  push out bytes

/-- `Lc` and the data, when there is any. -/
def pushData (apdu : Capdu) (data : List UInt8) : Except BuildError Capdu :=
  if data.isEmpty then .ok apdu else pushLv apdu data

/-- Header, optional `Lc` and data, optional `Le`. -/
def build (cla ins p1 p2 : UInt8) (data : List UInt8) (le : Bool) : Except BuildError Capdu := do
  let apdu ← push [] [cla, ins, p1, p2]
  let apdu ← pushData apdu data
  if le then push apdu [0x00] else .ok apdu

/-! ### The commands -/

/-- SELECT by AID; empty selects the default application. -/
def selectByAid (aid : List UInt8) : Except BuildError Capdu := build 0x00 0xA4 0x04 0x00 aid true

/-- GET DATA for a two-octet tag. -/
def getData (tag : UInt16) : Except BuildError Capdu :=
  build 0x80 0xCA (tag >>> 8).toUInt8 tag.toUInt8 [] true

/-- First or all occurrences, TLV response. -/
def P2_FIRST_TLV : UInt8 := 0x02
/-- Next occurrence, after "more data". -/
def P2_NEXT_TLV : UInt8 := 0x03

/-- GET STATUS over a scope; an empty qualifier matches all. -/
def getStatusP2 (p1 p2 : UInt8) (aidQualifier : List UInt8) : Except BuildError Capdu := do
  let data ← push [] [0x4F]
  let data ← pushLv data aidQualifier
  build 0x80 INS_GET_STATUS p1 p2 data true

/-- SET STATUS at card scope; the one builder without `Le`. -/
def setCardStatus (p2State : UInt8) (isdAid : List UInt8) : Except BuildError Capdu :=
  build 0x84 INS_SET_STATUS 0x80 p2State isdAid false

/-- DELETE [object]. -/
def deleteObject (aid : List UInt8) (cascade : Bool) : Except BuildError Capdu := do
  let data ← push [] [0x4F]
  let data ← pushLv data aid
  build 0x84 INS_DELETE 0x00 (if cascade then 0x80 else 0x00) data true

/-- An optional one-octet reference of DELETE [key]. -/
def pushKeyRef (data : Capdu) (tag : UInt8) (ref : Option UInt8) : Except BuildError Capdu :=
  match ref with
  | some b => push data [tag, 0x01, b]
  | none => .ok data

/-- DELETE [key]: at least one of identifier and version. -/
def deleteKey (kid kvn : Option UInt8) : Except BuildError Capdu :=
  if kid.isNone && kvn.isNone then .error .emptyKeyScope
  else do
    let data ← pushKeyRef [] 0xD0 kid
    let data ← pushKeyRef data 0xD2 kvn
    build 0x84 INS_DELETE 0x00 0x00 data true

/-- Encoding length of the privileges field. -/
inductive PrivLen where
  /-- Always three octets. -/
  | canonical
  /-- One octet when the other two are zero. -/
  | jcop1Byte
  deriving DecidableEq, Repr

/-- The privileges field at the length selected; an extended bit forces three octets. -/
def pushPrivileges (data : Capdu) (privileges : Privileges) (enc : PrivLen) :
    Except BuildError Capdu :=
  let hasExtended := privileges.byte1 ≠ 0 ∨ privileges.byte2 ≠ 0
  let len := if hasExtended then 3 else
    match enc with
    | .canonical => 3
    | .jcop1Byte => 1
  pushLv data (privileges.toList.take len)

/-- INSTALL [for load]; no load parameters and no load token. -/
def installForLoad (packageAid targetSdAid lfdbHash : List UInt8) : Except BuildError Capdu := do
  let data ← pushLv [] packageAid
  let data ← pushLv data targetSdAid
  let data ← pushLv data lfdbHash
  let data ← pushLv data []
  let data ← pushLv data []
  build 0x84 INS_INSTALL 0x02 0x00 data true

/-- INSTALL [for install and make selectable]; no install token. -/
def installForInstallMakeSelectable (elfAid moduleAid instanceAid : List UInt8)
    (privileges : Privileges) (privLen : PrivLen) (installParams : List UInt8) :
    Except BuildError Capdu := do
  let data ← pushLv [] elfAid
  let data ← pushLv data moduleAid
  let data ← pushLv data instanceAid
  let data ← pushPrivileges data privileges privLen
  let data ← pushLv data installParams
  let data ← pushLv data []
  build 0x84 INS_INSTALL 0x0C 0x00 data true

/-- One LOAD block; `last` marks the final one in `P1`. -/
def loadBlock (blockNo : UInt8) (last : Bool) (chunk : List UInt8) : Except BuildError Capdu :=
  build 0x84 INS_LOAD (if last then 0x80 else 0x00) blockNo chunk true

/-- Key type of SCP03 keys, whose blocks carry an inner length. -/
def KEY_TYPE_AES : UInt8 := 0x88
def KEY_TYPE_3DES : UInt8 := 0x80

/-- One encrypted key block with its key check value. -/
structure KeyBlock where
  keyType : UInt8
  encryptedKey : List UInt8
  kcv : List UInt8
  /-- The plaintext key length, for the AES inner length octet. -/
  clearKeyLen : UInt8

/-- `checked_add(1)` on a length octet. -/
def succLen (len : UInt8) : Except BuildError UInt8 :=
  if len = 0xFF then .error .overflow else .ok (len + 1)

/-- Type and length of a key block; an AES block counts its inner length octet. -/
def keyBlockHead (block : KeyBlock) : Except BuildError (List UInt8) := do
  let encLen ← lenByte block.encryptedKey
  if block.keyType = KEY_TYPE_AES then
    let blockLen ← succLen encLen
    .ok [block.keyType, blockLen, block.clearKeyLen]
  else .ok [block.keyType, encLen]

def pushKeyBlock (data : Capdu) (block : KeyBlock) : Except BuildError Capdu := do
  let head ← keyBlockHead block
  let data ← push data head
  let data ← push data block.encryptedKey
  let data ← push data [0x03]
  push data block.kcv

/-- PUT KEY for a three-key set. -/
def putKey (p1 newKvn : UInt8) (enc mac dek : KeyBlock) : Except BuildError Capdu := do
  let data ← push [] [newKvn]
  let data ← pushKeyBlock data enc
  let data ← pushKeyBlock data mac
  let data ← pushKeyBlock data dek
  build 0x84 INS_PUT_KEY p1 0x81 data true

/-- End the R-MAC session and return the accumulated R-MAC. -/
def END_P2_END_AND_RETURN : UInt8 := 0x03
/-- Return the current R-MAC without ending the session. -/
def END_P2_RETURN_ONLY : UInt8 := 0x01

/-- END R-MAC SESSION: a header and `Le`. -/
def endRmacSession (endSession : Bool) : Capdu :=
  [0x80, 0x78, 0x00, if endSession then END_P2_END_AND_RETURN else END_P2_RETURN_ONLY, 0x00]

/-! ### What the framer writes -/

theorem push_eq_ok {out src apdu : Capdu} :
    push out src = .ok apdu ↔ apdu = out ++ src ∧ apdu.length ≤ CAPDU_MAX := extend_eq_ok

theorem lenByte_eq_ok {bytes : List UInt8} {len : UInt8} :
    lenByte bytes = .ok len ↔ bytes.length ≤ 255 ∧ len = UInt8.ofNat bytes.length := by
  unfold lenByte
  split
  · next h =>
    constructor
    · intro heq
      exact ⟨h, (Except.ok.inj heq).symm⟩
    · intro ⟨_, heq⟩
      rw [heq]
  · next h =>
    constructor
    · intro heq
      cases heq
    · intro ⟨hle, _⟩
      exact absurd hle h

theorem pushLv_eq_ok {out bytes apdu : Capdu} :
    pushLv out bytes = .ok apdu ↔
      apdu = out ++ UInt8.ofNat bytes.length :: bytes ∧ bytes.length ≤ 255 ∧
        apdu.length ≤ CAPDU_MAX := by
  unfold pushLv
  constructor
  · intro h
    obtain ⟨len, hlen, h⟩ := bind_eq_ok.mp h
    obtain ⟨hle, rfl⟩ := lenByte_eq_ok.mp hlen
    obtain ⟨out', hout', h⟩ := bind_eq_ok.mp h
    obtain ⟨rfl, -⟩ := push_eq_ok.mp hout'
    obtain ⟨rfl, hcap⟩ := push_eq_ok.mp h
    exact ⟨by simp, hle, hcap⟩
  · intro ⟨happ, hle, hcap⟩
    have hlen : apdu.length = out.length + (bytes.length + 1) := by
      rw [happ]
      simp
    refine bind_eq_ok.mpr ⟨_, lenByte_eq_ok.mpr ⟨hle, rfl⟩, bind_eq_ok.mpr ⟨_, push_eq_ok.mpr
      ⟨rfl, ?_⟩, push_eq_ok.mpr ⟨by simp [happ], hcap⟩⟩⟩
    rw [List.length_append, List.length_singleton]
    omega

/-- The octets after a header. -/
def tailOctets (data : List UInt8) (le : Bool) : List UInt8 :=
  (if data.isEmpty then [] else UInt8.ofNat data.length :: data) ++ (if le then [0x00] else [])

/-- The framer refuses exactly what `Lc` cannot say. -/
theorem build_eq_ok {cla ins p1 p2 : UInt8} {data apdu : List UInt8} {le : Bool} :
    build cla ins p1 p2 data le = .ok apdu ↔
      data.length ≤ 255 ∧ apdu = cla :: ins :: p1 :: p2 :: tailOctets data le := by
  have hle : ∀ pre out : Capdu, pre.length ≤ 260 →
      ((if le then push pre [0x00] else .ok pre) = .ok out ↔
        out = pre ++ (if le then [0x00] else [])) := by
    intro pre out hpre
    cases le with
    | false =>
      simp only [Bool.false_eq_true, if_false, List.append_nil]
      exact ⟨fun h => (Except.ok.inj h).symm, fun h => by rw [h]⟩
    | true =>
      simp only [if_true]
      refine ⟨fun h => (push_eq_ok.mp h).1, fun h => push_eq_ok.mpr ⟨h, ?_⟩⟩
      rw [h, List.length_append, List.length_singleton]
      unfold CAPDU_MAX
      omega
  have hhead : push [] [cla, ins, p1, p2] = .ok [cla, ins, p1, p2] := rfl
  unfold build tailOctets
  rw [hhead, ok_bind]
  -- without data the source writes no `Lc`
  cases hdata : data.isEmpty with
  | true =>
    obtain rfl := List.isEmpty_iff.mp hdata
    rw [show pushData [cla, ins, p1, p2] [] = .ok [cla, ins, p1, p2] from rfl, ok_bind,
      hle _ _ (by simp)]
    simp
  | false =>
    have hpush : pushData [cla, ins, p1, p2] data = pushLv [cla, ins, p1, p2] data := by
      unfold pushData
      rw [hdata]
      rfl
    rw [hpush]
    constructor
    · intro h
      obtain ⟨mid, hmid, h⟩ := bind_eq_ok.mp h
      obtain ⟨hmid, hlen, -⟩ := pushLv_eq_ok.mp hmid
      have hbound : mid.length ≤ 260 := by
        rw [hmid]
        simp
        omega
      refine ⟨hlen, ?_⟩
      rw [(hle mid apdu hbound).mp h, hmid]
      simp
    · intro h
      obtain ⟨hlen, happ⟩ := h
      have hbound : ([cla, ins, p1, p2] ++ UInt8.ofNat data.length :: data).length ≤ 260 := by
        simp
        omega
      refine bind_eq_ok.mpr ⟨_, pushLv_eq_ok.mpr ⟨rfl, hlen, ?_⟩, (hle _ _ hbound).mpr ?_⟩
      · unfold CAPDU_MAX
        omega
      · rw [happ]
        simp

theorem ins_of_build {cla ins p1 p2 : UInt8} {data apdu : List UInt8} {le : Bool}
    (h : build cla ins p1 p2 data le = .ok apdu) : Capdu.ins apdu = ins := by
  rw [(build_eq_ok.mp h).2]
  rfl

theorem data_of_build {cla ins p1 p2 : UInt8} {data apdu : List UInt8} {le : Bool}
    (h : build cla ins p1 p2 data le = .ok apdu) : Capdu.data apdu = data := by
  obtain ⟨hlen, rfl⟩ := build_eq_ok.mp h
  unfold Capdu.data
  rw [show (cla :: ins :: p1 :: p2 :: tailOctets data le).drop 4 = tailOctets data le from rfl]
  unfold tailOctets
  cases data with
  | nil =>
    cases le with
    | true => rfl
    | false => rfl
  | cons b bs =>
    have hlc : (UInt8.ofNat (b :: bs).length).toNat = (b :: bs).length := by
      rw [UInt8.toNat_ofNat']
      omega
    simp only [List.isEmpty_cons, Bool.false_eq_true, if_false, List.cons_append]
    rw [hlc, ← List.cons_append, List.take_left]

end Capdu

end Scll

import Scll.Card.Application
import Scll.PutKeyPayload

/-! # A Security Domain and its keysets

    The keysets are a table under key versions. PUT KEY adds one, decrypted
    under the DEK of the channel and checked against its key check values;
    DELETE takes a whole version out; INITIALIZE UPDATE is answered with the
    keys of the version it names. Nothing here is translated from the host.
-/

namespace Scll

open BlockMode PutKey Workflow

/-! ### Keysets -/

/-- Three keys of one kind. -/
structure SdKeyset where
  enc : KeySlot
  mac : KeySlot
  dek : KeySlot
  kindMac : mac.kind = enc.kind
  kindDek : dek.kind = enc.kind

/-- The keysets of a Security Domain, by key version. -/
abbrev KeyTable := UInt8 → Option SdKeyset

theorem KeySlot.isAesLength {key : KeySlot} (h : Suits .scp03 key.kind) :
    IsAesLength key.bytes.length := by
  obtain ⟨kind, bytes, fits⟩ := key
  cases kind with
  | aes128 => exact .inl fits
  | aes192 => exact .inr (.inl fits)
  | aes256 => exact .inr (.inr fits)
  | tripleDesDouble => exact absurd rfl h

theorem KeySlot.length_tdes {key : KeySlot} (h : Suits .scp02 key.kind) :
    key.bytes.length = 16 := by
  rw [key.fits, show key.kind = .tripleDesDouble from h]
  rfl

def KeySlot.aesKey (key : KeySlot) (h : Suits .scp03 key.kind) : AesKey :=
  ⟨key.bytes, KeySlot.isAesLength h⟩

def KeySlot.tdesKey (key : KeySlot) (h : Suits .scp02 key.kind) : TdesKey :=
  ⟨key.bytes, KeySlot.length_tdes h⟩

namespace SdKeyset

variable (set : SdKeyset)

theorem suits_mac {protocol : ScpProtocol} (h : Suits protocol set.enc.kind) :
    Suits protocol set.mac.kind := set.kindMac ▸ h

theorem suits_dek {protocol : ScpProtocol} (h : Suits protocol set.enc.kind) :
    Suits protocol set.dek.kind := set.kindDek ▸ h

theorem sameLength (h : Suits .scp03 set.enc.kind) :
    (set.enc.aesKey h).val.length = (set.mac.aesKey (set.suits_mac h)).val.length := by
  show set.enc.bytes.length = set.mac.bytes.length
  rw [set.enc.fits, set.mac.fits, set.kindMac]

instance (protocol : ScpProtocol) (kind : KeyKind) : Decidable (Suits protocol kind) :=
  match protocol with
  | .scp03 => inferInstanceAs (Decidable (kind ≠ .tripleDesDouble))
  | .scp02 => inferInstanceAs (Decidable (kind = .tripleDesDouble))

end SdKeyset

namespace HonestDomain

variable {P : Primitives}

/-- The Security Domain under a keyset; its keys must suit the protocol. -/
def withKeyset (kvn : UInt8) (set : SdKeyset) : HonestDomain P → Option (HonestDomain P)
  | .scp03 sd =>
      if h : Suits .scp03 set.enc.kind then
        some (.scp03 { sd with
          kvn := kvn
          enc := set.enc.aesKey h
          mac := set.mac.aesKey (set.suits_mac h)
          sameLength := set.sameLength h })
      else none
  | .scp02 sd =>
      if h : Suits .scp02 set.enc.kind then
        some (.scp02 { sd with
          kvn := kvn
          enc := set.enc.tdesKey h
          mac := set.mac.tdesKey (set.suits_mac h)
          dek := set.dek.tdesKey (set.suits_dek h) })
      else none

def kvn : HonestDomain P → UInt8
  | .scp03 sd => sd.kvn
  | .scp02 sd => sd.kvn

end HonestDomain

/-! ### Key blocks -/

/-- A key of a kind that the protocol has for its length. -/
def keyOfLength (protocol : ScpProtocol) (bytes : List UInt8) : Option KeySlot :=
  match protocol with
  | .scp03 =>
      if h : bytes.length = 16 then some ⟨.aes128, bytes, h⟩
      else if h : bytes.length = 24 then some ⟨.aes192, bytes, h⟩
      else if h : bytes.length = 32 then some ⟨.aes256, bytes, h⟩
      else none
  | .scp02 => if h : bytes.length = 16 then some ⟨.tripleDesDouble, bytes, h⟩ else none

theorem keyOfLength_bytes {protocol : ScpProtocol} {key : KeySlot}
    (h : Suits protocol key.kind) : keyOfLength protocol key.bytes = some key := by
  obtain ⟨kind, bytes, fits⟩ := key
  cases protocol with
  | scp03 =>
    unfold keyOfLength
    cases kind with
    | aes128 => exact dif_pos fits
    | aes192 =>
      have hlen : bytes.length = 24 := fits
      dsimp only
      rw [dif_neg (by omega)]
      exact dif_pos fits
    | aes256 =>
      have hlen : bytes.length = 32 := fits
      dsimp only
      rw [dif_neg (by omega), dif_neg (by omega)]
      exact dif_pos fits
    | tripleDesDouble => exact absurd rfl h
  | scp02 =>
    obtain rfl : kind = .tripleDesDouble := h
    exact dif_pos fits

section blocks

variable (P : Primitives)

/-- The key in clear: an AES block says its length, a 3DES key has two halves. -/
def clearKey (protocol : ScpProtocol) (dek : List UInt8) (b : CardKeyBlock) :
    Option (List UInt8) :=
  match protocol with
  | .scp03 =>
      match b.value with
      | [] => none
      | clearLen :: cipher =>
          if b.keyType = 0x88 ∧ 16 ∣ cipher.length then
            some ((decryptOctets (P.aes dek) (Block.zero 16) cipher).take clearLen.toNat)
          else none
  | .scp02 =>
      if b.keyType = 0x80 ∧ 8 ∣ b.value.length then
        some ((ecbEncryptOctets (P.tdesEde2 dek).symm b.value).take 16)
      else none

/-- The key of a block, when its check value is right. -/
def openKeyBlock (protocol : ScpProtocol) (dek : List UInt8) (b : CardKeyBlock) :
    Option KeySlot := do
  let bytes ← clearKey P protocol dek b
  let key ← keyOfLength protocol bytes
  if b.kcv = kcvOf P key then some key else none

/-- The keyset of three blocks. -/
def openKeyset (protocol : ScpProtocol) (dek : List UInt8) (enc mac dekBlock : CardKeyBlock) :
    Option SdKeyset := do
  let encKey ← openKeyBlock P protocol dek enc
  let macKey ← openKeyBlock P protocol dek mac
  let dekKey ← openKeyBlock P protocol dek dekBlock
  if h : macKey.kind = encKey.kind ∧ dekKey.kind = encKey.kind then
    some ⟨encKey, macKey, dekKey, h.1, h.2⟩
  else none

variable {P}

/-- A block that carries a key is opened to it. -/
theorem openKeyBlock_of_carries {protocol : ScpProtocol} {dek : List UInt8} {key : KeySlot}
    {b : CardKeyBlock} (hsuits : Suits protocol key.kind) (h : Carries P protocol dek key b) :
    openKeyBlock P protocol dek b = some key := by
  have hclear : clearKey P protocol dek b = some key.bytes ∧ b.kcv = kcvOf P key := by
    cases protocol with
    | scp03 =>
      obtain ⟨htype, hkcv, clearLen, cipher, hvalue, -, hdvd, hopened⟩ := h
      refine ⟨?_, hkcv⟩
      unfold clearKey
      rw [hvalue]
      dsimp only
      rw [if_pos ⟨htype, hdvd⟩, hopened]
    | scp02 =>
      obtain ⟨htype, hkcv, hdvd, hopened⟩ := h
      refine ⟨?_, hkcv⟩
      rw [KeySlot.length_tdes hsuits] at hopened
      unfold clearKey
      dsimp only
      rw [if_pos ⟨htype, hdvd⟩, hopened]
  unfold openKeyBlock
  rw [hclear.1]
  show (keyOfLength protocol key.bytes).bind _ = _
  rw [keyOfLength_bytes hsuits]
  exact if_pos hclear.2

theorem openKeyset_of_carries {protocol : ScpProtocol} {dek : List UInt8} {set : SdKeyset}
    {enc mac dekBlock : CardKeyBlock} (hsuits : Suits protocol set.enc.kind)
    (henc : Carries P protocol dek set.enc enc) (hmac : Carries P protocol dek set.mac mac)
    (hdek : Carries P protocol dek set.dek dekBlock) :
    openKeyset P protocol dek enc mac dekBlock = some set := by
  unfold openKeyset
  rw [openKeyBlock_of_carries hsuits henc, openKeyBlock_of_carries (set.suits_mac hsuits) hmac,
    openKeyBlock_of_carries (set.suits_dek hsuits) hdek]
  exact dif_pos ⟨set.kindMac, set.kindDek⟩

end blocks

/-! ### The application -/

/-- A Security Domain whose keys are in a table. -/
structure KeyRing (P : Primitives) where
  /-- The Security Domain, but for its keys and their version. -/
  blank : HonestDomain P
  sets : KeyTable
  /-- The version that answers where none is named. -/
  preferred : UInt8
  /-- What the key blocks of the open channel are encrypted under. -/
  dek : List UInt8

namespace KeyRing

variable {P : Primitives}

def setKeys (sets : KeyTable) (ring : KeyRing P) : KeyRing P := { ring with sets := sets }

def SW_EXISTS : UInt16 := 0x6A80
def SW_WRONG_P1P2 : UInt16 := 0x6A86

/-- PUT KEY in the form that adds a keyset. -/
def addKeyset (cmd : Command) (ring : KeyRing P) : AppReply × KeyRing P :=
  if cmd.p1 ≠ 0x00 ∨ cmd.p2 ≠ 0x81 then (.status SW_WRONG_P1P2, ring)
  else
    match readPutKey cmd.data with
    | some (kvn, [enc, mac, dek]) =>
        match openKeyset P ring.blank.protocol ring.dek enc mac dek with
        | some set =>
            if kvn = 0x00 ∨ (ring.sets kvn).isSome then (.status SW_EXISTS, ring)
            else (.ok (kvn :: (enc.kcv ++ mac.kcv ++ dek.kcv)),
              ring.setKeys (Function.update ring.sets kvn (some set)))
        | none => (.status SW_WRONG_DATA, ring)
    | _ => (.status SW_WRONG_DATA, ring)

/-- DELETE of a key version, by its `D2` reference. -/
def deleteKeyset (data : List UInt8) (ring : KeyRing P) : AppReply × KeyRing P :=
  match data with
  | [0xD2, 0x01, kvn] =>
      if (ring.sets kvn).isSome then
        (.status SW_OK, ring.setKeys (Function.update ring.sets kvn none))
      else (.status SW_REF_NOT_FOUND, ring)
  | _ => (.status SW_WRONG_DATA, ring)

def perform (cmd : Command) (ring : KeyRing P) : AppReply × KeyRing P :=
  if cmd.ins = 0xD8 then ring.addKeyset cmd
  else if cmd.ins = 0xE4 then ring.deleteKeyset cmd.data
  else (.status HonestCard.SW_INS_NOT_SUPPORTED, ring)

/-- The Security Domain under one of its keysets. -/
def domain (kvn : UInt8) (ring : KeyRing P) : Option (HonestDomain P) := do
  let version := if kvn = 0x00 then ring.preferred else kvn
  let set ← ring.sets version
  ring.blank.withKeyset version set

/-- Over SCP03 the key blocks are under the static DEK, over SCP02 under the session's. -/
def channelDek (sd : HonestDomain P) (sets : KeyTable) : List UInt8 :=
  match sd with
  | .scp03 sd => ((sets sd.kvn).map fun set => set.dek.bytes).getD []
  | .scp02 sd => sd.sDek.val

def opened (sd : HonestDomain P) (ring : KeyRing P) : KeyRing P :=
  { ring with dek := channelDek sd ring.sets }

instance : Issuer P (KeyRing P) where
  perform := perform
  domain := domain
  opened := opened

/-! ### What the two commands do -/

variable {ring : KeyRing P}

theorem perform_putKey {data : List UInt8} {kvn : UInt8} {enc mac dek : CardKeyBlock}
    {set : SdKeyset} (hread : readPutKey data = some (kvn, [enc, mac, dek]))
    (hopened : openKeyset P ring.blank.protocol ring.dek enc mac dek = some set)
    (hnonzero : kvn ≠ 0x00) (hfresh : ring.sets kvn = none) :
    ring.perform ⟨0xD8, 0x00, 0x81, data⟩ =
      (.ok (kvn :: (enc.kcv ++ mac.kcv ++ dek.kcv)),
        ring.setKeys (Function.update ring.sets kvn (some set))) := by
  have hadd : ¬((0x00 : UInt8) ≠ 0x00 ∨ (0x81 : UInt8) ≠ 0x81) := by decide
  have hnew : ¬(kvn = 0x00 ∨ (ring.sets kvn).isSome = true) := by
    rw [hfresh]
    simp [hnonzero]
  unfold perform addKeyset
  dsimp only
  rw [if_pos rfl, if_neg hadd, hread]
  dsimp only
  rw [hopened]
  exact if_neg hnew

theorem perform_deleteKey {kvn : UInt8} {set : SdKeyset} (hset : ring.sets kvn = some set) :
    ring.perform ⟨0xE4, 0x00, 0x00, [0xD2, 0x01, kvn]⟩ =
      (.status SW_OK, ring.setKeys (Function.update ring.sets kvn none)) := by
  have hpresent : (ring.sets kvn).isSome = true := by
    rw [hset]
    rfl
  unfold perform deleteKeyset
  dsimp only
  rw [if_neg (by decide), if_pos rfl]
  exact if_pos hpresent

end KeyRing

end Scll

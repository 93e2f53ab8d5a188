import Scll.Framework.LengthPrefix
import Scll.ChannelRoom
import Scll.Refusals
import Scll.TestSupport
import Scll.Workflow.Keys

/-! # What PUT KEY carries

    The new keys cross the channel encrypted under a DEK: the static one over
    SCP03, in CBC with a zero IV, and the session's own over SCP02, in ECB. An
    AES-192 key is no whole number of blocks, so it is padded before encryption
    and its block says the length to cut back to. A card that takes the key
    blocks off the data field and decrypts them holds the keys of the handles,
    in their order, and there is always room for the three.
-/

namespace Scll

namespace PutKey

open Octets BlockMode LengthPrefix PrefixCode Workflow

/-! ### The reading of a card -/

/-- A key block: the value and the key check value are behind their lengths. -/
structure CardKeyBlock where
  keyType : UInt8
  value : List UInt8
  kcv : List UInt8

def CardKeyBlock.octets (b : CardKeyBlock) : List UInt8 :=
  b.keyType :: (lvField b.value ++ lvField b.kcv)

/-- The data field: the new key version and the key blocks. -/
def putKeyData (newKvn : UInt8) (blocks : List CardKeyBlock) : List UInt8 :=
  newKvn :: blocks.flatMap CardKeyBlock.octets

/-- Take a key block off the front. -/
def takeKeyBlock : List UInt8 → Option (CardKeyBlock × List UInt8)
  | [] => none
  | keyType :: rest => do
      let (value, rest) ← takeField rest
      let (kcv, rest) ← takeField rest
      some (⟨keyType, value, kcv⟩, rest)

/-- The new key version and three key blocks, with nothing after them. -/
def readPutKey : List UInt8 → Option (UInt8 × List CardKeyBlock)
  | [] => none
  | newKvn :: rest =>
      match takeItems takeKeyBlock 3 rest with
      | some (blocks, []) => some (newKvn, blocks)
      | _ => none

theorem takeKeyBlock_octets {b : CardKeyBlock} (hvalue : b.value.length ≤ 255)
    (hkcv : b.kcv.length ≤ 255) (rest : List UInt8) :
    takeKeyBlock (b.octets ++ rest) = some (b, rest) := by
  have hsplit : b.octets ++ rest =
      b.keyType :: (lvField b.value ++ (lvField b.kcv ++ rest)) := by
    rw [CardKeyBlock.octets, List.cons_append, List.append_assoc]
  have hrest : takeField (lvField b.kcv ++ rest) = some (b.kcv, rest) := takeField_lvField hkcv
  rw [hsplit, takeKeyBlock, takeField_lvField hvalue]
  show (takeField (lvField b.kcv ++ rest)).bind _ = _
  rw [hrest]
  rfl

theorem readPutKey_putKeyData (newKvn : UInt8) {blocks : List CardKeyBlock}
    (hcount : blocks.length = 3)
    (h : ∀ b ∈ blocks, b.value.length ≤ 255 ∧ b.kcv.length ≤ 255) :
    readPutKey (putKeyData newKvn blocks) = some (newKvn, blocks) := by
  have htake : takeItems takeKeyBlock blocks.length
      (blocks.flatMap CardKeyBlock.octets ++ []) = some (blocks, []) :=
    takeItems_flatMap fun b hb => takeKeyBlock_octets (h b hb).1 (h b hb).2
  rw [hcount, List.append_nil] at htake
  rw [putKeyData, readPutKey, htake]

/-! ### The builder -/

/-- What the card takes for a block of the builder: the clear length is inside an
    AES value. -/
def cardBlock (block : Capdu.KeyBlock) : CardKeyBlock where
  keyType := block.keyType
  value :=
    if block.keyType = Capdu.KEY_TYPE_AES then block.clearKeyLen :: block.encryptedKey
    else block.encryptedKey
  kcv := block.kcv

/-- A key of at most 32 octets, encrypted, and a check value of 3. -/
def IsShort (block : Capdu.KeyBlock) : Prop :=
  block.encryptedKey.length ≤ 32 ∧ block.kcv.length = KCV_LEN

variable {block : Capdu.KeyBlock}

theorem length_value_le (h : IsShort block) : (cardBlock block).value.length ≤ 33 := by
  have hkey := h.1
  unfold cardBlock
  dsimp only
  split
  · simp only [List.length_cons]
    omega
  · omega

/-- A key block is at most 39 octets. -/
theorem length_octets_le (h : IsShort block) : (cardBlock block).octets.length ≤ 39 := by
  have hvalue := length_value_le h
  have hkcv : (cardBlock block).kcv.length = 3 := h.2
  simp only [CardKeyBlock.octets, lvField, List.length_cons, List.length_append]
  omega

/-- The two checked length octets of a short block do not overflow. -/
theorem keyBlockHead_eq (h : IsShort block) :
    ∃ head, Capdu.keyBlockHead block = .ok head ∧
      head ++ block.encryptedKey = block.keyType :: lvField (cardBlock block).value := by
  have hkey := h.1
  have hlen : Capdu.lenByte block.encryptedKey =
      .ok (UInt8.ofNat block.encryptedKey.length) := Capdu.lenByte_eq_ok.mpr ⟨by omega, rfl⟩
  have hnat : (UInt8.ofNat block.encryptedKey.length).toNat = block.encryptedKey.length := by
    rw [UInt8.toNat_ofNat']
    omega
  unfold Capdu.keyBlockHead cardBlock
  rw [hlen, ok_bind]
  dsimp only
  split
  · -- an AES block counts its inner length octet as well
    have hne : UInt8.ofNat block.encryptedKey.length ≠ 0xFF := by
      intro hff
      have hmax : (0xFF : UInt8).toNat = 255 := rfl
      rw [hff, hmax] at hnat
      omega
    have hsucc : Capdu.succLen (UInt8.ofNat block.encryptedKey.length) =
        .ok (UInt8.ofNat (block.encryptedKey.length + 1)) := by
      rw [Capdu.succLen, if_neg hne, UInt8.ofNat_add]
      rfl
    rw [hsucc, ok_bind]
    exact ⟨_, rfl, rfl⟩
  · exact ⟨_, rfl, rfl⟩

theorem pushKeyBlock_eq (data : Capdu) (h : IsShort block) (hdata : data.length ≤ 200) :
    Capdu.pushKeyBlock data block = .ok (data ++ (cardBlock block).octets) := by
  obtain ⟨head, hhead, hvalue⟩ := keyBlockHead_eq h
  have hkcv : block.kcv.length = 3 := h.2
  have hlv : lvField (cardBlock block).kcv = [0x03] ++ block.kcv := by
    unfold cardBlock lvField
    rw [hkcv]
    rfl
  have hoctets : (cardBlock block).octets =
      head ++ (block.encryptedKey ++ ([0x03] ++ block.kcv)) :=
    calc (cardBlock block).octets
        = (block.keyType :: lvField (cardBlock block).value) ++ lvField (cardBlock block).kcv := rfl
      _ = (head ++ block.encryptedKey) ++ ([0x03] ++ block.kcv) := by rw [hvalue, hlv]
      _ = head ++ (block.encryptedKey ++ ([0x03] ++ block.kcv)) := List.append_assoc ..
  have hlen := length_octets_le h
  rw [hoctets] at hlen
  simp only [List.length_append, List.length_singleton] at hlen
  unfold Capdu.pushKeyBlock
  rw [hhead, ok_bind]
  refine bind_eq_ok.mpr ⟨_, Capdu.push_eq_ok.mpr ⟨rfl, ?_⟩,
    bind_eq_ok.mpr ⟨_, Capdu.push_eq_ok.mpr ⟨rfl, ?_⟩,
      bind_eq_ok.mpr ⟨_, Capdu.push_eq_ok.mpr ⟨rfl, ?_⟩, Capdu.push_eq_ok.mpr ⟨?_, ?_⟩⟩⟩⟩
  all_goals simp only [hoctets, List.length_append, List.length_singleton, CAPDU_MAX,
    List.append_assoc]
  all_goals omega

/-- Three short blocks and the new version: there is always room for them. -/
theorem length_putKeyData_le (newKvn : UInt8) {enc mac dek : Capdu.KeyBlock} (henc : IsShort enc)
    (hmac : IsShort mac) (hdek : IsShort dek) :
    (putKeyData newKvn [cardBlock enc, cardBlock mac, cardBlock dek]).length ≤ 118 := by
  have henc_len := length_octets_le henc
  have hmac_len := length_octets_le hmac
  have hdek_len := length_octets_le hdek
  simp only [putKeyData, List.flatMap_cons, List.flatMap_nil, List.length_cons,
    List.length_append, List.length_nil]
  omega

theorem putKey_eq (p1 newKvn : UInt8) {enc mac dek : Capdu.KeyBlock} (henc : IsShort enc)
    (hmac : IsShort mac) (hdek : IsShort dek) :
    Capdu.putKey p1 newKvn enc mac dek = Capdu.build 0x84 Capdu.INS_PUT_KEY p1 0x81
      (putKeyData newKvn [cardBlock enc, cardBlock mac, cardBlock dek]) true := by
  have henc_len := length_octets_le henc
  have hmac_len := length_octets_le hmac
  have h₁ := pushKeyBlock_eq [newKvn] henc (by simp)
  have h₂ := pushKeyBlock_eq ([newKvn] ++ (cardBlock enc).octets) hmac
    (by rw [List.length_append, List.length_singleton]; omega)
  have h₃ := pushKeyBlock_eq ([newKvn] ++ (cardBlock enc).octets ++ (cardBlock mac).octets) hdek
    (by simp only [List.length_append, List.length_singleton]; omega)
  have hdata : [newKvn] ++ (cardBlock enc).octets ++ (cardBlock mac).octets ++
      (cardBlock dek).octets =
      putKeyData newKvn [cardBlock enc, cardBlock mac, cardBlock dek] := by
    simp [putKeyData]
  unfold Capdu.putKey
  rw [show Capdu.push [] [newKvn] = .ok [newKvn] from rfl, ok_bind, h₁, ok_bind, h₂, ok_bind, h₃,
    ok_bind, hdata]

/-! ### The ciphers -/

section ciphers

variable (P : Primitives) {ρ : Type} {st : BackendState ρ}

/-- A key as SCP03 encrypts it: padded unless it is a whole number of blocks. -/
def alignKey (bytes : List UInt8) : List UInt8 :=
  if bytes.length % BLOCK = 0 then bytes else pad BLOCK bytes

theorem dvd_length_alignKey (bytes : List UInt8) : 16 ∣ (alignKey bytes).length := by
  unfold alignKey
  split
  · next h => exact Nat.dvd_of_mod_eq_zero h
  · exact dvd_length_pad (show 0 < 16 by decide) bytes

theorem take_alignKey (bytes : List UInt8) : (alignKey bytes).take bytes.length = bytes := by
  unfold alignKey
  split
  · exact List.take_length
  · exact List.take_left

/-- An AES-192 key takes the two blocks of an AES-256 key. -/
theorem length_alignKey_le (key : AesKey) : (alignKey key.val).length ≤ 32 := by
  have hkey := key.property
  unfold alignKey
  split
  · rcases hkey with h | h | h <;> omega
  · next hmod =>
    have hmod' : ¬key.val.length % 16 = 0 := hmod
    rw [length_pad (show 0 < BLOCK by decide)]
    show key.val.length + (16 - key.val.length % 16) ≤ 32
    rcases hkey with h | h | h <;> omega

/-- The aligned key stands at the front of the scratch buffer. -/
theorem alignKey_scratch (nk : AesKey) :
    ∃ buf, (if nk.val.length % BLOCK = 0 then
        .ok (overwrite (List.replicate ENC_KEY_BLOCK_MAX 0) 0 nk.val, nk.val.length)
      else pad80 (overwrite (List.replicate ENC_KEY_BLOCK_MAX 0) 0 nk.val) nk.val.length) =
        .ok (buf, (alignKey nk.val).length) ∧
      buf.length = ENC_KEY_BLOCK_MAX ∧ buf.take (alignKey nk.val).length = alignKey nk.val := by
  have hfits := length_alignKey_le nk
  have hnk : nk.val.length ≤ 32 := by
    rcases nk.property with h | h | h <;> omega
  have hcopy : (overwrite (List.replicate ENC_KEY_BLOCK_MAX 0) 0 nk.val).length = 32 := by
    rw [length_overwrite (by rw [List.length_replicate]; show 0 + _ ≤ 32; omega)]
    exact List.length_replicate
  unfold alignKey at hfits ⊢
  split
  · exact ⟨_, rfl, hcopy, take_overwrite_front ..⟩
  · next hmod =>
    rw [if_neg hmod, length_pad (show 0 < BLOCK by decide)] at hfits
    -- AES-192: the padding fills the buffer behind the key
    have hlen := length_pad (show 0 < BLOCK by decide) nk.val
    have hpad : pad80 (overwrite (List.replicate ENC_KEY_BLOCK_MAX 0) 0 nk.val) nk.val.length =
        .ok (overwrite (overwrite (List.replicate ENC_KEY_BLOCK_MAX 0) 0 nk.val) 0
          (pad BLOCK nk.val), (pad BLOCK nk.val).length) := by
      unfold pad80
      rw [padTo_eq (show 0 < BLOCK by decide) (le_trans hfits (Nat.le_of_eq hcopy.symm)),
        take_overwrite_front, hlen]
    refine ⟨_, hpad, ?_, take_overwrite_front ..⟩
    rw [length_overwrite (by rw [hlen, hcopy]; omega)]
    exact hcopy

/-- The last two steps, over a buffer with the aligned key at its front. -/
theorem encryptScratch_eq (dek nk : AesKey) {buf : List UInt8}
    (hbuf : buf.length = ENC_KEY_BLOCK_MAX)
    (htake : buf.take (alignKey nk.val).length = alignKey nk.val) :
    (do
      let (scratch, n) ← aesCbcEncrypt P dek.val (Block.zero 16) buf (alignKey nk.val).length
      extend ENC_KEY_BLOCK_MAX (cryptoErr "enc key block overflow") [] (scratch.take n)) =
      .ok (encryptOctets (P.aes dek.val) (Block.zero 16) (alignKey nk.val)) := by
  have hfits := length_alignKey_le nk
  have hdvd := dvd_length_alignKey nk.val
  have hlen := length_encryptOctets (P.aes dek.val) (Block.zero 16) hdvd
  have hcbc := encryptPaddedMut_eq (P.aes dek.val) (Block.zero 16)
    (le_trans hfits (Nat.le_of_eq hbuf.symm)) hdvd
  rw [htake] at hcbc
  have hout := take_overwrite_front buf
    (encryptOctets (P.aes dek.val) (Block.zero 16) (alignKey nk.val))
  rw [hlen] at hout
  rw [aesCbcEncrypt, perAes_key, hcbc, okOr_some, ok_bind]
  dsimp only
  rw [hout]
  exact extend_eq_ok.mpr ⟨rfl, le_trans (Nat.le_of_eq hlen) hfits⟩

theorem scp03EncryptPutKeyPayload_eq {dek newKey : KeyHandle} {dekKey nk : AesKey}
    (hdek : readAesKey st dek = .ok dekKey) (hnew : readAesKey st newKey = .ok nk) :
    scp03EncryptPutKeyPayload P dek newKey st =
      .ok (encryptOctets (P.aes dekKey.val) (Block.zero 16) (alignKey nk.val)) := by
  have hnk : ¬nk.val.length > ENC_KEY_BLOCK_MAX := by
    show ¬nk.val.length > 32
    rcases nk.property with h | h | h <;> omega
  obtain ⟨buf, hscratch, hbuf, htake⟩ := alignKey_scratch nk
  unfold scp03EncryptPutKeyPayload
  rw [hdek, ok_bind, hnew, ok_bind]
  dsimp only
  rw [if_neg hnk]
  by_cases hmod : nk.val.length % BLOCK = 0
  · rw [if_pos hmod] at hscratch ⊢
    rw [hscratch]
    exact encryptScratch_eq P dekKey nk hbuf htake
  · rw [if_neg hmod] at hscratch ⊢
    rw [hscratch]
    exact encryptScratch_eq P dekKey nk hbuf htake

/-- 3DES-ECB of the two halves of a key. -/
theorem ecbEncryptPutKey_eq (dek newKey : TdesKey) :
    ecbEncryptPutKey P dek newKey = .ok (ecbEncryptOctets (P.tdesEde2 dek.val) newKey.val) := by
  have hkey := newKey.property
  have hblocks : toBlocks 8 2 newKey.val =
      [Block.ofOctets 8 newKey.val, Block.ofOctets 8 (newKey.val.drop DES_BLOCK)] := by
    have hdrop : (newKey.val.drop 8).length = 8 := by
      rw [List.length_drop]
      omega
    have hfirst : Block.ofOctets 8 newKey.val =
        ⟨newKey.val.take 8, List.length_take_of_le (by omega)⟩ :=
      Subtype.ext (Block.val_ofOctets_of_le (by omega))
    have hsecond : Block.ofOctets 8 (newKey.val.drop 8) =
        ⟨(newKey.val.drop 8).take 8, List.length_take_of_le (by omega)⟩ :=
      Subtype.ext (Block.val_ofOctets_of_le (by omega))
    rw [toBlocks, dif_pos (by omega), toBlocks, dif_pos (by omega), toBlocks, DES_BLOCK, hfirst,
      hsecond]
  have hcount : newKey.val.length / 8 = 2 := by omega
  have h₁ := (P.tdesEde2 dek.val (Block.ofOctets 8 newKey.val)).property
  have h₂ := (P.tdesEde2 dek.val (Block.ofOctets 8 (newKey.val.drop DES_BLOCK))).property
  have hpush : push ENC_KEY_BLOCK_MAX [] (P.tdesEde2 dek.val (Block.ofOctets 8 newKey.val)).val =
      .ok (P.tdesEde2 dek.val (Block.ofOctets 8 newKey.val)).val :=
    extend_eq_ok.mpr ⟨rfl, le_trans (Nat.le_of_eq h₁) (by decide)⟩
  unfold ecbEncryptPutKey ecbEncryptOctets
  rw [tdesEcbBlock_eq, ok_bind, hpush, ok_bind, tdesEcbBlock_eq, ok_bind, hcount, hblocks]
  apply extend_eq_ok.mpr
  constructor
  · simp
  · show _ ≤ 32
    simp
    omega

/-! ### The keys of the handles -/

/-- The protocol takes keys of this kind. -/
def Suits : ScpProtocol → KeyKind → Prop
  | .scp03, kind => kind ≠ .tripleDesDouble
  | .scp02, kind => kind = .tripleDesDouble

theorem readAesKey_of_suits {h : KeyHandle} {key : KeySlot}
    (hkey : st.keys.get h.index.toNat = some key) (hkind : Suits .scp03 key.kind) :
    ∃ hlen, readAesKey st h = .ok ⟨key.bytes, hlen⟩ := by
  obtain ⟨kind, bytes, fits⟩ := key
  unfold readAesKey
  rw [hkey]
  cases kind with
  | aes128 => exact ⟨_, rfl⟩
  | aes192 => exact ⟨_, rfl⟩
  | aes256 => exact ⟨_, rfl⟩
  | tripleDesDouble => exact absurd rfl hkind

theorem readTdesKey_of_suits {h : KeyHandle} {key : KeySlot}
    (hkey : st.keys.get h.index.toNat = some key) (hkind : Suits .scp02 key.kind) :
    ∃ hlen, Scp02.readTdesKey st h = .ok ⟨key.bytes, hlen⟩ := by
  obtain ⟨kind, bytes, fits⟩ := key
  obtain rfl : kind = .tripleDesDouble := hkind
  unfold Scp02.readTdesKey
  rw [hkey]
  exact ⟨_, rfl⟩

/-- The key check value: the first octets of `01…01` under AES, of zeros under 3DES. -/
def kcvOf (key : KeySlot) : List UInt8 :=
  match key.kind with
  | .tripleDesDouble => (P.tdesEde2 key.bytes (Block.zero 8)).val.take KCV_LEN
  | _ => (P.aes key.bytes ⟨List.replicate 16 0x01, rfl⟩).val.take KCV_LEN

theorem computeKcv_eq {h : KeyHandle} {key : KeySlot}
    (hkey : st.keys.get h.index.toNat = some key) :
    ∃ kcv : Block KCV_LEN, computeKcv P h st = .ok kcv ∧ kcv.val = kcvOf P key := by
  obtain ⟨kind, bytes, fits⟩ := key
  unfold computeKcv kcvOf
  rw [hkey, okOr_some, ok_bind]
  have haes : ∀ hlen : IsAesLength bytes.length, ∃ kcv : Block KCV_LEN, (do
      let out ← aesEcbBlock P bytes ⟨List.replicate 16 0x01, List.length_replicate⟩
      .ok (Block.ofOctets KCV_LEN out.val) : Except BackendError (Block KCV_LEN)) = .ok kcv ∧
        kcv.val =
          (P.aes bytes ⟨List.replicate 16 0x01, rfl⟩).val.take KCV_LEN := by
    intro hlen
    have hblock := aesEcbBlock_eq P ⟨bytes, hlen⟩ ⟨List.replicate 16 0x01, List.length_replicate⟩
    rw [hblock, ok_bind]
    refine ⟨_, rfl, Block.val_ofOctets_of_le ?_⟩
    rw [(P.aes bytes _).property]
    decide
  cases kind with
  | aes128 => exact haes (.inl fits)
  | aes192 => exact haes (.inr (.inl fits))
  | aes256 => exact haes (.inr (.inr fits))
  | tripleDesDouble =>
    have hblock := tdesEcbBlock_eq P ⟨bytes, fits⟩ (Block.zero 8)
    dsimp only at hblock ⊢
    rw [hblock, ok_bind]
    refine ⟨_, rfl, Block.val_ofOctets_of_le ?_⟩
    rw [(P.tdesEde2 bytes _).property]
    decide

/-- The DEK of the payload: the one of the handle over SCP03, the session's own over
    SCP02. -/
def payloadDek (session : ScpSession) (h : KeyHandle) (st : BackendState ρ) :
    Option (List UInt8) :=
  match session with
  | .scp03 _ => (st.keys.get h.index.toNat).map KeySlot.bytes
  | .scp02 s => (st.scp02Sessions.get s.session.index.toNat).map fun slot => slot.sDek.val

/-- The DEK handle holds an AES key where it is looked at. -/
def LiveDek (session : ScpSession) (h : KeyHandle) (st : BackendState ρ) : Prop :=
  match session with
  | .scp03 _ => ∃ key, st.keys.get h.index.toNat = some key ∧ Suits .scp03 key.kind
  | .scp02 _ => True

/-- The three handles of a keyset hold keys of the kind it declares, and the protocol
    takes that kind. -/
structure LiveKeyset (protocol : ScpProtocol) (keyset : NewKeyset) (st : BackendState ρ)
    (enc mac dek : KeySlot) : Prop where
  getEnc : st.keys.get keyset.enc.index.toNat = some enc
  getMac : st.keys.get keyset.mac.index.toNat = some mac
  getDek : st.keys.get keyset.dek.index.toNat = some dek
  kindEnc : enc.kind = keyset.kind
  kindMac : mac.kind = keyset.kind
  kindDek : dek.kind = keyset.kind
  suits : Suits protocol keyset.kind

/-- What a key block brings to a card that decrypts it under `dek`. -/
def Carries : ScpProtocol → (dek : List UInt8) → KeySlot → CardKeyBlock → Prop
  | .scp03, dek, key, b =>
      b.keyType = Capdu.KEY_TYPE_AES ∧ b.kcv = kcvOf P key ∧
        ∃ clearLen cipher, b.value = clearLen :: cipher ∧ clearLen.toNat = key.bytes.length ∧
          16 ∣ cipher.length ∧
          (decryptOctets (P.aes dek) (Block.zero 16) cipher).take clearLen.toNat = key.bytes
  | .scp02, dek, key, b =>
      b.keyType = Capdu.KEY_TYPE_3DES ∧ b.kcv = kcvOf P key ∧ 8 ∣ b.value.length ∧
        (ecbEncryptOctets (P.tdesEde2 dek).symm b.value).take key.bytes.length = key.bytes

/-- The card cuts a decrypted AES key back to the length that its block says. -/
theorem carries_aes (dek : List UInt8) (key : KeySlot) {kcv : List UInt8}
    (hkcv : kcv = kcvOf P key) :
    Carries P .scp03 dek key
      (cardBlock ⟨Capdu.KEY_TYPE_AES, encryptOctets (P.aes dek) (Block.zero 16) (alignKey key.bytes),
        kcv, UInt8.ofNat key.kind.clearLen⟩) := by
  have hdvd := dvd_length_alignKey key.bytes
  have hcipher := length_encryptOctets (P.aes dek) (Block.zero 16) hdvd
  have hclear : (UInt8.ofNat key.kind.clearLen).toNat = key.bytes.length := by
    rw [key.fits]
    cases key.kind <;> rfl
  have hopened : (decryptOctets (P.aes dek) (Block.zero 16)
      (encryptOctets (P.aes dek) (Block.zero 16) (alignKey key.bytes))).take
        (UInt8.ofNat key.kind.clearLen).toNat = key.bytes := by
    rw [hclear, decryptOctets_encryptOctets _ _ hdvd]
    exact take_alignKey key.bytes
  refine ⟨rfl, hkcv, _, _, rfl, hclear, ?_, hopened⟩
  rw [hcipher]
  exact hdvd

/-- The two halves of a 3DES key are decrypted one by one. -/
theorem carries_tdes (dek : List UInt8) (key : KeySlot) {kcv : List UInt8} (clearLen : UInt8)
    (hkcv : kcv = kcvOf P key) (hkey : key.bytes.length = 16) :
    Carries P .scp02 dek key
      (cardBlock ⟨Capdu.KEY_TYPE_3DES, ecbEncryptOctets (P.tdesEde2 dek) key.bytes, kcv,
        clearLen⟩) := by
  have hdvd : 8 ∣ key.bytes.length := ⟨2, hkey⟩
  refine ⟨rfl, hkcv, ?_, ?_⟩
  · show 8 ∣ (ecbEncryptOctets (P.tdesEde2 dek) key.bytes).length
    rw [length_ecbEncryptOctets _ hdvd]
    exact hdvd
  · show (ecbEncryptOctets (P.tdesEde2 dek).symm
      (ecbEncryptOctets (P.tdesEde2 dek) key.bytes)).take key.bytes.length = key.bytes
    rw [ecbEncryptOctets_symm _ hdvd]
    exact List.take_length

variable [RngCore ρ]

/-- One new key: encrypted, checked, and carried by its block. -/
theorem newKey_carried {session : ScpSession} {dekHandle newHandle : KeyHandle}
    {dek : List UInt8} {key : KeySlot} (st : RustCryptoBackend P ρ)
    (hlive : LiveDek session dekHandle st) (hdek : payloadDek session dekHandle st = some dek)
    (hkey : SlotTable.get (BackendState.keys st) newHandle.index.toNat = some key)
    (hkind : Suits session.protocol key.kind) :
    ∃ (blob : List UInt8) (kcv : Block KCV_LEN),
      encryptNewKey session dekHandle newHandle st = (.ok blob, st) ∧
      ofBackend (KeyBackend.computeKcv newHandle) st = (.ok kcv, st) ∧
      IsShort ⟨keyTypeByte session, blob, kcv.val, clearLenByte session key.kind⟩ ∧
      Carries P session.protocol dek key
        (cardBlock ⟨keyTypeByte session, blob, kcv.val, clearLenByte session key.kind⟩) := by
  obtain ⟨kcv, hkcv, hval⟩ := computeKcv_eq P hkey
  have hcheck : ofBackend (KeyBackend.computeKcv newHandle) st = (.ok kcv, st) :=
    ofBackend_eq_ok.mpr (Prog.query_eq_ok.mpr ⟨hkcv, rfl⟩)
  cases session with
  | scp03 s =>
    -- the DEK is the key of the handle
    obtain ⟨dekSlot, hslot, hsuits⟩ := hlive
    obtain ⟨hdekLen, hreadDek⟩ := readAesKey_of_suits hslot hsuits
    obtain ⟨hkeyLen, hreadKey⟩ := readAesKey_of_suits hkey hkind
    obtain ⟨slot, hget, rfl⟩ := Option.map_eq_some_iff.mp hdek
    obtain rfl := Option.some.inj (hslot.symm.trans hget)
    have hpayload := scp03EncryptPutKeyPayload_eq P hreadDek hreadKey
    have hcipher := length_encryptOctets (P.aes dekSlot.bytes) (Block.zero 16)
      (dvd_length_alignKey key.bytes)
    have hfits := length_alignKey_le ⟨key.bytes, hkeyLen⟩
    exact ⟨_, kcv, ofBackend_eq_ok.mpr (Prog.query_eq_ok.mpr ⟨hpayload, rfl⟩), hcheck,
      ⟨le_trans (Nat.le_of_eq hcipher) hfits, kcv.property⟩, carries_aes P _ key hval⟩
  | scp02 s =>
    -- the DEK is derived with the session, and the handle is not looked at
    obtain ⟨hkeyLen, hreadKey⟩ := readTdesKey_of_suits hkey hkind
    obtain ⟨slot, hslot, rfl⟩ := Option.map_eq_some_iff.mp hdek
    have hpayload : scp02EncryptPutKeyPayloadForSession P s.session newHandle st =
        .ok (ecbEncryptOctets (P.tdesEde2 slot.sDek.val) key.bytes) := by
      unfold scp02EncryptPutKeyPayloadForSession
      rw [hslot, okOr_some, ok_bind, hreadKey, ok_bind]
      exact ecbEncryptPutKey_eq P slot.sDek ⟨key.bytes, hkeyLen⟩
    have hcipher := length_ecbEncryptOctets (P.tdesEde2 slot.sDek.val) (⟨2, hkeyLen⟩ : 8 ∣ _)
    refine ⟨_, kcv, ofBackend_eq_ok.mpr (Prog.query_eq_ok.mpr ⟨hpayload, rfl⟩), hcheck,
      ⟨?_, kcv.property⟩, carries_tdes P _ key _ hval hkeyLen⟩
    rw [hcipher, hkeyLen]
    decide

/-- The command is built, and the card reads the three keys in it. -/
theorem putKeyCommand_carries {session : ScpSession} {args : PutSdKeysArgs}
    {dek : List UInt8} {encKey macKey dekKey : KeySlot} (st : RustCryptoBackend P ρ)
    (hlive : LiveDek session args.dek st) (hdek : payloadDek session args.dek st = some dek)
    (hkeys : LiveKeyset session.protocol args.newKeys st encKey macKey dekKey) :
    ∃ (data : List UInt8) (kcvs : NewKcvs) (b₁ b₂ b₃ : CardKeyBlock),
      data ≠ [] ∧ data.length ≤ 118 ∧
      putKeyCommand session args st =
        (.ok (0x84 :: 0xD8 :: P1_ADD :: 0x81 :: Capdu.tailOctets data true, kcvs), st) ∧
      readPutKey data = some (args.newKvn, [b₁, b₂, b₃]) ∧
      Carries P session.protocol dek encKey b₁ ∧ Carries P session.protocol dek macKey b₂ ∧
      Carries P session.protocol dek dekKey b₃ := by
  have hsuits := hkeys.suits
  obtain ⟨encBlob, encKcv, hencRun, hencCheck, hencShort, henc⟩ :=
    newKey_carried P st hlive hdek hkeys.getEnc (by rw [hkeys.kindEnc]; exact hsuits)
  obtain ⟨macBlob, macKcv, hmacRun, hmacCheck, hmacShort, hmac⟩ :=
    newKey_carried P st hlive hdek hkeys.getMac (by rw [hkeys.kindMac]; exact hsuits)
  obtain ⟨dekBlob, dekKcv, hdekRun, hdekCheck, hdekShort, hdekKey⟩ :=
    newKey_carried P st hlive hdek hkeys.getDek (by rw [hkeys.kindDek]; exact hsuits)
  rw [hkeys.kindEnc] at hencShort henc
  rw [hkeys.kindMac] at hmacShort hmac
  rw [hkeys.kindDek] at hdekShort hdekKey
  have hlen := length_putKeyData_le args.newKvn hencShort hmacShort hdekShort
  have hbuilt := putKey_eq P1_ADD args.newKvn hencShort hmacShort hdekShort
  rw [Capdu.build_eq_ok.mpr ⟨le_trans hlen (by decide), rfl⟩] at hbuilt
  refine ⟨_, ⟨encKcv, macKcv, dekKcv⟩, _, _, _, List.cons_ne_nil _ _, hlen, ?_, ?_, henc, hmac,
    hdekKey⟩
  · unfold putKeyCommand
    dsimp only
    -- the calls only read, so each runs in the state of the first
    rw [Prog.bind_ok hencRun, Prog.bind_ok hmacRun, Prog.bind_ok hdekRun,
      Prog.bind_ok hencCheck, Prog.bind_ok hmacCheck, Prog.bind_ok hdekCheck, hbuilt]
    rfl
  · refine readPutKey_putKeyData args.newKvn rfl ?_
    intro b hb
    have hshort : ∃ block, IsShort block ∧ b = cardBlock block := by
      simp only [List.mem_cons, List.not_mem_nil, or_false] at hb
      rcases hb with rfl | rfl | rfl
      · exact ⟨_, hencShort, rfl⟩
      · exact ⟨_, hmacShort, rfl⟩
      · exact ⟨_, hdekShort, rfl⟩
    obtain ⟨block, hblock, rfl⟩ := hshort
    have hvalue := length_value_le hblock
    have hkcv : (cardBlock block).kcv.length = 3 := hblock.2
    exact ⟨by omega, by omega⟩

/-! ### The workflow -/

variable {τ : Type} [Transport τ]

/-- An error that is not of a builder. -/
abbrev NotBuild (e : ScllError) : Prop := ∀ b : BuildError, e ≠ .build b

theorem notBuild_of_foreign {e : ScllError} (h : Foreign e) : NotBuild e := by
  intro b he
  rw [he] at h
  exact h rfl

section built

variable {β : Type} [KeyBackend β] [Scp03Backend β] [Scp02Backend β] {session : ScpSession}
  {args : PutSdKeysArgs} {w : World τ β} {capdu : Capdu} {kcvs : NewKcvs}

/-- Once the command is built, no builder is called any more. -/
theorem putSdKeys_notBuild
    (hbuilt : putKeyCommand session args w.backend = (.ok (capdu, kcvs), w.backend))
    {e : ScllError} (herr : (putSdKeys session args w).1 = .error e) : NotBuild e := by
  have hexchange : (transmitInSession session capdu : Prog (World τ β) ScllError _).Raises
      NotBuild := fun s e s' h => notBuild_of_foreign (transmitInSession_raises capdu s e s' h)
  have hecho : ∀ echo e, verifyKcvEcho echo args.newKvn kcvs.enc kcvs.mac kcvs.dek = .error e →
      NotBuild e := by
    intro echo e h b
    unfold verifyKcvEcho at h
    dsimp only at h
    split at h
    · rw [← Except.error.inj h]
      exact ScllError.noConfusion
    · cases h
  have hreport : ∀ kcvs e, putKeysReport session args kcvs = .error e → NotBuild e := by
    intro kcvs e h b
    rcases bind_eq_error.mp h with h | ⟨_, -, h⟩
    · unfold Aid.new at h
      split at h
      · cases h
      · rw [← Except.error.inj h]
        exact ScllError.noConfusion
    · cases h
  unfold putSdKeys at herr
  rw [Prog.bind_ok (onBackend_run hbuilt)] at herr
  refine Prog.Raises.bind hexchange (fun answer => ?_) w e _ (Prod.ext herr rfl)
  refine .bind (.lift fun e h => notBuild_of_foreign (foreign_requireSw _ e h)) fun _ => ?_
  exact .bind (.lift (hecho _)) fun kcvs => .lift (hreport kcvs)

/-- The command is all that is exchanged. -/
theorem state_putSdKeys
    (hbuilt : putKeyCommand session args w.backend = (.ok (capdu, kcvs), w.backend)) :
    (putSdKeys session args w).2 = (transmitInSession session capdu w).2 := by
  unfold putSdKeys
  rw [Prog.bind_ok (onBackend_run hbuilt)]
  refine Prog.Leaves.state_bind (fun answer => ?_) w
  exact .bind (.lift _) fun _ => .bind (.lift _) fun _ => .lift _

end built

/-- PUT KEY carries exactly the new keys, and always fits. -/
theorem put_key_carries_new_keys (session : ScpSession) (args : PutSdKeysArgs)
    (st : RustCryptoBackend P ρ) (encKey macKey dekKey : KeySlot) (hopen : IsOpen session st)
    (hlive : LiveDek session args.dek st)
    (hkeys : LiveKeyset session.protocol args.newKeys st encKey macKey dekKey) :
    ∃ (capdu : Capdu) (kcvs : NewKcvs) (data dek : List UInt8) (b₁ b₂ b₃ : CardKeyBlock),
      putKeyCommand session args st = (.ok (capdu, kcvs), st) ∧
      ShortCases.decode capdu = some (0x84, 0xD8, 0x00, 0x81, data, some 0x00) ∧
      readPutKey data = some (args.newKvn, [b₁, b₂, b₃]) ∧
      payloadDek session args.dek st = some dek ∧
      Carries P session.protocol dek encKey b₁ ∧ Carries P session.protocol dek macKey b₂ ∧
      Carries P session.protocol dek dekKey b₃ ∧
      (¬Exhausted session st → Wraps session capdu st) ∧
      (Exhausted session st → wrapCommand session capdu st =
        (.error (.backend (cryptoErr "command counter overflow")), st)) ∧
      ∀ w : World τ (RustCryptoBackend P ρ), w.backend = st →
        (∀ e, (putSdKeys session args w).1 ≠ .error (.build e)) ∧
        (¬Exhausted session st → (putSdKeys session args w).2.sent = w.sent ++ [capdu]) := by
  obtain ⟨dek, hdek⟩ : ∃ dek, payloadDek session args.dek st = some dek := by
    cases session with
    | scp03 s =>
      obtain ⟨key, hkey, -⟩ := hlive
      exact ⟨key.bytes, Option.map_eq_some_iff.mpr ⟨key, hkey, rfl⟩⟩
    | scp02 s =>
      obtain ⟨slot, hslot, -⟩ := hopen
      exact ⟨slot.sDek.val, Option.map_eq_some_iff.mpr ⟨slot, hslot, rfl⟩⟩
  obtain ⟨data, kcvs, b₁, b₂, b₃, hne, hlen, hbuilt, hread, h₁, h₂, h₃⟩ :=
    putKeyCommand_carries P st hlive hdek hkeys
  have hroom : data.length ≤ MAX_WRAPPED_DATA := le_trans hlen (by decide)
  have hwraps := wraps_iff_of_isOpen P hopen 0x84 0xD8 P1_ADD 0x81 hne hroom true
  refine ⟨_, kcvs, data, dek, b₁, b₂, b₃, hbuilt, ?_, hread, hdek, h₁, h₂, h₃, hwraps.mpr, ?_, ?_⟩
  · exact ShortCases.decode_tailOctets 0x84 0xD8 P1_ADD 0x81 true hne (by omega)
  · intro hlast
    exact wrapCommand_of_exhausted P hopen hlast 0x84 0xD8 P1_ADD 0x81 hne (by omega) true
  · -- after the command is built, only the channel can refuse it
    intro w hw
    subst hw
    refine ⟨fun e herr => putSdKeys_notBuild hbuilt herr e rfl, fun hcount => ?_⟩
    rw [state_putSdKeys hbuilt]
    exact sent_of_wraps (hwraps.mpr hcount)

end ciphers

/-! ### Three AES-192 keys -/

open Primitives (xorCipher)

def aes192Key (b : UInt8) : KeySlot := ⟨.aes192, List.replicate 24 b, List.length_replicate⟩

/-- An open channel, an AES-128 DEK and three AES-192 keys. -/
def aes192State : RustCryptoBackend xorCipher Unit :=
  { ShortCases.sampleState with
    keys := ((((SlotTable.empty MAX_KEY_SLOTS KeySlot).set 0
      (some ⟨.aes128, List.replicate 16 0x40, by decide⟩)).set 1 (some (aes192Key 1))).set 2
        (some (aes192Key 2))).set 3 (some (aes192Key 3)) }

def aes192Args : PutSdKeysArgs where
  dek := ⟨0⟩
  newKeys := ⟨⟨1⟩, ⟨2⟩, ⟨3⟩, .aes192⟩
  newKvn := 0x31
  targetSdAid := [0xA0, 0x00, 0x00, 0x01, 0x51, 0x00, 0x00, 0x00]

theorem put_key_carries_new_keys_aes192 :
    ∃ (capdu : Capdu) (kcvs : NewKcvs) (data dek : List UInt8) (b₁ b₂ b₃ : CardKeyBlock),
      putKeyCommand stubSession aes192Args aes192State = (.ok (capdu, kcvs), aes192State) ∧
      ShortCases.decode capdu = some (0x84, 0xD8, 0x00, 0x81, data, some 0x00) ∧
      readPutKey data = some (0x31, [b₁, b₂, b₃]) ∧
      Carries xorCipher .scp03 dek (aes192Key 1) b₁ ∧
      Carries xorCipher .scp03 dek (aes192Key 2) b₂ ∧
      Carries xorCipher .scp03 dek (aes192Key 3) b₃ ∧
      (putSdKeys stubSession aes192Args
        (⟨⟨⟩, aes192State, []⟩ : World Obliging (RustCryptoBackend xorCipher Unit))).2.sent =
          [capdu] := by
  have hkeys : LiveKeyset .scp03 aes192Args.newKeys aes192State (aes192Key 1) (aes192Key 2)
      (aes192Key 3) := ⟨rfl, rfl, rfl, rfl, rfl, rfl, KeyKind.noConfusion⟩
  have hslot : ShortCases.sampleState.sessions.get 0 = some ShortCases.sampleSlot03 := rfl
  have hcount : ¬Exhausted stubSession aes192State := by
    intro ⟨slot, hget, hlast⟩
    obtain rfl := Option.some.inj (hslot.symm.trans hget)
    exact absurd hlast (by decide)
  obtain ⟨capdu, kcvs, data, dek, b₁, b₂, b₃, hbuilt, hdecode, hread, -, h₁, h₂, h₃, -, -, hsent⟩ :=
    put_key_carries_new_keys (τ := Obliging) xorCipher stubSession aes192Args aes192State
      (aes192Key 1) (aes192Key 2) (aes192Key 3) ⟨_, hslot, rfl⟩ ⟨_, rfl, KeyKind.noConfusion⟩ hkeys
  exact ⟨capdu, kcvs, data, dek, b₁, b₂, b₃, hbuilt, hdecode, hread, h₁, h₂, h₃,
    (hsent ⟨⟨⟩, aes192State, []⟩ rfl).2 hcount⟩

end PutKey

end Scll

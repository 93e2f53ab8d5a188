import Scll.Crypto
import Scll.Framework.CounterMode

/-! # What the crypto helpers compute

    One equation for each helper of `Scll.Crypto`, free of scratch buffers: the
    stale octets of a buffer never reach a result.
-/

namespace Scll

open Octets BlockMode

variable (P : Primitives)

/-! ### Octets -/

theorem foldl_or_eq_zero (bs : List UInt8) (acc : UInt8) :
    bs.foldl (· ||| ·) acc = 0 ↔ acc = 0 ∧ ∀ b ∈ bs, b = 0 := by
  induction bs generalizing acc with
  | nil => simp
  | cons b bs ih =>
    rw [List.foldl_cons, ih, UInt8.or_eq_zero_iff, List.forall_mem_cons, and_assoc]

/-- The constant-time comparison decides equality. -/
theorem ctEq_iff {a b : List UInt8} : ctEq a b = true ↔ a = b := by
  unfold ctEq
  by_cases hlen : a.length = b.length
  · rw [if_neg (not_not.mpr hlen), decide_eq_true_iff, foldl_or_eq_zero]
    induction a generalizing b with
    | nil =>
      cases b with
      | nil => simp
      | cons y ys => simp at hlen
    | cons x xs ih =>
      cases b with
      | nil => simp at hlen
      | cons y ys =>
        have ih := ih (by simpa using hlen)
        simp only [true_and] at ih
        simp only [List.zipWith_cons_cons, List.forall_mem_cons, UInt8.xor_eq_zero_iff, true_and,
          ih, List.cons.injEq]
  · rw [if_pos hlen]
    constructor
    · intro h
      cases h
    · intro h
      exact absurd (congrArg List.length h) hlen

/-! ### CBC -/

theorem encryptPaddedMut_eq {n : ℕ} (E : Equiv.Perm (Block n)) (iv : Block n)
    {buf : List UInt8} {msgLen : ℕ} (hlen : msgLen ≤ buf.length) (hdvd : n ∣ msgLen) :
    encryptPaddedMut E iv buf msgLen =
      some (overwrite buf 0 (encryptOctets E iv (buf.take msgLen)), msgLen) := by
  have htake : (buf.take msgLen).length = msgLen := List.length_take_of_le hlen
  have hblocks : toBlocks n (msgLen / n) (buf.take msgLen) = toBlocks n (msgLen / n) buf := by
    have := toBlocks_take (n := n) (msgLen / n) buf
    rwa [Nat.mul_div_cancel' hdvd] at this
  have hmod : msgLen % n = 0 := Nat.mod_eq_zero_of_dvd hdvd
  rw [encryptPaddedMut, if_neg (by omega), encryptOctets, htake, hblocks]

theorem decryptPaddedMut_eq {n : ℕ} (E : Equiv.Perm (Block n)) (iv : Block n)
    {buf : List UInt8} (hdvd : n ∣ buf.length) :
    decryptPaddedMut E iv buf = some (decryptOctets E iv buf, buf.length) := by
  have hmod : buf.length % n = 0 := Nat.mod_eq_zero_of_dvd hdvd
  rw [decryptPaddedMut, if_neg (not_not.mpr hmod)]
  rfl

/-- CBC over one block with a zero IV is the bare block cipher. -/
theorem encryptPaddedMut_block {n : ℕ} (hn : 0 < n) (E : Equiv.Perm (Block n)) (iv b : Block n) :
    encryptPaddedMut E iv b.val n = some ((E (b ^^^ iv)).val, n) := by
  have hb := b.property
  have hdiv : n / n = 1 := Nat.div_self hn
  have hblocks : toBlocks n 1 b.val = [b] := by
    have := toBlocks_ofBlocks [b] []
    simpa using this
  rw [encryptPaddedMut, if_neg (by simp [hb]), hdiv, hblocks]
  have hover : overwrite b.val 0 (E (b ^^^ iv)).val = (E (b ^^^ iv)).val := by
    rw [overwrite, List.drop_of_length_le (by rw [hb, (E (b ^^^ iv)).property]; omega)]
    simp
  simp only [cbcEncrypt, ofBlocks_cons, ofBlocks_nil, List.append_nil, hover]

theorem aesEcbBlock_eq (key : AesKey) (b : Block 16) :
    aesEcbBlock P key.val b = .ok (P.aes key.val b) := by
  have hblock := encryptPaddedMut_block (by decide) (P.aes key.val) (Block.zero 16) b
  simp only [aesEcbBlock, aesCbcEncrypt, perAes_key, BLOCK, hblock, okOr_some, ok_bind,
    Block.ofOctets_val, Block.xor_zero]

theorem desEcbBlock_eq {k1 : List UInt8} (hk : k1.length = 8) (b : Block 8) :
    desEcbBlock P k1 b = .ok (P.des k1 b) := by
  have hblock := encryptPaddedMut_block (by decide) (P.des k1) (Block.zero 8) b
  simp only [desEcbBlock, desCbcEncrypt, if_neg (not_not.mpr hk), DES_BLOCK, hblock, okOr_some,
    ok_bind, Block.ofOctets_val, Block.xor_zero]

theorem tdesEcbBlock_eq (key : TdesKey) (b : Block 8) :
    tdesEcbBlock P key.val b = .ok (P.tdesEde2 key.val b) := by
  have hblock := encryptPaddedMut_block (by decide) (P.tdesEde2 key.val) (Block.zero 8) b
  simp only [tdesEcbBlock, tdesCbcEncrypt, if_neg (not_not.mpr key.property), DES_BLOCK, hblock,
    okOr_some, ok_bind, Block.ofOctets_val, Block.xor_zero]

/-! ### Padding -/

theorem padTo_eq {block : ℕ} {overflow : String} {buf : List UInt8} {len : ℕ}
    (hblock : 0 < block) (hfits : len + (block - len % block) ≤ buf.length) :
    padTo block overflow buf len =
      .ok (overwrite buf 0 (pad block (buf.take len)), len + (block - len % block)) := by
  have hmod := Nat.mod_lt len hblock
  have hlen : (buf.take len).length = len := List.length_take_of_le (by omega)
  have hjoin : overwrite (overwrite buf len [0x80]) (len + 1)
      (List.replicate (block - len % block - 1) 0) =
      overwrite buf len ([0x80] ++ List.replicate (block - len % block - 1) 0) :=
    overwrite_overwrite (by rw [List.length_singleton]; omega)
  have hfront : overwrite buf len ([0x80] ++ List.replicate (block - len % block - 1) 0) =
      overwrite buf 0 (pad block (buf.take len)) := by
    simp only [overwrite, pad, List.length_append, List.length_cons, List.length_replicate, hlen,
      List.take_zero, List.nil_append, List.cons_append, List.append_assoc, Nat.zero_add]
  have hzeros : len + (block - len % block) - (len + 1) = block - len % block - 1 := by omega
  simp only [padTo]
  rw [if_neg (by omega), hzeros, hjoin, hfront]

/-- Data copied to the front of a scratch buffer, padded and encrypted there,
    is the encryption of the padded data. -/
theorem pad_encrypt_scratch {n : ℕ} (hn : 0 < n) (E : Equiv.Perm (Block n)) (iv : Block n)
    {overflow : String} {scratch data : List UInt8}
    (hfits : data.length + (n - data.length % n) ≤ scratch.length) :
    ∃ buf, padTo n overflow (overwrite scratch 0 data) data.length =
        .ok (buf, (pad n data).length) ∧
      buf.length = scratch.length ∧ buf.take (pad n data).length = pad n data ∧
      ∃ ct, encryptPaddedMut E iv buf (pad n data).length =
          some (ct, (pad n data).length) ∧
        ct.take (pad n data).length = encryptOctets E iv (pad n data) := by
  have hmod := Nat.mod_lt data.length hn
  have hpad := length_pad hn data
  have hcopy : (overwrite scratch 0 data).length = scratch.length :=
    length_overwrite (by omega)
  have hbuf : padTo n overflow (overwrite scratch 0 data) data.length =
      .ok (overwrite (overwrite scratch 0 data) 0 (pad n data), (pad n data).length) := by
    rw [padTo_eq hn (by rw [hcopy]; exact hfits), take_overwrite_front, hpad]
  have htake : (overwrite (overwrite scratch 0 data) 0 (pad n data)).take (pad n data).length =
      pad n data := take_overwrite_front ..
  have hlen : (overwrite (overwrite scratch 0 data) 0 (pad n data)).length = scratch.length := by
    rw [length_overwrite (by omega), hcopy]
  have hdvd := dvd_length_pad hn data
  have hct := length_encryptOctets E iv hdvd
  refine ⟨_, hbuf, hlen, htake, _, encryptPaddedMut_eq E iv (by omega) hdvd, ?_⟩
  rw [htake, ← hct]
  exact take_overwrite_front ..

/-- The loop of `unpad80` over the octets before `i` is `unpad` of them. -/
theorem unpad80From_eq (buf : List UInt8) (i : ℕ) (hi : i ≤ buf.length) :
    unpad80From buf i =
      okOr ((unpad (buf.take i)).map List.length) (cryptoErr "bad pad") := by
  induction i with
  | zero => rfl
  | succ i ih =>
    have hlt : i < buf.length := by omega
    have htake : buf.take (i + 1) = buf.take i ++ [buf[i]] :=
      (List.take_append_getElem hlt).symm
    have hget : buf.getD i 0 = buf[i] := by simp [hlt]
    have hlen : (buf.take i).length = i := List.length_take_of_le (by omega)
    rw [unpad80From, hget, htake, unpad_concat]
    by_cases h0 : buf[i] = 0
    · -- a zero octet is skipped
      rw [h0, ih (by omega)]
      rfl
    · by_cases h80 : buf[i] = 0x80
      · rw [h80]
        simp [hlen]
      · rw [if_neg h0, if_neg h80]
        split
        · next h => exact absurd h h0
        · next h => exact absurd h h80
        · rfl

theorem unpad80_eq (buf : List UInt8) :
    unpad80 buf = okOr ((unpad buf).map List.length) (cryptoErr "bad pad") := by
  rw [unpad80, unpad80From_eq buf buf.length le_rfl, List.take_length]

/-! ### MACs -/

/-- MAC Algorithm 3 under a two-key triple-DES key, over the padded data. -/
def macAlgorithm3 (key16 : List UInt8) (iv : Block 8) (data : List UInt8) : Block 8 :=
  BlockMode.retailMac (P.des (key16.take 8)) (P.tdesEde2 key16) iv (padBlocks 8 data)

/-- The 3DES CBC-MAC over the padded data. -/
def tdesCbcMac (key : List UInt8) (iv : Block 8) (data : List UInt8) : Block 8 :=
  cbcMac (P.tdesEde2 key) iv (padBlocks 8 data)

/-- The last block of an encryption. -/
theorem drop_encryptOctets {n : ℕ} (E : Equiv.Perm (Block n)) (iv : Block n)
    (ps : List (Block n)) (p : Block n) (hn : 0 < n) :
    (encryptOctets E iv (ofBlocks (ps ++ [p]))).drop (n * ps.length) =
      (cbcMac E iv (ps ++ [p])).val := by
  have hcount : (ofBlocks (ps ++ [p])).length / n = (ps ++ [p]).length := by
    rw [length_ofBlocks, Nat.mul_div_cancel_left _ hn]
  have hblocks : toBlocks n (ps ++ [p]).length (ofBlocks (ps ++ [p])) = ps ++ [p] := by
    have := toBlocks_ofBlocks (ps ++ [p]) []
    rwa [List.append_nil] at this
  have hlen : (ofBlocks (cbcEncrypt E iv ps)).length = n * ps.length := by
    rw [length_ofBlocks, length_cbcEncrypt]
  rw [encryptOctets, hcount, hblocks, cbcEncrypt_concat, ofBlocks_append,
    List.drop_left' hlen]
  simp

theorem tdesMac_eq (key : TdesKey) (iv : Block 8) {data scratch : List UInt8}
    (hfits : data.length + (8 - data.length % 8) ≤ scratch.length) :
    tdesMac P key.val iv data scratch = .ok (tdesCbcMac P key.val iv data) := by
  have hmod := Nat.mod_lt data.length (show 0 < 8 by decide)
  obtain ⟨buf, hpad, -, -, ct, hct, htake⟩ := pad_encrypt_scratch (show 0 < 8 by decide)
    (P.tdesEde2 key.val) iv hfits
  obtain ⟨ps, p, hps⟩ := padBlocks_eq_concat (show 0 < 8 by decide) data
  have hpadded : pad 8 data = ofBlocks (ps ++ [p]) := by
    rw [← hps, ofBlocks_padBlocks (by decide)]
  have hlast := drop_encryptOctets (P.tdesEde2 key.val) iv ps p (by decide)
  have hlen : (pad 8 data).length - 8 = 8 * ps.length := by
    rw [hpadded, length_ofBlocks, List.length_append, List.length_singleton]
    omega
  have hbuf : pad80_8 (overwrite scratch 0 data) data.length = .ok (buf, (pad 8 data).length) :=
    hpad
  have henc : tdesCbcEncrypt P key.val iv buf (pad 8 data).length =
      .ok (ct, (pad 8 data).length) := by
    rw [tdesCbcEncrypt, if_neg (not_not.mpr key.property), hct]
    rfl
  rw [tdesMac, if_neg (by omega)]
  simp only [hbuf, ok_bind, henc, DES_BLOCK, htake, hlen]
  rw [hpadded, hlast, Block.ofOctets_val, tdesCbcMac, hps]

/-- Single-DES CBC over the front of a buffer that holds the blocks `ps`: the
    chain is their CBC-MAC, whatever follows them. -/
theorem desCbcEncrypt_front {k1 : List UInt8} (hk : k1.length = 8) (iv : Block 8)
    (ps : List (Block 8)) (p : Block 8) :
    ∃ front, desCbcEncrypt P k1 iv (ofBlocks (ps ++ [p])) (8 * (ps ++ [p]).length) =
        .ok (front, 8 * (ps ++ [p]).length) ∧
      front.length = 8 * (ps ++ [p]).length ∧
      Block.ofOctets 8 ((front.take (8 * (ps ++ [p]).length)).drop
        (8 * (ps ++ [p]).length - 8)) = cbcMac (P.des k1) iv (ps ++ [p]) := by
  have hlen := length_ofBlocks (ps ++ [p])
  have hdvd : 8 ∣ (ofBlocks (ps ++ [p])).length := ⟨_, hlen⟩
  have hct := length_encryptOctets (P.des k1) iv hdvd
  have henc := encryptPaddedMut_eq (P.des k1) iv (le_of_eq hlen.symm) ⟨_, rfl⟩
  rw [← hlen, List.take_length] at henc
  have hoff : 8 * (ps ++ [p]).length - 8 = 8 * ps.length := by
    rw [List.length_append, List.length_singleton]
    omega
  refine ⟨overwrite (ofBlocks (ps ++ [p])) 0 (encryptOctets (P.des k1) iv (ofBlocks (ps ++ [p]))),
    ?_, ?_, ?_⟩
  · rw [desCbcEncrypt, if_neg (not_not.mpr hk), ← hlen, henc]
    rfl
  · rw [length_overwrite (by omega), hlen]
  · rw [hoff, ← hlen, ← hct, take_overwrite_front, drop_encryptOctets _ _ _ _ (by decide),
      Block.ofOctets_val]

theorem retailMac_eq (key : TdesKey) (iv : Block 8) {data scratch : List UInt8}
    (hfits : data.length + (8 - data.length % 8) ≤ scratch.length) :
    retailMac P key.val iv data scratch = .ok (macAlgorithm3 P key.val iv data) := by
  have hmod := Nat.mod_lt data.length (show 0 < 8 by decide)
  obtain ⟨buf, hpad, -, htake, -⟩ := pad_encrypt_scratch (show 0 < 8 by decide)
    (P.des (key.val.take 8)) iv hfits
  obtain ⟨ps, p, hps⟩ := padBlocks_eq_concat (show 0 < 8 by decide) data
  have hpadded : pad 8 data = ofBlocks ps ++ p.val := by
    rw [← ofBlocks_padBlocks (by decide) data, hps, ofBlocks_append]
    simp
  have hlen : (pad 8 data).length = 8 * ps.length + 8 := by
    rw [hpadded, List.length_append, length_ofBlocks, p.property]
  have hbuf : pad80_8 (overwrite scratch 0 data) data.length = .ok (buf, 8 * ps.length + 8) := by
    rw [← hlen]
    exact hpad
  have hblocks : (ofBlocks ps).length = 8 * ps.length := length_ofBlocks ps
  rw [hlen, hpadded] at htake
  -- the last block is still plaintext, whatever stands before it
  have hlast : ∀ front : List UInt8, front.length = 8 * ps.length →
      ((front ++ buf.drop (8 * ps.length)).take (8 * ps.length + 8)).drop (8 * ps.length) =
        p.val := by
    intro front hfront
    have hbuf' : (buf.drop (8 * ps.length)).take 8 = p.val := by
      have := congrArg (List.drop (8 * ps.length)) htake
      rwa [List.drop_take, List.drop_left' hblocks, Nat.add_sub_cancel_left] at this
    rw [List.drop_take, List.drop_left' hfront, Nat.add_sub_cancel_left, hbuf']
  have htail : ∀ chain : Block 8, tdesCbcEncrypt P key.val chain p.val 8 =
      .ok ((P.tdesEde2 key.val (p ^^^ chain)).val, 8) := by
    intro chain
    rw [tdesCbcEncrypt, if_neg (not_not.mpr key.property), encryptPaddedMut_block (by decide)]
    rfl
  rw [retailMac, if_neg (by omega), macAlgorithm3, hps, retailMac_concat]
  simp only [hbuf, ok_bind, DES_BLOCK, Nat.add_sub_cancel]
  rcases List.eq_nil_or_concat ps with rfl | ⟨qs, q, rfl⟩
  · have hnil := hlast [] rfl
    simp only [List.length_nil, Nat.mul_zero, List.drop_zero, List.nil_append,
      Nat.zero_add] at hnil ⊢
    rw [if_neg (by decide)]
    simp only [ok_bind, hnil, htail, Block.ofOctets_val]
    rfl
  · rw [List.concat_eq_append] at *
    have hk1 : (key.val.take 8).length = 8 := by simp [key.property]
    obtain ⟨front, hdes, hfront, hchain⟩ := desCbcEncrypt_front P hk1 iv qs q
    have hhead : buf.take (8 * (qs ++ [q]).length) = ofBlocks (qs ++ [q]) := by
      have := congrArg (List.take (8 * (qs ++ [q]).length)) htake
      rwa [List.take_take, Nat.min_eq_left (by omega), List.take_left' hblocks] at this
    have hpos : 8 * (qs ++ [q]).length + 8 > 8 := by
      rw [List.length_append, List.length_singleton]
      omega
    rw [if_pos hpos, hhead]
    simp only [hdes, ok_bind, hchain, hlast front hfront, htail, Block.ofOctets_val]

/-- A buffer without room for the padding is an error, also when the message
    itself fits. -/
theorem pad80_8_overflow {buf : List UInt8} {len : ℕ} (h : buf.length < len + (8 - len % 8)) :
    pad80_8 buf len = .error (cryptoErr "3des pad overflow") := by
  unfold pad80_8 padTo
  exact if_pos h

/-- MAC Algorithm 3 of ISO/IEC 9797-1: the CBC-MAC under K1, decrypted under K2
    and encrypted under K1 again. -/
def isoMacAlgorithm3 (key16 : TdesKey) (iv : Block 8) (blocks : List (Block 8)) : Block 8 :=
  P.des (key16.val.take 8) ((P.des (key16.val.drop 8)).symm
    (cbcMac (P.des (key16.val.take 8)) iv blocks))

theorem macAlgorithm3_eq (key : TdesKey) (iv : Block 8) (data : List UInt8) :
    macAlgorithm3 P key.val iv data = isoMacAlgorithm3 P key iv (padBlocks 8 data) := by
  obtain ⟨ps, last, hblocks⟩ := padBlocks_eq_concat (show 0 < 8 by decide) data
  have htdes : P.tdesEde2 key.val = (P.des (key.val.take 8)).trans
      ((P.des (key.val.drop 8)).symm.trans (P.des (key.val.take 8))) :=
    Equiv.trans_assoc ..
  rw [macAlgorithm3, hblocks, htdes, retailMac_trans]
  rfl

/-- The two MACs over a message whose padding fits the scratch buffer, whatever
    the buffer holds: with the message padded to whole blocks by an `80` and
    zeros, one is MAC Algorithm 3 and the other the CBC-MAC under triple DES.
    Without the room both are refused. -/
theorem macs_are_standard (key : TdesKey) (iv : Block 8) (data scratch : List UInt8) :
    ∃ (blocks : List (Block 8)) (zeros : ℕ),
      ofBlocks blocks = data ++ 0x80 :: List.replicate zeros 0 ∧ zeros < 8 ∧
      (8 * blocks.length ≤ scratch.length →
        retailMac P key.val iv data scratch = .ok (isoMacAlgorithm3 P key iv blocks) ∧
        tdesMac P key.val iv data scratch = .ok (cbcMac (P.tdesEde2 key.val) iv blocks)) ∧
      (scratch.length < 8 * blocks.length →
        (∃ e, retailMac P key.val iv data scratch = .error e) ∧
        ∃ e, tdesMac P key.val iv data scratch = .error e) := by
  have hmod := Nat.mod_lt data.length (show 0 < 8 by decide)
  have hpad := ofBlocks_padBlocks (n := 8) (by decide) data
  have hlen : 8 * (padBlocks 8 data).length = data.length + (8 - data.length % 8) := by
    rw [← length_ofBlocks, hpad, length_pad (by decide)]
  refine ⟨padBlocks 8 data, 8 - data.length % 8 - 1, hpad, by omega, ?_, ?_⟩
  · intro hfits
    rw [hlen] at hfits
    rw [retailMac_eq P key iv hfits, tdesMac_eq P key iv hfits, macAlgorithm3_eq]
    exact ⟨rfl, rfl⟩
  · intro hfull
    rw [hlen] at hfull
    unfold retailMac tdesMac
    by_cases hlarge : data.length > scratch.length
    · rw [if_pos hlarge, if_pos hlarge]
      exact ⟨⟨_, rfl⟩, _, rfl⟩
    · -- the message is copied, and there is no room behind it
      have hcopy : (overwrite scratch 0 data).length = scratch.length :=
        length_overwrite (by omega)
      have hover := pad80_8_overflow 
        (by rw [hcopy]; exact hfull)
      rw [if_neg hlarge, if_neg hlarge]
      dsimp only
      rw [hover]
      exact ⟨⟨_, rfl⟩, _, rfl⟩

/-- A block of padding behind a whole block, in a scratch buffer of old octets. -/
theorem macs_are_standard_whole_block :
    ∃ blocks : List (Block 8), blocks.length = 2 ∧
      retailMac Primitives.xorCipher (List.replicate 16 0x40) (Block.zero 8)
          (List.replicate 8 0x11) (List.replicate 24 0xFF) =
        .ok (isoMacAlgorithm3 Primitives.xorCipher ⟨List.replicate 16 0x40, by decide⟩
          (Block.zero 8) blocks) := by
  obtain ⟨blocks, zeros, hblocks, hzeros, hfits, -⟩ :=
    macs_are_standard Primitives.xorCipher ⟨List.replicate 16 0x40, by decide⟩ (Block.zero 8)
      (List.replicate 8 0x11) (List.replicate 24 0xFF)
  have hlen := congrArg List.length hblocks
  rw [length_ofBlocks, List.length_append, List.length_replicate, List.length_cons,
    List.length_replicate] at hlen
  have hcount : blocks.length = 2 := by omega
  refine ⟨blocks, hcount, (hfits ?_).1⟩
  rw [hcount, List.length_replicate]
  decide

/-! ### Key derivation -/

/-- What the PRF gets for one counter: label, separator, length, counter, context. -/
def kdfInput (constant : UInt8) (context : List UInt8) (len i : ℕ) : List UInt8 :=
  List.replicate 11 0x00 ++ [constant] ++ [0x00] ++ writeBE 2 (8 * len) ++ writeBE 1 i ++ context

/-- `len` octets from the counter-mode KDF over AES-CMAC. -/
def counterKdf (key : List UInt8) (constant : UInt8) (context : List UInt8) (len : ℕ) :
    List UInt8 :=
  CounterMode.output (fun i => P.aesCmac key (kdfInput constant context len i)) len

@[simp] theorem length_counterKdf (key : List UInt8) (constant : UInt8) (context : List UInt8)
    (len : ℕ) : (counterKdf P key constant context len).length = len :=
  CounterMode.length_output (by decide) _ len

theorem kdfBlock_eq {constant counter : UInt8} {lBits : UInt16} {context : List UInt8} {len : ℕ}
    (hbits : lBits.toNat = 8 * len) (hctx : context.length ≤ 48) :
    kdfBlock constant lBits counter context =
      .ok (kdfInput constant context len counter.toNat) := by
  have hcounter : writeBE 1 counter.toNat = [counter] := by simp [writeBE]
  unfold kdfBlock
  simp only [bind_eq_ok, extend_eq_ok]
  refine ⟨_, ⟨rfl, by simp⟩, _, ⟨rfl, by simp⟩, ?_, ?_⟩
  · rw [kdfInput, hcounter, hbits]
    simp
  · simp only [kdfInput, hcounter, List.length_append, List.length_replicate,
      List.length_cons, List.length_nil, length_writeBE]
    omega

/-- The KDF loop fills what is asked for from the blocks of the counters that are
    left. The induction is on their number. -/
theorem kdfFrom_eq (key : AesKey) {constant : UInt8} {lBits : UInt16} {context : List UInt8}
    {len : ℕ} (hbits : lBits.toNat = 8 * len) (hctx : context.length ≤ 48) (k : ℕ)
    {counter : UInt8} {want : ℕ} (hwant : want ≤ 16 * k) (hcounter : counter.toNat + k < 256) :
    kdfFrom P key.val constant lBits context counter want =
      .ok ((CounterMode.blocks (fun i => P.aesCmac key.val (kdfInput constant context len i))
        counter.toNat k).take want) := by
  induction k generalizing counter want with
  | zero =>
    obtain rfl : want = 0 := by omega
    unfold kdfFrom
    rfl
  | succ k ih =>
    by_cases hzero : want = 0
    · unfold kdfFrom
      rw [dif_pos hzero, hzero]
      rfl
    · have hnext : (counter + 1).toNat = counter.toNat + 1 := by
        rw [UInt8.toNat_add, Nat.mod_eq_of_lt]
        · rfl
        · show counter.toNat + 1 < 256
          omega
      have hrest : kdfFrom P key.val constant lBits context (counter + 1) (want - min 16 want) = _ :=
        ih (by omega) (by rw [hnext]; omega)
      unfold kdfFrom
      rw [dif_neg hzero, kdfBlock_eq hbits hctx]
      simp only [ok_bind, aesCmac, perAes_key]
      rw [show min BLOCK want = min 16 want from rfl, hrest, ok_bind, CounterMode.take_blocks_succ,
        hnext]

/-- The KDF is the KDF. -/
theorem kdf_eq (key : AesKey) {constant : UInt8} {lBits : UInt16} {context : List UInt8}
    {len : ℕ} (hbits : lBits.toNat = 8 * len) (hctx : context.length ≤ 48) (hlen : len ≤ 64) :
    kdf P key.val constant lBits context len = .ok (counterKdf P key.val constant context len) := by
  have hle := CounterMode.le_count (n := 16) (by decide) len
  have hcount : CounterMode.count 16 len ≤ 254 := by
    unfold CounterMode.count
    omega
  exact kdfFrom_eq P key hbits hctx (CounterMode.count 16 len) hle (by
    show 1 + _ < 256
    omega)

end Scll

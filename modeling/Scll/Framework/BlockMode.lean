import Mathlib.Logic.Equiv.Basic
import Mathlib.Data.List.Induction
import Mathlib.Data.List.TakeDrop

/-! # Block cipher modes

    CBC encryption, the CBC-MAC and ISO/IEC 7816-4 padding, over a block type
    with an exclusive-or and a block cipher that is a permutation of the
    blocks. Octet strings enter through `toBlocks`, the division of a string
    into blocks of `n` octets.

    The facts the modes need about the cipher are in its type: decryption is
    `Equiv.symm`, so `cbcDecrypt_cbcEncrypt` has no hypothesis about it.
-/

namespace BlockMode

/-! ### Blocks of octets -/

/-- A block: a string of exactly `n` octets. -/
abbrev Block (n : Nat) := { bs : List UInt8 // bs.length = n }

namespace Block

variable {n : Nat}

/-- The block of `n` zero octets. -/
def zero (n : Nat) : Block n := ⟨List.replicate n 0, List.length_replicate⟩

/-- Octetwise exclusive-or. -/
def xor (a b : Block n) : Block n :=
  ⟨List.zipWith (· ^^^ ·) a.val b.val, by simp [a.property, b.property]⟩

instance : XorOp (Block n) := ⟨xor⟩

/-- The block that starts a string, filled up with zeros where it is short. -/
def ofOctets (n : Nat) (bs : List UInt8) : Block n := ⟨bs.takeD n 0, List.takeD_length ..⟩

@[simp] theorem ofOctets_val (b : Block n) : ofOctets n b.val = b := by
  obtain ⟨bs, rfl⟩ := b
  exact Subtype.ext (by simp [ofOctets, List.takeD_eq_take])

theorem val_ofOctets {bs : List UInt8} (h : bs.length = n) : (ofOctets n bs).val = bs :=
  congrArg Subtype.val (ofOctets_val ⟨bs, h⟩)

theorem val_ofOctets_of_le {bs : List UInt8} (h : n ≤ bs.length) :
    (ofOctets n bs).val = bs.take n := by
  unfold ofOctets
  exact List.takeD_eq_take 0 h

@[simp] theorem ofOctets_append (b : Block n) (bs : List UInt8) : ofOctets n (b.val ++ bs) = b := by
  have hb := b.property
  apply Subtype.ext
  rw [val_ofOctets_of_le (by rw [List.length_append]; omega), List.take_left' hb]

theorem zipWith_xor_cancel : ∀ as bs : List UInt8, as.length = bs.length →
    List.zipWith (· ^^^ ·) (List.zipWith (· ^^^ ·) as bs) bs = as
  | [], [], _ => rfl
  | a :: as, b :: bs, h => by
      have ih := zipWith_xor_cancel as bs (by simpa using h)
      have hab : a ^^^ b ^^^ b = a := by rw [UInt8.xor_assoc, UInt8.xor_self, UInt8.xor_zero]
      simp only [List.zipWith_cons_cons, ih, hab]

@[simp] theorem xor_xor_cancel (a b : Block n) : a ^^^ b ^^^ b = a :=
  Subtype.ext (zipWith_xor_cancel a.val b.val (a.property.trans b.property.symm))

@[simp] theorem xor_zero (a : Block n) : a ^^^ zero n = a := by
  have h : ∀ bs : List UInt8,
      List.zipWith (· ^^^ ·) bs (List.replicate bs.length 0) = bs := by
    intro bs
    induction bs with
    | nil => rfl
    | cons b bs ih => simp [List.replicate_succ, ih]
  apply Subtype.ext
  obtain ⟨bs, rfl⟩ := a
  exact h bs

/-- Exclusive-or with a fixed block, the simplest permutation of the blocks. -/
def xorPerm (k : Block n) : Equiv.Perm (Block n) where
  toFun b := b ^^^ k
  invFun b := b ^^^ k
  left_inv b := xor_xor_cancel b k
  right_inv b := xor_xor_cancel b k

end Block

/-! ### Division into blocks -/

/-- The first `count` blocks of a string. -/
def toBlocks (n : Nat) : Nat → List UInt8 → List (Block n)
  | 0, _ => []
  | count + 1, bs =>
      if h : n ≤ bs.length then
        ⟨bs.take n, List.length_take_of_le h⟩ :: toBlocks n count (bs.drop n)
      else []

/-- The octets of a sequence of blocks. -/
def ofBlocks {n : Nat} (blocks : List (Block n)) : List UInt8 := blocks.flatMap Subtype.val

section blocks

variable {n : Nat}

@[simp] theorem ofBlocks_nil : ofBlocks ([] : List (Block n)) = [] := rfl

@[simp] theorem ofBlocks_cons (b : Block n) (bs : List (Block n)) :
    ofBlocks (b :: bs) = b.val ++ ofBlocks bs := rfl

theorem ofBlocks_append (as bs : List (Block n)) :
    ofBlocks (as ++ bs) = ofBlocks as ++ ofBlocks bs := List.flatMap_append

@[simp] theorem length_ofBlocks (blocks : List (Block n)) :
    (ofBlocks blocks).length = n * blocks.length := by
  induction blocks with
  | nil => simp
  | cons b bs ih =>
    rw [ofBlocks_cons, List.length_append, ih, b.property, List.length_cons, Nat.mul_succ]
    omega

theorem ofBlocks_toBlocks {count : Nat} {bs : List UInt8} (h : bs.length = n * count) :
    ofBlocks (toBlocks n count bs) = bs := by
  induction count generalizing bs with
  | zero =>
    rw [Nat.mul_zero] at h
    rw [List.length_eq_zero_iff.mp h]
    rfl
  | succ count ih =>
    rw [Nat.mul_succ] at h
    have hn : n ≤ bs.length := by omega
    have hdrop : (bs.drop n).length = n * count := by
      rw [List.length_drop]
      omega
    rw [toBlocks, dif_pos hn, ofBlocks_cons, ih hdrop]
    exact List.take_append_drop n bs

theorem toBlocks_ofBlocks (blocks : List (Block n)) (rest : List UInt8) :
    toBlocks n blocks.length (ofBlocks blocks ++ rest) = blocks := by
  induction blocks with
  | nil => rfl
  | cons b bs ih =>
    have hlen : n ≤ (b.val ++ (ofBlocks bs ++ rest)).length := by
      rw [List.length_append, b.property]
      omega
    rw [List.length_cons, ofBlocks_cons, List.append_assoc, toBlocks, dif_pos hlen]
    have hdrop : (b.val ++ (ofBlocks bs ++ rest)).drop n = ofBlocks bs ++ rest :=
      List.drop_left' b.property
    have htake : (b.val ++ (ofBlocks bs ++ rest)).take n = b.val :=
      List.take_left' b.property
    rw [hdrop, ih]
    congr 1
    exact Subtype.ext htake

theorem length_toBlocks {count : Nat} {bs : List UInt8} (h : n * count ≤ bs.length) :
    (toBlocks n count bs).length = count := by
  induction count generalizing bs with
  | zero => rfl
  | succ count ih =>
    rw [Nat.mul_succ] at h
    have hn : n ≤ bs.length := by omega
    rw [toBlocks, dif_pos hn, List.length_cons, ih]
    rw [List.length_drop]
    omega

/-- Only the octets of the blocks matter. -/
theorem toBlocks_take (count : Nat) (bs : List UInt8) :
    toBlocks n count (bs.take (n * count)) = toBlocks n count bs := by
  induction count generalizing bs with
  | zero => rfl
  | succ count ih =>
    unfold toBlocks
    have hiff : n ≤ (bs.take (n * (count + 1))).length ↔ n ≤ bs.length := by
      rw [List.length_take, Nat.mul_succ]
      omega
    by_cases h : n ≤ bs.length
    · have hmin : min n (n * (count + 1)) = n := by
        rw [Nat.mul_succ]
        omega
      have hsub : n * (count + 1) - n = n * count := by
        rw [Nat.mul_succ]
        omega
      rw [dif_pos h, dif_pos (hiff.mpr h), List.drop_take, hsub, ih]
      congr 1
      apply Subtype.ext
      show (bs.take (n * (count + 1))).take n = bs.take n
      rw [List.take_take, hmin]
    · rw [dif_neg h, dif_neg (fun hle => h (hiff.mp hle))]

end blocks

/-! ### Cipher block chaining -/

section cbc

variable {B : Type} [XorOp B]

/-- CBC encryption under the permutation `E`. -/
def cbcEncrypt (E : Equiv.Perm B) : B → List B → List B
  | _, [] => []
  | iv, p :: ps => E (p ^^^ iv) :: cbcEncrypt E (E (p ^^^ iv)) ps

/-- CBC decryption under the permutation `E`. -/
def cbcDecrypt (E : Equiv.Perm B) : B → List B → List B
  | _, [] => []
  | iv, c :: cs => (E.symm c ^^^ iv) :: cbcDecrypt E c cs

/-- The CBC-MAC: the chaining value after the last block. -/
def cbcMac (E : Equiv.Perm B) (iv : B) (ps : List B) : B :=
  ps.foldl (fun chain p => E (p ^^^ chain)) iv

/-- MAC Algorithm 3 of ISO/IEC 9797-1: a CBC-MAC over all blocks but the last,
    and the last block through a second permutation. -/
def retailMac (E F : Equiv.Perm B) : B → List B → B
  | iv, [] => iv
  | iv, [p] => F (p ^^^ iv)
  | iv, p :: ps => retailMac E F (E (p ^^^ iv)) ps

@[simp] theorem length_cbcEncrypt (E : Equiv.Perm B) (iv : B) (ps : List B) :
    (cbcEncrypt E iv ps).length = ps.length := by
  induction ps generalizing iv with
  | nil => rfl
  | cons p ps ih => simp [cbcEncrypt, ih]

theorem retailMac_concat (E F : Equiv.Perm B) (iv : B) (ps : List B) (last : B) :
    retailMac E F iv (ps ++ [last]) = F (last ^^^ cbcMac E iv ps) := by
  induction ps generalizing iv with
  | nil => rfl
  | cons p ps ih =>
    have hne : ps ++ [last] ≠ [] := by simp
    obtain ⟨q, qs, hqs⟩ := List.exists_cons_of_ne_nil hne
    have hstep : retailMac E F iv (p :: (ps ++ [last])) =
        retailMac E F (E (p ^^^ iv)) (ps ++ [last]) := by
      rw [hqs]
      rfl
    rw [List.cons_append, hstep, ih]
    rfl

/-- A last permutation that goes through the first one is a transformation of
    the CBC-MAC. -/
theorem retailMac_trans (E G : Equiv.Perm B) (iv : B) (ps : List B) (last : B) :
    retailMac E (E.trans G) iv (ps ++ [last]) = G (cbcMac E iv (ps ++ [last])) := by
  rw [retailMac_concat, cbcMac, cbcMac, List.foldl_append]
  rfl

theorem cbcDecrypt_cbcEncrypt (hxor : ∀ a b : B, a ^^^ b ^^^ b = a) (E : Equiv.Perm B)
    (iv : B) (ps : List B) : cbcDecrypt E iv (cbcEncrypt E iv ps) = ps := by
  induction ps generalizing iv with
  | nil => rfl
  | cons p ps ih => simp [cbcEncrypt, cbcDecrypt, hxor, ih]

/-- The last ciphertext block is the CBC-MAC. -/
theorem cbcEncrypt_concat (E : Equiv.Perm B) (iv : B) (ps : List B) (p : B) :
    cbcEncrypt E iv (ps ++ [p]) = cbcEncrypt E iv ps ++ [cbcMac E iv (ps ++ [p])] := by
  induction ps generalizing iv with
  | nil => rfl
  | cons q ps ih =>
    simp only [List.cons_append, cbcEncrypt, ih]
    rfl

end cbc

/-! ### CBC over octet strings -/

section octets

variable {n : Nat}

/-- CBC encryption of the blocks of a string. -/
def encryptOctets (E : Equiv.Perm (Block n)) (iv : Block n) (msg : List UInt8) : List UInt8 :=
  ofBlocks (cbcEncrypt E iv (toBlocks n (msg.length / n) msg))

/-- CBC decryption of the blocks of a string. -/
def decryptOctets (E : Equiv.Perm (Block n)) (iv : Block n) (msg : List UInt8) : List UInt8 :=
  ofBlocks (cbcDecrypt E iv (toBlocks n (msg.length / n) msg))

theorem length_encryptOctets (E : Equiv.Perm (Block n)) (iv : Block n) {msg : List UInt8}
    (h : n ∣ msg.length) : (encryptOctets E iv msg).length = msg.length := by
  rw [encryptOctets, length_ofBlocks, length_cbcEncrypt, length_toBlocks]
  · exact Nat.mul_div_cancel' h
  · exact Nat.mul_div_le ..

theorem decryptOctets_encryptOctets (E : Equiv.Perm (Block n)) (iv : Block n)
    {msg : List UInt8} (h : n ∣ msg.length) :
    decryptOctets E iv (encryptOctets E iv msg) = msg := by
  have hlen : (cbcEncrypt E iv (toBlocks n (msg.length / n) msg)).length = msg.length / n := by
    rw [length_cbcEncrypt, length_toBlocks (Nat.mul_div_le ..)]
  have hblocks := toBlocks_ofBlocks (cbcEncrypt E iv (toBlocks n (msg.length / n) msg)) []
  rw [hlen, List.append_nil] at hblocks
  rw [decryptOctets, length_encryptOctets E iv h, encryptOctets, hblocks,
    cbcDecrypt_cbcEncrypt Block.xor_xor_cancel, ofBlocks_toBlocks]
  exact (Nat.mul_div_cancel' h).symm

/-- ECB encryption of the blocks of a string. -/
def ecbEncryptOctets (E : Equiv.Perm (Block n)) (msg : List UInt8) : List UInt8 :=
  ofBlocks ((toBlocks n (msg.length / n) msg).map E)

theorem length_ecbEncryptOctets (E : Equiv.Perm (Block n)) {msg : List UInt8}
    (h : n ∣ msg.length) : (ecbEncryptOctets E msg).length = msg.length := by
  rw [ecbEncryptOctets, length_ofBlocks, List.length_map, length_toBlocks]
  · exact Nat.mul_div_cancel' h
  · exact Nat.mul_div_le ..

/-- ECB under the inverse permutation is decryption. -/
theorem ecbEncryptOctets_symm (E : Equiv.Perm (Block n)) {msg : List UInt8}
    (h : n ∣ msg.length) : ecbEncryptOctets E.symm (ecbEncryptOctets E msg) = msg := by
  have hblocks := toBlocks_ofBlocks ((toBlocks n (msg.length / n) msg).map E) []
  rw [List.length_map, length_toBlocks (Nat.mul_div_le ..), List.append_nil] at hblocks
  rw [ecbEncryptOctets, length_ecbEncryptOctets E h, ecbEncryptOctets, hblocks, List.map_map,
    E.symm_comp_self, List.map_id, ofBlocks_toBlocks]
  exact (Nat.mul_div_cancel' h).symm

end octets

/-! ### ISO/IEC 7816-4 padding -/

/-- Append `80` and zeros up to the next multiple of `n` octets; at least the
    `80` is always added. -/
def pad (n : Nat) (msg : List UInt8) : List UInt8 :=
  msg ++ 0x80 :: List.replicate (n - msg.length % n - 1) 0

/-- Strip the zeros and the `80` before them, when it is there. -/
def unpad (msg : List UInt8) : Option (List UInt8) :=
  match msg.reverse.dropWhile (· = 0) with
  | [] => none
  | b :: bs => if b = 0x80 then some bs.reverse else none

section padding

variable {n : Nat}

theorem length_pad (hn : 0 < n) (msg : List UInt8) :
    (pad n msg).length = msg.length + (n - msg.length % n) := by
  have := Nat.mod_lt msg.length hn
  simp only [pad, List.length_append, List.length_cons, List.length_replicate]
  omega

theorem dvd_length_pad (hn : 0 < n) (msg : List UInt8) : n ∣ (pad n msg).length := by
  have hlt := Nat.mod_lt msg.length hn
  have hdiv := Nat.div_add_mod msg.length n
  rw [length_pad hn]
  refine ⟨msg.length / n + 1, ?_⟩
  rw [Nat.mul_succ]
  omega

/-- Stripping goes by the last octet. -/
theorem unpad_concat (msg : List UInt8) (b : UInt8) :
    unpad (msg ++ [b]) = if b = 0 then unpad msg else if b = 0x80 then some msg else none := by
  unfold unpad
  rw [List.reverse_concat]
  by_cases h0 : b = 0
  · rw [if_pos h0, List.dropWhile_cons_of_pos (by simpa using h0)]
  · rw [if_neg h0, List.dropWhile_cons_of_neg (by simpa using h0)]
    simp

/-- What is left after stripping is the front of the string. -/
theorem take_of_unpad {buf msg : List UInt8} (h : unpad buf = some msg) :
    buf.take msg.length = msg := by
  induction buf using List.reverseRecOn with
  | nil => cases h
  | append_singleton bs b ih =>
    rw [unpad_concat] at h
    split at h
    · have hmsg := ih h
      have hlen : msg.length ≤ bs.length := by
        rw [← hmsg]
        exact List.length_take_le' ..
      rw [List.take_append_of_le_length hlen, hmsg]
    · split at h
      · obtain rfl := Option.some.inj h
        rw [List.take_left]
      · cases h

theorem unpad_pad (n : Nat) (msg : List UInt8) : unpad (pad n msg) = some msg := by
  have hrev : (pad n msg).reverse =
      List.replicate (n - msg.length % n - 1) 0 ++ 0x80 :: msg.reverse := by
    simp [pad]
  have hdrop : ∀ k : Nat, (List.replicate k (0 : UInt8) ++ 0x80 :: msg.reverse).dropWhile
      (· = 0) = 0x80 :: msg.reverse := by
    intro k
    induction k with
    | zero => rfl
    | succ k ih => simp [List.replicate_succ, ih]
  rw [unpad, hrev, hdrop]
  simp

/-- The blocks of the padded string. -/
def padBlocks (n : Nat) (msg : List UInt8) : List (Block n) :=
  toBlocks n ((pad n msg).length / n) (pad n msg)

theorem ofBlocks_padBlocks (hn : 0 < n) (msg : List UInt8) :
    ofBlocks (padBlocks n msg) = pad n msg :=
  ofBlocks_toBlocks (Nat.mul_div_cancel' (dvd_length_pad hn msg)).symm

/-- There is always a last block. -/
theorem padBlocks_eq_concat (hn : 0 < n) (msg : List UInt8) :
    ∃ ps last, padBlocks n msg = ps ++ [last] := by
  rcases List.eq_nil_or_concat (padBlocks n msg) with h | ⟨ps, last, h⟩
  · have := ofBlocks_padBlocks hn msg
    rw [h, ofBlocks_nil, pad] at this
    simp at this
  · exact ⟨ps, last, by rw [h, List.concat_eq_append]⟩

end padding

end BlockMode

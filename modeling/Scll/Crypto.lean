import Scll.Framework.Octets
import Scll.Framework.BlockMode
import Scll.Error

/-! # Primitive crypto

    The helpers the SCP flows rest on: AES-CMAC, AES-CBC, single-block ECB, the
    counter-mode KDF, ISO/IEC 7816-4 padding in a scratch buffer, 3DES-EDE2 and
    the Retail MAC. The block ciphers themselves are parameters: a permutation
    of the blocks for each key, so that decryption inverts encryption by type.

    The buffers are the source's own: a function that encrypts `msg_len` octets
    at the front of `buf` in place returns the whole buffer, stale tail
    included.
-/

namespace Scll

open Octets BlockMode

/-- What the backend takes from the cipher crates. -/
structure Primitives where
  /-- AES under a key of 16, 24 or 32 octets. -/
  aes : List UInt8 → Equiv.Perm (Block 16)
  /-- AES-CMAC. -/
  aesCmac : List UInt8 → List UInt8 → Block 16
  /-- Single DES under a key of 8 octets. -/
  des : List UInt8 → Equiv.Perm (Block 8)

/-- Two-key triple DES, `E_K1 ∘ D_K2 ∘ E_K1`. -/
def Primitives.tdesEde2 (P : Primitives) (key : List UInt8) : Equiv.Perm (Block 8) :=
  ((P.des (key.take 8)).trans (P.des (key.drop 8)).symm).trans (P.des (key.take 8))

/-- Exclusive-or with the key in place of the block ciphers and a CBC-MAC over it
    in place of the CMAC, to run the model on concrete inputs. -/
def Primitives.xorCipher : Primitives where
  aes key := Block.xorPerm (Block.ofOctets 16 key)
  aesCmac key data :=
    cbcMac (Block.xorPerm (Block.ofOctets 16 key)) (Block.zero 16) (padBlocks 16 data)
  des key := Block.xorPerm (Block.ofOctets 8 key)

/-- AES block size, also the CMAC tag and MAC-chaining length. -/
def BLOCK : ℕ := 16
/-- DES / 3DES block size. -/
def DES_BLOCK : ℕ := 8

/-- The key lengths AES has. -/
def IsAesLength (n : ℕ) : Prop := n = 16 ∨ n = 24 ∨ n = 32

instance (n : ℕ) : Decidable (IsAesLength n) :=
  inferInstanceAs (Decidable (n = 16 ∨ n = 24 ∨ n = 32))

/-- An AES key. -/
abbrev AesKey := { k : List UInt8 // IsAesLength k.length }

/-- A two-key triple-DES key. -/
abbrev TdesKey := Block 16

/-- A key to run the model with, for either cipher. -/
def AesKey.sample : AesKey := ⟨List.replicate 16 0x40, by decide⟩
def TdesKey.sample : TdesKey := ⟨List.replicate 16 0x40, by decide⟩

section primitives

variable (P : Primitives)

/-- Dispatch over the three AES key lengths. -/
def perAes {α : Type} (key : List UInt8) (body : Except BackendError α) :
    Except BackendError α :=
  if IsAesLength key.length then body else .error (cryptoErr "unsupported AES key length")

@[simp] theorem perAes_key {α : Type} (key : AesKey) (body : Except BackendError α) :
    perAes key.val body = body := if_pos key.property

/-- AES-CMAC over `data`. -/
def aesCmac (key data : List UInt8) : Except BackendError (Block 16) :=
  perAes key (.ok (P.aesCmac key data))

/-! ### CBC in place -/

/-- Encrypt the `msgLen` octets at the front of `buf` in place, no padding. -/
def encryptPaddedMut {n : ℕ} (E : Equiv.Perm (Block n)) (iv : Block n) (buf : List UInt8)
    (msgLen : ℕ) : Option (List UInt8 × ℕ) :=
  if buf.length < msgLen ∨ msgLen % n ≠ 0 then none
  else
    let ct := cbcEncrypt E iv (toBlocks n (msgLen / n) buf)
    some (overwrite buf 0 (ofBlocks ct), msgLen)

/-- Decrypt the whole `buf` in place, no padding. -/
def decryptPaddedMut {n : ℕ} (E : Equiv.Perm (Block n)) (iv : Block n) (buf : List UInt8) :
    Option (List UInt8 × ℕ) :=
  if buf.length % n ≠ 0 then none
  else some (ofBlocks (cbcDecrypt E iv (toBlocks n (buf.length / n) buf)), buf.length)

def aesCbcEncrypt (key : List UInt8) (iv : Block 16) (buf : List UInt8) (msgLen : ℕ) :
    Except BackendError (List UInt8 × ℕ) :=
  perAes key (okOr (encryptPaddedMut (P.aes key) iv buf msgLen) (cryptoErr "cbc encrypt"))

def aesCbcDecrypt (key : List UInt8) (iv : Block 16) (buf : List UInt8) :
    Except BackendError (List UInt8 × ℕ) :=
  perAes key (okOr (decryptPaddedMut (P.aes key) iv buf) (cryptoErr "cbc decrypt"))

/-- Single-block AES-ECB, as CBC of one block with a zero IV. -/
def aesEcbBlock (key : List UInt8) (blockIn : Block 16) : Except BackendError (Block 16) := do
  let (buf, _) ← aesCbcEncrypt P key (Block.zero 16) blockIn.val BLOCK
  .ok (Block.ofOctets 16 buf)

def tdesCbcEncrypt (key : List UInt8) (iv : Block 8) (buf : List UInt8) (msgLen : ℕ) :
    Except BackendError (List UInt8 × ℕ) :=
  if key.length ≠ 16 then .error (cryptoErr "3des cbc key/iv")
  else okOr (encryptPaddedMut (P.tdesEde2 key) iv buf msgLen) (cryptoErr "3des cbc encrypt")

/-- Single-DES-CBC under the 8-octet key `k1`. -/
def desCbcEncrypt (k1 : List UInt8) (iv : Block 8) (buf : List UInt8) (msgLen : ℕ) :
    Except BackendError (List UInt8 × ℕ) :=
  if k1.length ≠ 8 then .error (cryptoErr "des cbc key/iv")
  else okOr (encryptPaddedMut (P.des k1) iv buf msgLen) (cryptoErr "des cbc encrypt")

def tdesEcbBlock (key : List UInt8) (blockIn : Block 8) : Except BackendError (Block 8) := do
  let (buf, _) ← tdesCbcEncrypt P key (Block.zero 8) blockIn.val DES_BLOCK
  .ok (Block.ofOctets 8 buf)

def desEcbBlock (k1 : List UInt8) (blockIn : Block 8) : Except BackendError (Block 8) := do
  let (buf, _) ← desCbcEncrypt P k1 (Block.zero 8) blockIn.val DES_BLOCK
  .ok (Block.ofOctets 8 buf)

/-! ### Padding in place -/

/-- Pad the `len` octets at the front of `buf` up to a multiple of `block`. -/
def padTo (block : ℕ) (overflow : String) (buf : List UInt8) (len : ℕ) :
    Except BackendError (List UInt8 × ℕ) :=
  let padded := len + (block - len % block)
  if padded > buf.length then .error (cryptoErr overflow)
  else
    let buf := overwrite buf len [0x80]
    .ok (overwrite buf (len + 1) (List.replicate (padded - (len + 1)) 0), padded)

/-- ISO/IEC 7816-4 padding to the AES block. -/
def pad80 : List UInt8 → ℕ → Except BackendError (List UInt8 × ℕ) :=
  padTo BLOCK "pad overflow"

/-- ISO/IEC 7816-4 padding to the DES block. -/
def pad80_8 : List UInt8 → ℕ → Except BackendError (List UInt8 × ℕ) :=
  padTo DES_BLOCK "3des pad overflow"

/-- The loop of `unpad80`, over the octets before position `i`. -/
def unpad80From (buf : List UInt8) : ℕ → Except BackendError ℕ
  | 0 => .error (cryptoErr "bad pad")
  | i + 1 =>
      match buf.getD i 0 with
      | 0x00 => unpad80From buf i
      | 0x80 => .ok i
      | _ => .error (cryptoErr "bad pad")

/-- Strip ISO/IEC 7816-4 padding: the length before the trailing `80`. -/
def unpad80 (buf : List UInt8) : Except BackendError ℕ := unpad80From buf buf.length

/-! ### Key derivation -/

/-- One input block of the KDF: label, `00`, `L`, counter and context. -/
def kdfBlock (constant : UInt8) (lBits : UInt16) (counter : UInt8) (context : List UInt8) :
    Except BackendError (List UInt8) := do
  let block ← extend 64 (cryptoErr "kdf overflow") [] (List.replicate 11 0)
  let block ← extend 64 (cryptoErr "kdf overflow") block
    ([constant, 0x00] ++ writeBE 2 lBits.toNat ++ [counter])
  extend 64 (cryptoErr "kdf overflow") block context

/-- The KDF loop: `want` octets are still to be written. -/
def kdfFrom (key : List UInt8) (constant : UInt8) (lBits : UInt16) (context : List UInt8)
    (counter : UInt8) (want : ℕ) : Except BackendError (List UInt8) :=
  if h : want = 0 then .ok []
  else do
    let block ← kdfBlock constant lBits counter context
    let tag ← aesCmac P key block
    let take := min BLOCK want
    have : want - take < want := by
      have : take = min 16 want := rfl
      omega
    let rest ← kdfFrom key constant lBits context (counter + 1) (want - take)
    .ok (tag.val.take take ++ rest)
  termination_by want

/-- The counter-mode KDF with an AES-CMAC PRF, filling `outLen` octets. -/
def kdf (key : List UInt8) (constant : UInt8) (lBits : UInt16) (context : List UInt8)
    (outLen : ℕ) : Except BackendError (List UInt8) :=
  kdfFrom P key constant lBits context 1 outLen

/-! ### MACs -/

/-- Full 3DES-CBC MAC in the caller's scratch buffer. -/
def tdesMac (key : List UInt8) (iv : Block 8) (data scratch : List UInt8) :
    Except BackendError (Block 8) :=
  if data.length > scratch.length then .error (cryptoErr "mac input too large")
  else do
    let scratch := overwrite scratch 0 data
    let (scratch, padded) ← pad80_8 scratch data.length
    let (scratch, n) ← tdesCbcEncrypt P key iv scratch padded
    .ok (Block.ofOctets 8 ((scratch.take n).drop (n - DES_BLOCK)))

/-- The Retail MAC in the caller's scratch buffer. -/
def retailMac (key16 : List UInt8) (iv : Block 8) (data scratch : List UInt8) :
    Except BackendError (Block 8) :=
  if data.length > scratch.length then .error (cryptoErr "retail-mac input too large")
  else do
    let scratch := overwrite scratch 0 data
    let (scratch, padded) ← pad80_8 scratch data.length
    let (scratch, chain) ←
      if padded > DES_BLOCK then do
        -- single-DES CBC over all but the last block
        let head := padded - DES_BLOCK
        let (front, n) ← desCbcEncrypt P (key16.take DES_BLOCK) iv (scratch.take head) head
        .ok (front ++ scratch.drop head,
          Block.ofOctets 8 ((front.take n).drop (n - DES_BLOCK)))
      else .ok (scratch, iv)
    let last := (scratch.take padded).drop (padded - DES_BLOCK)
    let (last, _) ← tdesCbcEncrypt P key16 chain last DES_BLOCK
    .ok (Block.ofOctets 8 last)

/-- Equality of octet strings that folds all octets before deciding. -/
def ctEq (a b : List UInt8) : Bool :=
  if a.length ≠ b.length then false
  else (List.zipWith (· ^^^ ·) a b).foldl (· ||| ·) 0 = 0

end primitives

end Scll

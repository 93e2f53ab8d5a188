import Mathlib.Data.List.Induction
import Mathlib.Tactic.Ring

/-! # Octet strings

    Big-endian numbers over octets, the significant octets of a number, and
    writes into a fixed buffer. Nothing here knows about cards: the TLV codec,
    the command counter of a secure channel and the ZIP reader all rest on it.
-/

namespace Octets

/-! ### Big-endian numbers -/

/-- The number a big-endian octet string stands for. -/
def readBE (bs : List UInt8) : Nat :=
  bs.foldl (fun acc b => acc * 256 + b.toNat) 0

/-- `n` as exactly `w` big-endian octets, truncated to the low `8 * w` bits. -/
def writeBE : Nat → Nat → List UInt8
  | 0, _ => []
  | w + 1, n => writeBE w (n / 256) ++ [UInt8.ofNat n]

@[simp] theorem readBE_nil : readBE [] = 0 := rfl

@[simp] theorem readBE_concat (bs : List UInt8) (b : UInt8) :
    readBE (bs ++ [b]) = readBE bs * 256 + b.toNat := by
  simp [readBE, List.foldl_append]

@[simp] theorem readBE_singleton (b : UInt8) : readBE [b] = b.toNat := by
  simp [readBE]

theorem readBE_foldl (bs : List UInt8) (acc : Nat) :
    bs.foldl (fun acc b => acc * 256 + b.toNat) acc = acc * 256 ^ bs.length + readBE bs := by
  induction bs using List.reverseRecOn with
  | nil => simp
  | append_singleton bs b ih =>
    rw [List.foldl_append, ih, readBE_concat]
    simp only [List.foldl_cons, List.foldl_nil, List.length_append, List.length_singleton]
    ring

theorem readBE_cons (b : UInt8) (bs : List UInt8) :
    readBE (b :: bs) = b.toNat * 256 ^ bs.length + readBE bs := by
  have h := readBE_foldl bs b.toNat
  simpa [readBE] using h

@[simp] theorem length_writeBE (w n : Nat) : (writeBE w n).length = w := by
  induction w generalizing n with
  | zero => rfl
  | succ w ih => simp [writeBE, ih]

theorem readBE_lt (bs : List UInt8) : readBE bs < 256 ^ bs.length := by
  induction bs using List.reverseRecOn with
  | nil => simp
  | append_singleton bs b ih =>
    have hb := b.toNat_lt
    rw [readBE_concat, List.length_append, List.length_singleton, Nat.pow_succ]
    omega

theorem readBE_writeBE (w n : Nat) (h : n < 256 ^ w) : readBE (writeBE w n) = n := by
  induction w generalizing n with
  | zero =>
    have : n = 0 := by simpa using h
    simp [writeBE, this]
  | succ w ih =>
    have hdiv : n / 256 < 256 ^ w := by
      apply Nat.div_lt_of_lt_mul
      rw [Nat.pow_succ] at h
      omega
    rw [writeBE, readBE_concat, ih _ hdiv, UInt8.toNat_ofNat']
    omega

theorem writeBE_readBE (bs : List UInt8) : writeBE bs.length (readBE bs) = bs := by
  induction bs using List.reverseRecOn with
  | nil => rfl
  | append_singleton bs b ih =>
    have hb := b.toNat_lt
    have hdiv : (readBE bs * 256 + b.toNat) / 256 = readBE bs := by omega
    have hlast : UInt8.ofNat (readBE bs * 256 + b.toNat) = b := by
      apply UInt8.toNat_inj.mp
      rw [UInt8.toNat_ofNat']
      omega
    rw [List.length_append, List.length_singleton, readBE_concat, writeBE, hdiv, ih, hlast]

theorem writeBE_inj {w m n : Nat} (hm : m < 256 ^ w) (hn : n < 256 ^ w)
    (h : writeBE w m = writeBE w n) : m = n := by
  rw [← readBE_writeBE w m hm, ← readBE_writeBE w n hn, h]

/-- Leading zero octets do not change the number. -/
theorem readBE_replicate_zero_append (k : Nat) (bs : List UInt8) :
    readBE (List.replicate k 0 ++ bs) = readBE bs := by
  induction k with
  | zero => rfl
  | succ k ih =>
    rw [List.replicate_succ, List.cons_append, readBE_cons, ih]
    simp

/-- Writing a number wider than its octets pads with zero octets on the left. -/
theorem writeBE_readBE_of_le {w : Nat} (bs : List UInt8) (h : bs.length ≤ w) :
    writeBE w (readBE bs) = List.replicate (w - bs.length) 0 ++ bs := by
  have hlen : (List.replicate (w - bs.length) (0 : UInt8) ++ bs).length = w := by
    simp only [List.length_append, List.length_replicate]
    omega
  have := writeBE_readBE (List.replicate (w - bs.length) 0 ++ bs)
  rwa [hlen, readBE_replicate_zero_append] at this

/-! ### Significant octets -/

/-- Drop leading zero octets, keeping the last octet of an all-zero string. -/
def significant (bs : List UInt8) : List UInt8 :=
  bs.drop ((bs.findIdx? (· ≠ 0)).getD (bs.length - 1))

theorem significant_replicate_append (k : Nat) (b : UInt8) (bs : List UInt8) (hb : b ≠ 0) :
    significant (List.replicate k 0 ++ b :: bs) = b :: bs := by
  have hidx : (List.replicate k 0 ++ b :: bs).findIdx? (· ≠ 0) = some k := by
    induction k with
    | zero => simp [List.findIdx?_cons, hb]
    | succ k ih => simpa [List.replicate_succ, List.findIdx?_cons] using ih
  rw [significant, hidx, Option.getD_some, List.drop_left' (List.length_replicate)]

theorem significant_replicate (k : Nat) (hk : 0 < k) :
    significant (List.replicate k 0) = [0] := by
  have hidx : (List.replicate k (0 : UInt8)).findIdx? (· ≠ 0) = none := by simp
  simp only [significant, hidx, Option.getD_none, List.length_replicate, List.drop_replicate]
  rw [show k - (k - 1) = 1 by omega]
  rfl

/-- The significant octets of a positive number: they stand for it, start with
    a non-zero octet, and fit the width it was written at. -/
theorem significant_writeBE {w n : Nat} (h0 : 0 < n) (h : n < 256 ^ w) :
    ∃ b bs, significant (writeBE w n) = b :: bs ∧ b ≠ 0 ∧
      readBE (b :: bs) = n ∧ bs.length < w := by
  have hread := readBE_writeBE w n h
  have hlen := length_writeBE w n
  -- split the leading zeros off; the rest is non-empty because `n` is not zero
  obtain ⟨k, tail, heq, htail⟩ : ∃ k tail, writeBE w n = List.replicate k 0 ++ tail ∧
      ∀ b bs, tail = b :: bs → b ≠ 0 := by
    clear hread hlen
    induction writeBE w n with
    | nil => exact ⟨0, [], rfl, by simp⟩
    | cons b bs ih =>
      by_cases hb : b = 0
      · obtain ⟨k, tail, heq, htail⟩ := ih
        exact ⟨k + 1, tail, by rw [heq, hb, List.replicate_succ, List.cons_append], htail⟩
      · refine ⟨0, b :: bs, rfl, ?_⟩
        rintro b' bs' h
        injection h with h₁ _
        exact h₁ ▸ hb
  cases tail with
  | nil =>
    rw [heq, readBE_replicate_zero_append, readBE_nil] at hread
    omega
  | cons b bs =>
    have hb := htail b bs rfl
    refine ⟨b, bs, ?_, hb, ?_, ?_⟩
    · rw [heq, significant_replicate_append k b bs hb]
    · rwa [heq, readBE_replicate_zero_append] at hread
    · rw [heq, List.length_append, List.length_cons] at hlen
      omega

/-- No octet string for a positive number is shorter than its significant octets. -/
theorem length_le_of_readBE_eq {b : UInt8} {bs cs : List UInt8} (hb : b ≠ 0)
    (h : readBE cs = readBE (b :: bs)) : (b :: bs).length ≤ cs.length := by
  have hpos : 0 < b.toNat := by
    rcases Nat.eq_zero_or_pos b.toNat with hz | hp
    · exact absurd (UInt8.toNat_inj.mp hz) hb
    · exact hp
  have hge : 256 ^ bs.length ≤ readBE (b :: bs) := by
    rw [readBE_cons]
    have := Nat.le_mul_of_pos_left (256 ^ bs.length) hpos
    omega
  have hlt := readBE_lt cs
  have hpow : 256 ^ bs.length < 256 ^ cs.length := by omega
  have hlen := (Nat.pow_lt_pow_iff_right (by decide : 1 < 256)).mp hpow
  simp only [List.length_cons]
  omega

/-! ### Writes into a fixed buffer -/

/-- Copy `src` into `buf` at offset `pos`, as `copy_from_slice` does. -/
def overwrite (buf : List UInt8) (pos : Nat) (src : List UInt8) : List UInt8 :=
  buf.take pos ++ src ++ buf.drop (pos + src.length)

@[simp] theorem length_overwrite {buf : List UInt8} {pos : Nat} {src : List UInt8}
    (h : pos + src.length ≤ buf.length) : (overwrite buf pos src).length = buf.length := by
  simp only [overwrite, List.length_append, List.length_take, List.length_drop]
  omega

/-- What stands before the end of a write is the old prefix and the new octets. -/
theorem take_overwrite {buf : List UInt8} {pos : Nat} {src : List UInt8}
    (h : pos + src.length ≤ buf.length) :
    (overwrite buf pos src).take (pos + src.length) = buf.take pos ++ src := by
  have hlen : (buf.take pos ++ src).length = pos + src.length := by
    simp only [List.length_append, List.length_take]
    omega
  rw [overwrite, ← hlen, List.take_left]

/-- What was written at the front of a buffer is read back. -/
theorem take_overwrite_front (buf src : List UInt8) :
    (overwrite buf 0 src).take src.length = src := by
  simp [overwrite]

/-- Octets from the end of a write on are untouched. -/
theorem drop_overwrite {buf : List UInt8} {pos : Nat} {src : List UInt8}
    (h : pos + src.length ≤ buf.length) :
    (overwrite buf pos src).drop (pos + src.length) = buf.drop (pos + src.length) := by
  have hlen : (buf.take pos ++ src).length = pos + src.length := by
    simp only [List.length_append, List.length_take]
    omega
  rw [overwrite, ← hlen, List.drop_left]

/-- What a write puts where it writes, and what it leaves alone. -/
theorem getElem?_overwrite {buf : List UInt8} {pos : Nat} {src : List UInt8}
    (h : pos + src.length ≤ buf.length) (i : Nat) :
    (overwrite buf pos src)[i]? =
      if i < pos then buf[i]? else if i < pos + src.length then src[i - pos]? else buf[i]? := by
  have hpos : (buf.take pos).length = pos := by
    rw [List.length_take]
    omega
  unfold overwrite
  by_cases hbefore : i < pos
  · rw [if_pos hbefore, List.append_assoc, List.getElem?_append_left (by omega),
      List.getElem?_take_of_lt hbefore]
  · rw [if_neg hbefore]
    by_cases hwithin : i < pos + src.length
    · rw [if_pos hwithin, List.append_assoc, List.getElem?_append_right (by omega),
        List.getElem?_append_left (by omega), hpos]
    · rw [if_neg hwithin, List.getElem?_append_right (by simp only [List.length_append]; omega),
        List.getElem?_drop]
      congr 1
      simp only [List.length_append]
      omega

/-- Two adjacent writes are one write. -/
theorem overwrite_overwrite {buf : List UInt8} {pos : Nat} {as bs : List UInt8}
    (h : pos + as.length ≤ buf.length) :
    overwrite (overwrite buf pos as) (pos + as.length) bs = overwrite buf pos (as ++ bs) := by
  have hdrop : (overwrite buf pos as).drop (pos + as.length + bs.length) =
      buf.drop (pos + as.length + bs.length) := by
    rw [← List.drop_drop, drop_overwrite h, List.drop_drop]
  show (overwrite buf pos as).take _ ++ bs ++ (overwrite buf pos as).drop _ = _
  rw [take_overwrite h, hdrop, overwrite, List.length_append]
  simp only [List.append_assoc, Nat.add_assoc]

end Octets

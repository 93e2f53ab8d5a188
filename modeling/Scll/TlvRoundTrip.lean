import Scll.Tlv

/-! # The BER-TLV round trip

    What the parser accepts and what the encoder writes, both stated over the
    three octet strings an object consists of: identifier, length and value.
    `parseTag_iff`, `parseLen_iff` and `parseObject_iff` say exactly which
    inputs are accepted, `encode_eq` says exactly what is written, and the
    round trip in either direction follows.
-/

namespace Scll.Tlv

open Octets Sequence

/-! ### Single octets -/

theorem and_more_eq_zero (b : UInt8) : b &&& TAG_MORE = 0 ↔ b.toNat < 128 := by
  have h : ∀ n : Fin 256, UInt8.ofFin n &&& TAG_MORE = 0 ↔ n.val < 128 := by
    decide +kernel
  exact h b.toFin

theorem and_long_eq_zero (b : UInt8) : b &&& LEN_LONG = 0 ↔ b.toNat < 128 :=
  and_more_eq_zero b

theorem and_not_long (b : UInt8) (h : 128 ≤ b.toNat) :
    (b &&& ~~~LEN_LONG).toNat = b.toNat - 128 := by
  have h' : ∀ n : Fin 256, 128 ≤ n.val →
      (UInt8.ofFin n &&& ~~~LEN_LONG).toNat = n.val - 128 := by decide +kernel
  exact h' b.toFin h

theorem long_or (n : ℕ) (h : n < 128) : LEN_LONG ||| UInt8.ofNat n = UInt8.ofNat (128 + n) := by
  have h' : ∀ n : Fin 128, LEN_LONG ||| UInt8.ofNat n.val = UInt8.ofNat (128 + n.val) := by
    decide +kernel
  exact h' ⟨n, h⟩

theorem shift_or_u32 (a : UInt32) (b : UInt8) (h : a.toNat < 2 ^ 24) :
    ((a <<< 8) ||| b.toUInt32).toNat = a.toNat * 256 + b.toNat := by
  have hb := b.toNat_lt
  have hshift : (a <<< 8).toNat = a.toNat <<< 8 := by
    rw [UInt32.toNat_shiftLeft, Nat.mod_eq_of_lt]
    · rfl
    · show a.toNat <<< 8 < _
      rw [Nat.shiftLeft_eq]
      omega
  rw [UInt32.toNat_or, hshift, UInt8.toNat_toUInt32,
    ← Nat.shiftLeft_add_eq_or_of_lt (by omega), Nat.shiftLeft_eq]

theorem shift_or_u64 (a : UInt64) (b : UInt8) (h : a.toNat < 2 ^ 56) :
    ((a <<< 8) ||| b.toUInt64).toNat = a.toNat * 256 + b.toNat := by
  have hb := b.toNat_lt
  have hshift : (a <<< 8).toNat = a.toNat <<< 8 := by
    rw [UInt64.toNat_shiftLeft, Nat.mod_eq_of_lt]
    · rfl
    · show a.toNat <<< 8 < _
      rw [Nat.shiftLeft_eq]
      omega
  rw [UInt64.toNat_or, hshift, UInt8.toNat_toUInt64,
    ← Nat.shiftLeft_add_eq_or_of_lt (by omega), Nat.shiftLeft_eq]

/-! ### Identifiers -/

/-- The subsequent octets of an identifier: b8 is set in all but the last. -/
def IsContinuation : List UInt8 → Prop
  | [] => False
  | [b] => b &&& TAG_MORE = 0
  | b :: bs => b &&& TAG_MORE ≠ 0 ∧ IsContinuation bs

/-- A BER identifier of one to four octets. -/
def IsIdentifier : List UInt8 → Prop
  | [] => False
  | b0 :: bs =>
      if b0 &&& TAG_MULTIBYTE = TAG_MULTIBYTE then
        IsContinuation bs ∧ bs.length < TAG_MAX_OCTETS
      else bs = []

instance decidableIsContinuation : (bs : List UInt8) → Decidable (IsContinuation bs)
  | [] => isFalse id
  | [b] => inferInstanceAs (Decidable (b &&& TAG_MORE = 0))
  | b :: c :: cs =>
      have := decidableIsContinuation (c :: cs)
      inferInstanceAs (Decidable (b &&& TAG_MORE ≠ 0 ∧ IsContinuation (c :: cs)))

instance decidableIsIdentifier : (octets : List UInt8) → Decidable (IsIdentifier octets)
  | [] => isFalse id
  | b0 :: bs =>
      inferInstanceAs (Decidable (if b0 &&& TAG_MULTIBYTE = TAG_MULTIBYTE then
        IsContinuation bs ∧ bs.length < TAG_MAX_OCTETS else bs = []))

/-- A tag that stands for a BER identifier. -/
def WellFormedTag (tag : UInt32) : Prop :=
  ∃ octets, IsIdentifier octets ∧ readBE octets = tag.toNat

theorem isContinuation_cons {b : UInt8} {bs : List UInt8} :
    IsContinuation (b :: bs) ↔
      (b &&& TAG_MORE = 0 ∧ bs = []) ∨ (b &&& TAG_MORE ≠ 0 ∧ IsContinuation bs) := by
  cases bs with
  | nil => simp [IsContinuation]
  | cons c cs => simp [IsContinuation]

theorem parseTagMore_iff {room : ℕ} {acc tag : UInt32} {input rest : List UInt8}
    (hacc : acc.toNat < 256 ^ (4 - room)) (hroom : room < 4) :
    parseTagMore room acc input = .ok (tag, rest) ↔
      ∃ bs, IsContinuation bs ∧ bs.length ≤ room ∧ input = bs ++ rest ∧
        tag.toNat = acc.toNat * 256 ^ bs.length + readBE bs := by
  induction room generalizing acc input with
  | zero =>
    constructor
    · intro h
      cases input <;> simp [parseTagMore] at h
    · rintro ⟨bs, hbs, hlen, -, -⟩
      obtain rfl : bs = [] := List.length_eq_zero_iff.mp (by omega)
      exact hbs.elim
  | succ room ih =>
    cases input with
    | nil =>
      constructor
      · intro h
        simp [parseTagMore] at h
      · rintro ⟨bs, hbs, -, heq, -⟩
        obtain rfl : bs = [] := (List.append_eq_nil_iff.mp heq.symm).1
        exact hbs.elim
    | cons b input =>
      have hpow : 256 ^ (4 - (room + 1)) ≤ 2 ^ 24 := by
        have : 4 - (room + 1) ≤ 3 := by omega
        calc 256 ^ (4 - (room + 1)) ≤ 256 ^ 3 := Nat.pow_le_pow_right (by decide) this
          _ = 2 ^ 24 := by decide
      have hnext := shift_or_u32 acc b (by omega)
      have hb := b.toNat_lt
      have hacc' : ((acc <<< 8) ||| b.toUInt32).toNat < 256 ^ (4 - room) := by
        have : 4 - room = 4 - (room + 1) + 1 := by omega
        rw [hnext, this, Nat.pow_succ]
        omega
      simp only [parseTagMore]
      split
      · next hlast =>
        constructor
        · intro h
          obtain ⟨rfl, rfl⟩ := Prod.mk.inj (Except.ok.inj h)
          exact ⟨[b], hlast, by simp, rfl, by rw [hnext]; simp⟩
        · rintro ⟨bs, hbs, hlen, heq, htag⟩
          cases bs with
          | nil => exact hbs.elim
          | cons c cs =>
            obtain ⟨rfl, rfl⟩ := List.cons.inj heq
            obtain ⟨-, rfl⟩ | ⟨hmore, -⟩ := isContinuation_cons.mp hbs
            · have : (acc <<< 8) ||| b.toUInt32 = tag := by
                apply UInt32.toNat_inj.mp
                rw [hnext, htag]
                simp
              rw [this]
              rfl
            · exact absurd hlast hmore
      · next hmore =>
        rw [ih hacc' (by omega)]
        constructor
        · rintro ⟨bs, hbs, hlen, rfl, htag⟩
          refine ⟨b :: bs, isContinuation_cons.mpr (.inr ⟨hmore, hbs⟩), by simpa using hlen, rfl, ?_⟩
          rw [htag, hnext, readBE_cons, List.length_cons, Nat.pow_succ]
          ring
        · rintro ⟨bs, hbs, hlen, heq, htag⟩
          cases bs with
          | nil => exact hbs.elim
          | cons c cs =>
            obtain ⟨rfl, rfl⟩ := List.cons.inj heq
            obtain ⟨hlast, -⟩ | ⟨-, hcs⟩ := isContinuation_cons.mp hbs
            · exact absurd hlast hmore
            · refine ⟨cs, hcs, by simpa using hlen, rfl, ?_⟩
              rw [htag, hnext, readBE_cons, List.length_cons, Nat.pow_succ]
              ring

/-- The parser accepts exactly the identifiers, and returns their number. -/
theorem parseTag_iff {input rest : List UInt8} {tag : UInt32} :
    parseTag input = .ok (tag, rest) ↔
      ∃ octets, IsIdentifier octets ∧ input = octets ++ rest ∧ tag.toNat = readBE octets := by
  cases input with
  | nil =>
    constructor
    · intro h
      simp [parseTag] at h
    · rintro ⟨octets, hid, heq, -⟩
      obtain rfl : octets = [] := (List.append_eq_nil_iff.mp heq.symm).1
      exact hid.elim
  | cons b input =>
    have hb := b.toNat_lt
    simp only [parseTag]
    split
    -- all five low bits set: the tag goes on while the top bit of an octet is
    · next hmulti =>
      rw [parseTagMore_iff (by simpa [TAG_MAX_OCTETS] using hb) (by decide)]
      constructor
      · rintro ⟨bs, hbs, hlen, rfl, htag⟩
        refine ⟨b :: bs, ?_, rfl, by rw [htag, readBE_cons, UInt8.toNat_toUInt32]⟩
        simp only [IsIdentifier, if_pos hmulti, TAG_MAX_OCTETS] at hlen ⊢
        exact ⟨hbs, by omega⟩
      · rintro ⟨octets, hid, heq, htag⟩
        cases octets with
        | nil => exact hid.elim
        | cons c cs =>
          obtain ⟨rfl, rfl⟩ := List.cons.inj heq
          simp only [IsIdentifier, if_pos hmulti] at hid
          refine ⟨cs, hid.1, Nat.le_pred_of_lt hid.2, rfl, ?_⟩
          rw [htag, readBE_cons, UInt8.toNat_toUInt32]
    -- one octet, whatever follows
    · next hsingle =>
      constructor
      · intro h
        obtain ⟨rfl, rfl⟩ := Prod.mk.inj (Except.ok.inj h)
        exact ⟨[b], by simp [IsIdentifier, hsingle], rfl, by simp⟩
      · rintro ⟨octets, hid, heq, htag⟩
        cases octets with
        | nil => exact hid.elim
        | cons c cs =>
          obtain ⟨rfl, rfl⟩ := List.cons.inj heq
          simp only [IsIdentifier, if_neg hsingle] at hid
          subst hid
          have : b.toUInt32 = tag := by
            apply UInt32.toNat_inj.mp
            rw [htag]
            simp
          rw [this]
          rfl

theorem IsIdentifier.length_le {octets : List UInt8} (h : IsIdentifier octets) :
    octets.length ≤ 4 := by
  cases octets with
  | nil => exact h.elim
  | cons b bs =>
    simp only [IsIdentifier] at h
    split at h
    · have := h.2
      simp only [TAG_MAX_OCTETS] at this
      simp only [List.length_cons]
      omega
    · simp [h]

theorem IsIdentifier.ne_nil {octets : List UInt8} (h : IsIdentifier octets) : octets ≠ [] := by
  rintro rfl
  exact h

/-- The minimal octets of an identifier's number are the identifier: only the
    one-octet identifier `00` starts with a zero octet. -/
theorem significant_identifier {octets : List UInt8} (h : IsIdentifier octets) :
    significant (writeBE 4 (readBE octets)) = octets := by
  rw [writeBE_readBE_of_le octets h.length_le]
  cases octets with
  | nil => exact h.elim
  | cons b bs =>
    by_cases hb : b = 0
    · subst hb
      have : bs = [] := by
        have hsingle : ¬ ((0 : UInt8) &&& TAG_MULTIBYTE = TAG_MULTIBYTE) := by decide
        simpa only [IsIdentifier, if_neg hsingle] using h
      subst this
      exact significant_replicate 4 (by decide)
    · exact significant_replicate_append _ b bs hb

/-! ### Lengths -/

/-- The octets of a definite length: short form, or long form of one to eight
    octets. -/
def IsLength : List UInt8 → ℕ → Prop
  | [], _ => False
  | b0 :: bs, n =>
      (b0.toNat < 128 ∧ bs = [] ∧ n = b0.toNat) ∨
      (b0.toNat = 128 + bs.length ∧ 1 ≤ bs.length ∧ bs.length ≤ 8 ∧ n = readBE bs)

/-- A length in minimal form: the short form below 128, and otherwise a long
    form without leading zero octets. -/
def IsMinimalLength (octets : List UInt8) (n : ℕ) : Prop :=
  IsLength octets n ∧
    (octets.length = 1 ∨ (128 ≤ n ∧ ∀ b bs, octets.tail = b :: bs → b ≠ 0))

/-- The octets `writeLen` writes. -/
def lengthOctets (n : ℕ) : List UInt8 :=
  if n < LEN_LONG.toNat then [UInt8.ofNat n]
  else
    let body := significant (writeBE 8 n)
    (LEN_LONG ||| UInt8.ofNat body.length) :: body

theorem parseLenMore_iff {count : ℕ} {acc len : UInt64} {input rest : List UInt8}
    (hacc : acc.toNat < 256 ^ (8 - count)) (hcount : count ≤ 8) :
    parseLenMore count acc input = .ok (len, rest) ↔
      ∃ bs, bs.length = count ∧ input = bs ++ rest ∧
        len.toNat = acc.toNat * 256 ^ bs.length + readBE bs := by
  -- on the octets to come, the accumulator being the value of those before
  induction count generalizing acc input with
  | zero =>
    simp only [parseLenMore, List.length_eq_zero_iff]
    constructor
    · intro h
      obtain ⟨rfl, rfl⟩ := Prod.mk.inj (Except.ok.inj h)
      exact ⟨[], rfl, rfl, by simp⟩
    · rintro ⟨bs, rfl, rfl, hlen⟩
      rw [UInt64.toNat_inj.mp (show len.toNat = acc.toNat by simpa using hlen)]
  | succ count ih =>
    cases input with
    | nil =>
      constructor
      · intro h
        simp [parseLenMore] at h
      · rintro ⟨bs, hlen, heq, -⟩
        obtain rfl : bs = [] := (List.append_eq_nil_iff.mp heq.symm).1
        simp at hlen
    | cons b input =>
      have hpow : 256 ^ (8 - (count + 1)) ≤ 2 ^ 56 := by
        have : 8 - (count + 1) ≤ 7 := by omega
        calc 256 ^ (8 - (count + 1)) ≤ 256 ^ 7 := Nat.pow_le_pow_right (by decide) this
          _ = 2 ^ 56 := by decide
      have hb := b.toNat_lt
      -- the shift loses nothing, so the source computes a digit of base 256
      have hnext := shift_or_u64 acc b (by omega)
      have hacc' : ((acc <<< 8) ||| b.toUInt64).toNat < 256 ^ (8 - count) := by
        have : 8 - count = 8 - (count + 1) + 1 := by omega
        rw [hnext, this, Nat.pow_succ]
        omega
      rw [parseLenMore, ih hacc' (by omega)]
      constructor
      · rintro ⟨bs, rfl, rfl, hlen⟩
        refine ⟨b :: bs, rfl, rfl, ?_⟩
        rw [hlen, hnext, readBE_cons, List.length_cons, Nat.pow_succ]
        ring
      · rintro ⟨bs, hbs, heq, hlen⟩
        cases bs with
        | nil => simp at hbs
        | cons c cs =>
          obtain ⟨rfl, rfl⟩ := List.cons.inj heq
          refine ⟨cs, by simpa using hbs, rfl, ?_⟩
          rw [hlen, hnext, readBE_cons, List.length_cons, Nat.pow_succ]
          ring

/-- The parser accepts exactly the definite lengths. -/
theorem parseLen_iff {input rest : List UInt8} {len : UInt64} :
    parseLen input = .ok (len, rest) ↔
      ∃ octets, IsLength octets len.toNat ∧ input = octets ++ rest := by
  cases input with
  | nil =>
    constructor
    · intro h
      simp [parseLen] at h
    · rintro ⟨octets, hlen, heq⟩
      obtain rfl : octets = [] := (List.append_eq_nil_iff.mp heq.symm).1
      exact hlen.elim
  | cons b input =>
    simp only [parseLen]
    split
    -- the short form: the octet is the length
    · next hshort =>
      rw [and_long_eq_zero] at hshort
      constructor
      · intro h
        obtain ⟨rfl, rfl⟩ := Prod.mk.inj (Except.ok.inj h)
        exact ⟨[b], .inl ⟨hshort, rfl, by simp⟩, rfl⟩
      · rintro ⟨octets, hlen, heq⟩
        cases octets with
        | nil => exact hlen.elim
        | cons c cs =>
          obtain ⟨rfl, rfl⟩ := List.cons.inj heq
          obtain ⟨-, rfl, hn⟩ | ⟨hlong, -⟩ := hlen
          · rw [UInt64.toNat_inj.mp (show len.toNat = b.toUInt64.toNat by simpa using hn)]
            rfl
          · omega
    · next hlong =>
      rw [and_long_eq_zero] at hlong
      rw [and_not_long b (by omega)]
      split
      -- `80` and more than eight octets of length, which the source refuses
      · next hbad =>
        constructor
        · intro h
          simp at h
        · rintro ⟨octets, hlen, heq⟩
          cases octets with
          | nil => exact hlen.elim
          | cons c cs =>
            obtain ⟨rfl, rfl⟩ := List.cons.inj heq
            obtain ⟨hshort, -⟩ | ⟨hcount, h1, h8, -⟩ := hlen
            · omega
            · omega
      -- the long form: as many octets as the first one says
      · next hgood =>
        rw [parseLenMore_iff (by simp) (by omega)]
        constructor
        · rintro ⟨bs, hbs, rfl, hlen⟩
          refine ⟨b :: bs, .inr ⟨by omega, by omega, by omega, by simpa using hlen⟩, rfl⟩
        · rintro ⟨octets, hlen, heq⟩
          cases octets with
          | nil => exact hlen.elim
          | cons c cs =>
            obtain ⟨rfl, rfl⟩ := List.cons.inj heq
            obtain ⟨hshort, -⟩ | ⟨hcount, h1, h8, hn⟩ := hlen
            · omega
            · exact ⟨cs, by omega, rfl, by simpa using hn⟩

theorem IsLength.ne_nil {octets : List UInt8} {n : ℕ} (h : IsLength octets n) :
    octets ≠ [] := by
  rintro rfl
  exact h

theorem IsLength.lt {octets : List UInt8} {n : ℕ} (h : IsLength octets n) : n < 2 ^ 64 := by
  cases octets with
  | nil => exact h.elim
  | cons b bs =>
    obtain ⟨hshort, -, rfl⟩ | ⟨-, -, h8, rfl⟩ := h
    · omega
    · exact (readBE_lt bs).trans_le (Nat.pow_le_pow_right (by decide) h8)

/-- What `writeLen` writes is a length in its definite form. -/
theorem isLength_lengthOctets {n : ℕ} (h : n < 2 ^ 64) : IsLength (lengthOctets n) n := by
  have h128 : LEN_LONG.toNat = 128 := rfl
  simp only [lengthOctets]
  split
  · next hshort =>
    have hn : (UInt8.ofNat n).toNat = n := by
      rw [UInt8.toNat_ofNat']
      omega
    exact .inl ⟨by omega, rfl, hn.symm⟩
  · next hlong =>
    obtain ⟨b, bs, hsig, -, hread, hlen⟩ := significant_writeBE (w := 8) (by omega) h
    rw [hsig, long_or _ (by rw [List.length_cons]; omega)]
    refine .inr ⟨?_, by simp, by rw [List.length_cons]; omega, hread.symm⟩
    rw [UInt8.toNat_ofNat', List.length_cons]
    omega

/-- No definite length of a number is shorter than what `writeLen` writes. -/
theorem lengthOctets_length_le {octets : List UInt8} {n : ℕ} (h : IsLength octets n) :
    (lengthOctets n).length ≤ octets.length := by
  have h128 : LEN_LONG.toNat = 128 := rfl
  have hlt := h.lt
  cases octets with
  | nil => exact h.elim
  | cons b bs =>
    simp only [lengthOctets]
    split
    · simp
    · next hlong =>
      obtain ⟨hshort, -, rfl⟩ | ⟨-, -, h8, hn⟩ := h
      · omega
      · have hlt : n < 256 ^ 8 := by
          rw [hn]
          exact (readBE_lt bs).trans_le (Nat.pow_le_pow_right (by decide) h8)
        obtain ⟨c, cs, hsig, hc, hread, -⟩ := significant_writeBE (by omega) hlt
        have hle : (c :: cs).length ≤ bs.length :=
          length_le_of_readBE_eq hc (hn.symm.trans hread.symm)
        rw [hsig, List.length_cons (a := b)]
        simpa using hle

/-- A length in minimal form is what `writeLen` writes. -/
theorem IsMinimalLength.eq_lengthOctets {octets : List UInt8} {n : ℕ}
    (h : IsMinimalLength octets n) : octets = lengthOctets n := by
  have h128 : LEN_LONG.toNat = 128 := rfl
  obtain ⟨hlen, hmin⟩ := h
  cases octets with
  | nil => exact hlen.elim
  | cons b bs =>
    obtain ⟨hshort, rfl, rfl⟩ | ⟨hcount, h1, h8, rfl⟩ := hlen
    · simp [lengthOctets, h128, hshort]
    · cases bs with
      | nil => simp at h1
      | cons c cs =>
        obtain ⟨h128n, hzero⟩ := hmin.resolve_left (by simp)
        have hsig : significant (writeBE 8 (readBE (c :: cs))) = c :: cs := by
          rw [writeBE_readBE_of_le _ h8]
          exact significant_replicate_append _ c cs (hzero c cs rfl)
        simp only [lengthOctets, if_neg (show ¬ readBE (c :: cs) < LEN_LONG.toNat by omega), hsig]
        rw [long_or _ (by omega), ← hcount, UInt8.ofNat_toNat]

/-! ### Objects -/

/-- The octets of one object as the encoder writes it. -/
def objectOctets (item : Tlv) : List UInt8 :=
  significant (writeBE 4 item.tag.toNat) ++ lengthOctets item.value.length ++ item.value

/-- The octets of a sequence of objects as the encoder writes it. -/
def encoding (items : List Tlv) : List UInt8 := items.flatMap objectOctets

/-- The parser accepts exactly an identifier, a definite length and that many
    octets. -/
theorem parseObject_iff {input rest : List UInt8} {item : Tlv} :
    parseObject input = .ok (item, rest) ↔
      ∃ ident len, IsIdentifier ident ∧ item.tag.toNat = readBE ident ∧
        IsLength len item.value.length ∧ input = ident ++ len ++ item.value ++ rest := by
  constructor
  · intro h
    simp only [parseObject, bind, Except.bind] at h
    split at h
    · simp at h
    · next tagRest htag =>
      obtain ⟨tag, rest₁⟩ := tagRest
      split at h
      · simp at h
      · next lenRest hlen =>
        obtain ⟨len, rest₂⟩ := lenRest
        obtain ⟨ident, hid, rfl, htagnum⟩ := parseTag_iff.mp htag
        obtain ⟨octets, hoct, rfl⟩ := parseLen_iff.mp hlen
        split at h
        · simp at h
        · next hfits =>
          obtain ⟨rfl, rfl⟩ := Prod.mk.inj (Except.ok.inj h)
          refine ⟨ident, octets, hid, htagnum, ?_, ?_⟩
          · rwa [List.length_take_of_le (by omega)]
          · simp only [List.append_assoc, List.take_append_drop]
  · rintro ⟨ident, len, hid, htag, hlen, rfl⟩
    have hbound := item.addressable
    have h₁ : parseTag (ident ++ len ++ item.value ++ rest) =
        .ok (item.tag, len ++ (item.value ++ rest)) :=
      parseTag_iff.mpr ⟨ident, hid, by simp only [List.append_assoc], htag⟩
    have hn : (UInt64.ofNat item.value.length).toNat = item.value.length := by
      rw [UInt64.toNat_ofNat']
      omega
    have h₂ : parseLen (len ++ (item.value ++ rest)) =
        .ok (UInt64.ofNat item.value.length, item.value ++ rest) :=
      parseLen_iff.mpr ⟨len, by rwa [hn], rfl⟩
    simp only [parseObject, h₁, h₂, bind, Except.bind, hn]
    rw [if_neg (by simp)]
    simp only [List.take_left, List.drop_left]

/-- An object with a well-formed tag is read back in front of anything. -/
theorem parseObject_objectOctets {item : Tlv} (h : WellFormedTag item.tag) (rest : List UInt8) :
    parseObject (objectOctets item ++ rest) = .ok (item, rest) := by
  obtain ⟨ident, hid, htag⟩ := h
  refine parseObject_iff.mpr ⟨ident, lengthOctets item.value.length, hid, htag.symm,
    isLength_lengthOctets item.addressable, ?_⟩
  rw [objectOctets, ← htag, significant_identifier hid]

theorem objectOctets_ne_nil {item : Tlv} (h : WellFormedTag item.tag) :
    objectOctets item ≠ [] := by
  obtain ⟨ident, hid, htag⟩ := h
  rw [objectOctets, ← htag, significant_identifier hid]
  simp [hid.ne_nil]

/-- Sequences of objects are read back from their encoding. -/
theorem parse_encoding {items : List Tlv} (hlen : items.length ≤ MAX_TLVS)
    (htags : ∀ item ∈ items, WellFormedTag item.tag) : parse (encoding items) = .ok items :=
  readMany_flatMap (fun item h => objectOctets_ne_nil (htags item h))
    (fun item h => parseObject_objectOctets (htags item h)) hlen

/-- Every tag the parser delivers is well formed. -/
theorem wellFormed_of_parse {x : List UInt8} {items : List Tlv} (h : parse x = .ok items) :
    ∀ item ∈ items, WellFormedTag item.tag := by
  refine readMany_rec (P := fun _ items => ∀ item ∈ items, WellFormedTag item.tag) (by simp) ?_ h
  intro as item rest ys _ hone ih
  obtain ⟨ident, len, hid, htag, -, -⟩ := parseObject_iff.mp hone
  exact List.forall_mem_cons.mpr ⟨⟨ident, hid, htag.symm⟩, ih⟩

/-- The encoding is the shortest input with its parse. -/
theorem encoding_length_le {x : List UInt8} {items : List Tlv} (h : parse x = .ok items) :
    (encoding items).length ≤ x.length := by
  refine readMany_rec (P := fun x items => (encoding items).length ≤ x.length)
    (by simp [encoding]) ?_ h
  intro as item rest ys _ hone ih
  obtain ⟨ident, len, hid, htag, hlen, rfl⟩ := parseObject_iff.mp hone
  have hle := lengthOctets_length_le hlen
  rw [encoding, List.flatMap_cons, objectOctets, htag, significant_identifier hid]
  simp only [encoding, List.length_append] at ih ⊢
  omega

/-- A sequence of objects each of whose lengths is in minimal form. -/
inductive MinimalLengths : List UInt8 → Prop where
  | nil : MinimalLengths []
  | cons {ident len value rest : List UInt8} : IsIdentifier ident →
      IsMinimalLength len value.length → MinimalLengths rest →
      MinimalLengths (ident ++ len ++ value ++ rest)

/-- An input whose lengths are all minimal is its own encoding. -/
theorem encoding_of_minimal {x : List UInt8} {items : List Tlv} (h : parse x = .ok items)
    (hmin : MinimalLengths x) : encoding items = x := by
  refine readMany_rec (P := fun x items => MinimalLengths x → encoding items = x)
    (by simp [encoding]) ?_ h hmin
  intro as item rest ys hne hone ih hmin
  cases hmin with
  | nil => exact absurd rfl hne
  | @cons ident len value rest' hid hlen hrest =>
    -- the parse of an object is unique, so the two ways to split `as` agree
    have hident : (UInt32.ofNat (readBE ident)).toNat = readBE ident := by
      have := (readBE_lt ident).trans_le (Nat.pow_le_pow_right (by decide) hid.length_le)
      rw [UInt32.toNat_ofNat', Nat.mod_eq_of_lt this]
    have hother : parseObject (ident ++ len ++ value ++ rest') =
        .ok (⟨UInt32.ofNat (readBE ident), value, hlen.1.lt⟩, rest') :=
      parseObject_iff.mpr ⟨ident, len, hid, hident, hlen.1, rfl⟩
    obtain ⟨rfl, rfl⟩ := Prod.mk.inj (Except.ok.inj (hone.symm.trans hother))
    show objectOctets _ ++ encoding ys = _
    rw [ih hrest, objectOctets, hident, significant_identifier hid, ← hlen.eq_lengthOctets]

/-! ### The encoder -/

/-- Two writes in a row are one write, also when one of them does not fit. -/
theorem writeBytes_bind (out : List UInt8) (pos : ℕ) (as bs : List UInt8) :
    (do let (pos, out) ← writeBytes out pos as; writeBytes out pos bs) =
      writeBytes out pos (as ++ bs) := by
  simp only [writeBytes, List.length_append]
  by_cases has : pos + as.length > out.length
  · rw [if_pos has, if_pos (by omega)]
    rfl
  · rw [if_neg has]
    simp only [bind, Except.bind, length_overwrite (Nat.le_of_not_lt has),
      overwrite_overwrite (Nat.le_of_not_lt has), Nat.add_assoc]

theorem writeLen_eq (len : ℕ) (out : List UInt8) (pos : ℕ) :
    writeLen len out pos = writeBytes out pos (lengthOctets len) := by
  simp only [writeLen, lengthOctets]
  split
  · rfl
  · exact writeBytes_bind out pos _ _

theorem writeObject_eq (item : Tlv) (out : List UInt8) (pos : ℕ) :
    (do
      let (pos, out) ← writeTag item.tag out pos
      let (pos, out) ← writeLen item.value.length out pos
      writeBytes out pos item.value) = writeBytes out pos (objectOctets item) := by
  simp only [writeLen_eq, writeBytes_bind]
  simp only [writeTag, writeBytes_bind, objectOctets, List.append_assoc]

/-- The encoder writes the encoding, when it fits. -/
theorem encodeFrom_eq {items : List Tlv} {out : List UInt8} {pos : ℕ} (h : pos ≤ out.length) :
    encodeFrom items out pos = writeBytes out pos (encoding items) := by
  induction items generalizing out pos with
  | nil => simp [encodeFrom, encoding, writeBytes, overwrite, h]
  | cons item items ih =>
    have hstep : encodeFrom (item :: items) out pos =
        (do
          let (pos, out) ← writeBytes out pos (objectOctets item)
          encodeFrom items out pos) := by
      rw [← writeObject_eq]
      simp only [encodeFrom, bind_assoc]
    have hsplit : encoding (item :: items) = objectOctets item ++ encoding items := rfl
    rw [hstep, hsplit, ← writeBytes_bind]
    by_cases hfit : pos + (objectOctets item).length > out.length
    · simp only [writeBytes, if_pos hfit, bind, Except.bind]
    · have hpos : pos + (objectOctets item).length ≤
          (overwrite out pos (objectOctets item)).length := by
        rw [length_overwrite (Nat.le_of_not_lt hfit)]
        exact Nat.le_of_not_lt hfit
      rw [writeBytes, if_neg hfit]
      exact ih hpos

theorem encode_eq (items : List Tlv) (out : List UInt8) :
    encode items out = writeBytes out 0 (encoding items) :=
  encodeFrom_eq (Nat.zero_le _)

/-- A successful encoder has written the encoding at the start of the buffer. -/
theorem encode_ok {items : List Tlv} {out out' : List UInt8} {n : ℕ}
    (h : encode items out = .ok (n, out')) :
    n = (encoding items).length ∧ out'.take n = encoding items := by
  rw [encode_eq, writeBytes] at h
  split at h
  · simp at h
  · next hfit =>
    obtain ⟨rfl, rfl⟩ := Prod.mk.inj (Except.ok.inj h)
    exact ⟨Nat.zero_add _, by simpa using take_overwrite (Nat.le_of_not_lt hfit)⟩

/-- A buffer that has room for the encoding is enough. -/
theorem encode_of_fits {items : List Tlv} {out : List UInt8}
    (h : (encoding items).length ≤ out.length) :
    ∃ out', encode items out = .ok ((encoding items).length, out') ∧
      out'.take (encoding items).length = encoding items := by
  have hok : encode items out =
      .ok ((encoding items).length, overwrite out 0 (encoding items)) := by
    rw [encode_eq, writeBytes, if_neg (by omega), Nat.zero_add]
  exact ⟨_, hok, (encode_ok hok).2⟩

/-! ### The round trip -/

/-- The codec over the whole format: what `encode` writes parses back, and what
    `parse` accepts is re-encoded to an input with the same parse, no longer
    than the original, and the original itself when its lengths are minimal. -/
theorem parse_encode_round_trip :
    (∀ (items : List Tlv) (out out' : List UInt8) (n : ℕ),
      items.length ≤ MAX_TLVS → (∀ item ∈ items, WellFormedTag item.tag) →
      encode items out = .ok (n, out') → parse (out'.take n) = .ok items) ∧
    (∀ (x : List UInt8) (items : List Tlv), parse x = .ok items →
      ∃ y, y.length ≤ x.length ∧ parse y = .ok items ∧ (MinimalLengths x → y = x) ∧
        ∀ out, y.length ≤ out.length →
          ∃ out', encode items out = .ok (y.length, out') ∧ out'.take y.length = y) := by
  constructor
  · intro items out out' n hlen htags henc
    rw [(encode_ok henc).2]
    exact parse_encoding hlen htags
  · intro x items h
    refine ⟨encoding items, encoding_length_le h, ?_, encoding_of_minimal h, ?_⟩
    · exact parse_encoding (readMany_length h) (wellFormed_of_parse h)
    · intro out hout
      exact encode_of_fits hout

/-- The life-cycle object `'9F70'` out and back, and a one-octet value whose
    long-form length is not minimal. -/
theorem parse_encode_round_trip_life_cycle :
    parse [0x9F, 0x70, 0x01, 0x07] = .ok [⟨0x9F70, [0x07], by decide⟩] ∧
    ∃ y, y.length ≤ 4 ∧ parse y = .ok [⟨0x4F, [0xA0], by decide⟩] := by
  constructor
  · exact parse_encode_round_trip.1 [⟨0x9F70, [0x07], by decide⟩] [0, 0, 0, 0]
      [0x9F, 0x70, 0x01, 0x07] 4 (by decide)
      (List.forall_mem_singleton.mpr ⟨[0x9F, 0x70], by decide, by decide⟩) (by decide)
  · obtain ⟨y, hlen, hparse, -⟩ := parse_encode_round_trip.2 [0x4F, 0x81, 0x01, 0xA0]
      [⟨0x4F, [0xA0], by decide⟩] (by decide)
    exact ⟨y, hlen, hparse⟩

end Scll.Tlv

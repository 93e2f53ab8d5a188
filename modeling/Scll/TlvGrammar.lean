import Scll.RegistryLaw
import Scll.ValidPrefix

/-! # The grammar of the BER-TLV parser

    The parser accepts the sequences of at most `MAX_TLVS` objects and nothing
    else. What it refuses has a first object it could not read, behind objects
    that it could: a complete one, when there were `MAX_TLVS` before it, one
    with a malformed identifier or length, or one that the input is too short
    for.
-/

namespace Scll

namespace Tlv

open Octets Sequence Response

/-! ### The errors of an object -/

/-- What an object is refused for with a bad length: an identifier that goes on
    after its fourth octet, or a length that is indefinite or has more than
    eight octets. -/
inductive IsMalformed : List UInt8 → Prop where
  | wideTag {b0 b : UInt8} {bs rest : List UInt8} (multibyte : b0 &&& TAG_MULTIBYTE = TAG_MULTIBYTE)
      (more : ∀ c ∈ bs, c &&& TAG_MORE ≠ 0) (wide : bs.length + 1 = TAG_MAX_OCTETS) :
      IsMalformed (b0 :: bs ++ b :: rest)
  | badLength {ident rest : List UInt8} {b : UInt8} (identifier : IsIdentifier ident)
      (bad : b.toNat = 128 ∨ 136 < b.toNat) : IsMalformed (ident ++ b :: rest)

theorem parseTagMore_error {room : ℕ} {acc : UInt32} {input : List UInt8} {e : TlvError}
    (h : parseTagMore room acc input = .error e) :
    e = .truncated ∨ (e = .badLength ∧ ∃ bs b rest, input = bs ++ b :: rest ∧
      bs.length = room ∧ ∀ c ∈ bs, c &&& TAG_MORE ≠ 0) := by
  induction room generalizing acc input with
  | zero =>
    cases input with
    | nil => exact .inl (Except.error.inj h).symm
    | cons b rest => exact .inr ⟨(Except.error.inj h).symm, [], b, rest, rfl, rfl, by simp⟩
  | succ room ih =>
    cases input with
    | nil => exact .inl (Except.error.inj h).symm
    | cons c input =>
      simp only [parseTagMore] at h
      split at h
      · cases h
      · next hmore =>
        obtain htrunc | ⟨he, bs, b, rest, hinput, hlen, hall⟩ := ih h
        · exact .inl htrunc
        · refine .inr ⟨he, c :: bs, b, rest, ?_, ?_, List.forall_mem_cons.mpr ⟨hmore, hall⟩⟩
          · rw [hinput, List.cons_append]
          · rw [List.length_cons, hlen]

/-- An identifier that goes on is refused, however it goes on. -/
theorem parseTagMore_wide {bs rest : List UInt8} {b : UInt8} {acc : UInt32}
    (hmore : ∀ c ∈ bs, c &&& TAG_MORE ≠ 0) :
    parseTagMore bs.length acc (bs ++ b :: rest) = .error .badLength := by
  induction bs generalizing acc with
  | nil => rfl
  | cons c bs ih =>
    rw [List.forall_mem_cons] at hmore
    simp only [List.length_cons, List.cons_append, parseTagMore, if_neg hmore.1]
    exact ih hmore.2

theorem parseTag_error {input : List UInt8} {e : TlvError} (h : parseTag input = .error e) :
    e = .truncated ∨ (e = .badLength ∧ IsMalformed input) := by
  cases input with
  | nil => exact .inl (Except.error.inj h).symm
  | cons b0 input =>
    simp only [parseTag] at h
    split at h
    · next hmulti =>
      obtain htrunc | ⟨he, bs, b, rest, hinput, hlen, hall⟩ := parseTagMore_error h
      · exact .inl htrunc
      · refine .inr ⟨he, ?_⟩
        rw [hinput]
        exact .wideTag hmulti hall (by rw [hlen]; rfl)
    · cases h

theorem parseLenMore_error {count : ℕ} {acc : UInt64} {input : List UInt8} {e : TlvError}
    (h : parseLenMore count acc input = .error e) : e = .truncated := by
  induction count generalizing acc input with
  | zero => cases h
  | succ count ih =>
    cases input with
    | nil => exact (Except.error.inj h).symm
    | cons b input => exact ih h

/-- A length is bad by its first octet. -/
theorem parseLen_bad_iff {b : UInt8} {rest : List UInt8} :
    parseLen (b :: rest) = .error .badLength ↔ b.toNat = 128 ∨ 136 < b.toNat := by
  simp only [parseLen]
  split
  · next hshort =>
    rw [and_long_eq_zero] at hshort
    constructor
    · intro h
      cases h
    · intro h
      omega
  · next hlong =>
    rw [and_long_eq_zero] at hlong
    rw [and_not_long b (by omega)]
    split
    · next hbad =>
      constructor
      · intro _
        omega
      · intro _
        rfl
    · next hgood =>
      constructor
      · intro h
        cases parseLenMore_error h
      · intro h
        omega

theorem parseLen_error {input : List UInt8} {e : TlvError} (h : parseLen input = .error e) :
    e = .truncated ∨ e = .badLength := by
  cases input with
  | nil => exact .inl (Except.error.inj h).symm
  | cons b rest =>
    simp only [parseLen] at h
    split at h
    · cases h
    · split at h
      · exact .inr (Except.error.inj h).symm
      · exact .inl (parseLenMore_error h)

/-- An object is refused because the input ends in it, or because its
    identifier or its length is malformed. -/
theorem parseObject_error {input : List UInt8} {e : TlvError}
    (h : parseObject input = .error e) : e = .truncated ∨ (e = .badLength ∧ IsMalformed input) := by
  unfold parseObject at h
  rcases bind_eq_error.mp h with htag | ⟨⟨tag, afterTag⟩, htag, hafter⟩
  · exact parseTag_error htag
  rcases bind_eq_error.mp hafter with hlen | ⟨⟨len, afterLen⟩, -, hvalue⟩
  · obtain ⟨ident, hident, rfl, -⟩ := parseTag_iff.mp htag
    refine (parseLen_error hlen).imp_right fun he => ⟨he, ?_⟩
    subst he
    -- a bad length is behind a complete identifier
    cases afterTag with
    | nil => cases hlen
    | cons b rest => exact .badLength hident (parseLen_bad_iff.mp hlen)
  · -- the value is only ever cut short
    refine .inl ?_
    dsimp only at hvalue
    split at hvalue
    · exact (Except.error.inj hvalue).symm
    · cases hvalue

theorem IsMalformed.parseObject {input : List UInt8} (h : IsMalformed input) :
    parseObject input = .error .badLength := by
  cases h with
  | @wideTag b0 b bs rest hmulti hmore hwide =>
    -- the identifier is too wide: its octets go on when the reader is full
    have hroom : TAG_MAX_OCTETS - 1 = bs.length := by omega
    have htag : parseTag (b0 :: bs ++ b :: rest) = .error .badLength := by
      simp only [List.cons_append, parseTag, if_pos hmulti, hroom]
      exact parseTagMore_wide hmore
    rw [Tlv.parseObject, htag]
    rfl
  | @badLength ident rest b hident hbad =>
    have hid := (readBE_lt ident).trans_le (Nat.pow_le_pow_right (by decide) hident.length_le)
    have htag : parseTag (ident ++ b :: rest) =
        .ok (UInt32.ofNat (readBE ident), b :: rest) := by
      refine parseTag_iff.mpr ⟨ident, hident, rfl, ?_⟩
      rw [UInt32.toNat_ofNat', Nat.mod_eq_of_lt hid]
    rw [Tlv.parseObject, htag, ok_bind]
    dsimp only
    rw [parseLen_bad_iff.mpr hbad]
    rfl

/-! ### Sequences of objects -/

/-- The first items of an input, as a sequence of objects and what follows. -/
theorem front_iff_isSequence {input rest : List UInt8} {items : List Tlv} :
    Front Tlv.parseObject input items rest ↔
      ∃ front, input = front ++ rest ∧ IsSequence front items := by
  constructor
  · intro h
    induction h with
    | nil input => exact ⟨[], rfl, .nil⟩
    | cons _ hread _ ih =>
      obtain ⟨ident, len, hident, htag, hlen, rfl⟩ := parseObject_iff.mp hread
      obtain ⟨front, rfl, hfront⟩ := ih
      refine ⟨_, ?_, .cons hident htag hlen hfront⟩
      simp only [List.append_assoc]
  · rintro ⟨front, rfl, hfront⟩
    exact (isSequence_iff.mp hfront).front selfDelimiting_parseObject rest

theorem isSequence_append {a b : List UInt8} {as bs : List Tlv} (ha : IsSequence a as)
    (hb : IsSequence b bs) : IsSequence (a ++ b) (as ++ bs) :=
  isSequence_iff.mpr
    ((isSequence_iff.mp ha).append selfDelimiting_parseObject (isSequence_iff.mp hb))

/-- An object that reads is a sequence of one, and something behind it. -/
theorem parseObject_iff_isSequence {input rest : List UInt8} {item : Tlv} :
    parseObject input = .ok (item, rest) ↔
      ∃ object, input = object ++ rest ∧ IsSequence object [item] := by
  rw [parseObject_iff]
  constructor
  · rintro ⟨ident, len, hident, htag, hlen, rfl⟩
    refine ⟨ident ++ len ++ item.value ++ [], ?_, .cons hident htag hlen .nil⟩
    simp only [List.append_nil]
  · rintro ⟨object, rfl, hobject⟩
    cases hobject with
    | cons hident htag hlen htail =>
      cases htail
      exact ⟨_, _, hident, htag, hlen, by simp only [List.append_nil]⟩

/-- Where a refused input stops being a sequence of objects that are held. -/
theorem parse_error_iff {input : List UInt8} {e : TlvError} :
    parse input = .error e ↔ ∃ front rest items, input = front ++ rest ∧ IsSequence front items ∧
      ((items.length ≤ MAX_TLVS ∧ rest ≠ [] ∧ parseObject rest = .error e) ∨
        (items.length = MAX_TLVS ∧ e = .tooMany ∧
          ∃ object item more, rest = object ++ more ∧ IsSequence object [item])) := by
  rw [parse, readMany_error_iff]
  constructor
  · rintro ⟨items, rest, hfront, hne, hstop⟩
    -- the reader stops at an object it cannot read, or at one it has no place for
    obtain ⟨front, rfl, hsequence⟩ := front_iff_isSequence.mp hfront
    refine ⟨front, rest, items, rfl, hsequence, hstop.imp ?_ ?_⟩
    · exact fun ⟨hfew, herror⟩ => ⟨hfew, hne, herror⟩
    · rintro ⟨hfull, he, ⟨item, more⟩, hread⟩
      obtain ⟨object, hrest, hobject⟩ := parseObject_iff_isSequence.mp hread
      exact ⟨hfull, he, object, item, more, hrest, hobject⟩
  · rintro ⟨front, rest, items, rfl, hsequence, hstop⟩
    have hfront : Front Tlv.parseObject (front ++ rest) items rest :=
      front_iff_isSequence.mpr ⟨front, rfl, hsequence⟩
    rcases hstop with ⟨hfew, hne, herror⟩ | ⟨hfull, he, object, item, more, hrest, hobject⟩
    · exact ⟨items, rest, hfront, hne, .inl ⟨hfew, herror⟩⟩
    · have hread := parseObject_iff_isSequence.mpr ⟨object, hrest, hobject⟩
      refine ⟨items, rest, hfront, ?_, .inr ⟨hfull, he, _, hread⟩⟩
      rintro rfl
      cases hread

/-! ### The grammar -/

/-- The parser accepts the sequences of at most `MAX_TLVS` objects, as those
    objects. It finds too many exactly when a complete object follows
    `MAX_TLVS` others, and a bad length exactly when a malformed one follows at
    most as many; any other input it refuses is cut short. Sequences behind one
    another parse as one, while there is room. -/
theorem parse_grammar (input : List UInt8) :
    (∀ items, parse input = .ok items ↔ IsSequence input items ∧ items.length ≤ MAX_TLVS) ∧
    (parse input = .error .tooMany ↔ ∃ front object more items item,
      input = front ++ object ++ more ∧ IsSequence front items ∧ items.length = MAX_TLVS ∧
        IsSequence object [item]) ∧
    (parse input = .error .badLength ↔ ∃ front rest items, input = front ++ rest ∧
      IsSequence front items ∧ items.length ≤ MAX_TLVS ∧ IsMalformed rest) ∧
    (∀ e, parse input = .error e → e = .tooMany ∨ e = .badLength ∨ e = .truncated) ∧
    (∀ more as bs, parse input = .ok as → parse more = .ok bs →
      as.length + bs.length ≤ MAX_TLVS → parse (input ++ more) = .ok (as ++ bs)) := by
  refine ⟨fun items => parse_iff_isSequence, ⟨?_, ?_⟩, ⟨?_, ?_⟩, ?_, ?_⟩
  · intro h
    obtain ⟨front, rest, items, rfl, hfront, hstop⟩ := parse_error_iff.mp h
    rcases hstop with ⟨-, -, herror⟩ | ⟨hfull, -, object, item, more, rfl, hobject⟩
    · -- an object is never refused as too many
      rcases parseObject_error herror with he | ⟨he, -⟩ <;> cases he
    · exact ⟨front, object, more, items, item, (List.append_assoc ..).symm, hfront, hfull, hobject⟩
  · rintro ⟨front, object, more, items, item, rfl, hfront, hfull, hobject⟩
    exact parse_error_iff.mpr ⟨front, object ++ more, items, List.append_assoc .., hfront,
      .inr ⟨hfull, rfl, object, item, more, rfl, hobject⟩⟩
  · intro h
    obtain ⟨front, rest, items, rfl, hfront, hstop⟩ := parse_error_iff.mp h
    rcases hstop with ⟨hfew, -, herror⟩ | ⟨-, he, -⟩
    · rcases parseObject_error herror with he | ⟨-, hmalformed⟩
      · cases he
      · exact ⟨front, rest, items, rfl, hfront, hfew, hmalformed⟩
    · cases he
  · rintro ⟨front, rest, items, rfl, hfront, hfew, hmalformed⟩
    have herror := hmalformed.parseObject
    refine parse_error_iff.mpr ⟨front, rest, items, rfl, hfront, .inl ⟨hfew, ?_, herror⟩⟩
    rintro rfl
    cases herror
  · intro e h
    obtain ⟨front, rest, items, -, -, hstop⟩ := parse_error_iff.mp h
    rcases hstop with ⟨-, -, herror⟩ | ⟨-, he, -⟩
    · exact .inr ((parseObject_error herror).symm.imp_left And.left)
    · exact .inl he
  · intro more as bs has hbs hroom
    rw [parse_iff_isSequence] at has hbs ⊢
    rw [List.length_append]
    exact ⟨isSequence_append has.1 hbs.1, hroom⟩

/-- Two objects behind one another, the second with a length that is not
    minimal. -/
theorem parse_grammar_two :
    parse ([0x4F, 0x01, 0xA0] ++ [0x9F, 0x70, 0x81, 0x01, 0x07]) =
      .ok [⟨0x4F, [0xA0], by decide⟩, ⟨0x9F70, [0x07], by decide⟩] :=
  (parse_grammar [0x4F, 0x01, 0xA0]).2.2.2.2 [0x9F, 0x70, 0x81, 0x01, 0x07]
    [⟨0x4F, [0xA0], by decide⟩] [⟨0x9F70, [0x07], by decide⟩] (by decide) (by decide) (by decide)

end Tlv

end Scll

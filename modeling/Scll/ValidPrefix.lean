import Scll.TestSupport
import Scll.TlvRoundTrip
import Scll.Workflow.Paging

/-! # The octets a paged read keeps

    Whatever the pages of a scope hold and wherever they end, what is kept of
    them is a sequence of whole objects: the first objects of all that was
    received. Nothing is left out unless the read says so, or the card has taken
    its data back with `6A88`.
-/

namespace Scll

/-- An object says itself how long it is. -/
theorem Tlv.selfDelimiting_parseObject : Sequence.SelfDelimiting Tlv.parseObject := by
  intro as rest x h more
  obtain ⟨ident, len, hident, htag, hlen, rfl⟩ := parseObject_iff.mp h
  exact parseObject_iff.mpr ⟨ident, len, hident, htag, hlen, by simp only [List.append_assoc]⟩

namespace Workflow

open Sequence

/-- The octets of the pages that carry data. -/
def dataOf (as : List Answer) : List UInt8 :=
  ((as.filter fun a => a.2 == SW_OK || a.2 == SW_MORE_DATA).map Prod.fst).flatten

/-- What a read is to keep of its answers. -/
structure ValidPrefix (as : List Answer) (buf : List UInt8) (truncated : Bool) : Prop where
  /-- The kept octets are whole objects, the first of the stream. -/
  objects : ∃ rest xs, dataOf as = buf ++ rest ∧ Tlv.parse buf = .ok xs ∧
    Front Tlv.parseObject (dataOf as) xs rest
  whole : truncated = false → buf = dataOf as ∨ endsEmpty as = true

/-! ### The checkpoint -/

/-- The checkpoint of a scope lies in its buffer, at the end of an object. -/
structure Checked (scope : Scope) : Prop where
  inside : scope.goodLen ≤ scope.buf.length
  parses : Parses (scope.buf.take scope.goodLen) = true

theorem Checked.absorb {scope : Scope} (h : Checked scope) (data : List UInt8) (truncated : Bool) :
    Checked ⟨scope.buf ++ data, (scope.absorb data).goodLen, truncated⟩ := by
  unfold Scope.absorb
  by_cases hparses : Parses (scope.buf ++ data) = true
  · simp only [hparses, if_true]
    refine ⟨Nat.le_refl _, ?_⟩
    show Parses ((scope.buf ++ data).take (scope.buf ++ data).length) = true
    rw [List.take_length]
    exact hparses
  · simp only [if_neg hparses]
    refine ⟨?_, ?_⟩
    · show scope.goodLen ≤ (scope.buf ++ data).length
      rw [List.length_append]
      exact h.inside.trans (Nat.le_add_right ..)
    · show Parses ((scope.buf ++ data).take scope.goodLen) = true
      rw [List.take_append_of_le_length h.inside]
      exact h.parses

/-- What a read makes of the answers it takes, from a scope with a checkpoint. -/
theorem validPrefix_of_scan {n : ℕ} {scope : Scope} {as : List Answer} {buf : List UInt8}
    {truncated : Bool} (hscope : Checked scope) (htaken : Taken n scope as)
    (h : scan scope as = .ok (buf, truncated)) :
    buf <+: scope.buf ++ dataOf as ∧ Parses buf = true ∧
      (truncated = false → buf = scope.buf ++ dataOf as ∨ endsEmpty as = true) := by
  -- over the answers, the checked scope being what was read so far
  induction as generalizing n scope with
  | nil =>
    obtain ⟨rfl, rfl⟩ := Prod.mk.inj (Except.ok.inj h)
    refine ⟨?_, hscope.parses, fun hcut => ?_⟩
    · rw [show dataOf [] = [] from rfl, List.append_nil]
      exact List.take_prefix ..
    · rw [Bool.not_false, Bool.or_true] at hcut
      cases hcut
  | cons a as ih =>
    obtain ⟨data, sw⟩ := a
    cases n with
    | zero => cases htaken
    | succ n =>
      unfold scan at h
      unfold Taken at htaken
      cases hpage : page scope data sw with
      | error e =>
        rw [hpage] at h
        cases h
      | ok p =>
        rw [hpage] at h htaken
        rcases page_cases hpage with ⟨rfl, rfl⟩ | rfl | ⟨rfl, rfl⟩ | ⟨rfl, rfl⟩
        · -- more data: the page is in the buffer from here on
          obtain ⟨hfront, hparses, hwhole⟩ := ih (hscope.absorb data scope.truncated) htaken h
          have hdata : dataOf ((data, SW_MORE_DATA) :: as) = data ++ dataOf as := rfl
          rw [hdata, ← List.append_assoc]
          refine ⟨hfront, hparses, fun hcut => (hwhole hcut).imp_right fun hempty => ?_⟩
          rcases as with _ | ⟨b, as⟩
          · cases hempty
          · exact hempty
        · -- no room: the checkpoint, and the flag
          obtain ⟨rfl, rfl⟩ := Prod.mk.inj (Except.ok.inj h)
          refine ⟨(List.take_prefix ..).trans (List.prefix_append ..), hscope.parses,
            fun hcut => ?_⟩
          cases hcut
        · -- the last page: all of the buffer, unless it does not parse
          obtain rfl : as = [] := htaken
          obtain ⟨rfl, rfl⟩ := Prod.mk.inj (Except.ok.inj h)
          have hchecked := hscope.absorb data (scope.truncated || !Parses (scope.buf ++ data))
          have hdata : dataOf [(data, SW_OK)] = data := by
            rw [show dataOf [(data, SW_OK)] = data ++ [] from rfl, List.append_nil]
          rw [hdata]
          refine ⟨List.take_prefix .., hchecked.parses, fun hcut => .inl ?_⟩
          have hparses : Parses (scope.buf ++ data) = true := by
            rw [Bool.not_true, Bool.or_false, Bool.or_eq_false_iff, Bool.not_eq_false'] at hcut
            exact hcut.2
          show (scope.buf ++ data).take (scope.absorb data).goodLen = scope.buf ++ data
          unfold Scope.absorb
          rw [hparses]
          exact List.take_length
        · -- `6A88`: nothing is kept of what was there
          obtain rfl : as = [] := htaken
          obtain ⟨rfl, -⟩ := Prod.mk.inj (Except.ok.inj h)
          exact ⟨List.nil_prefix, rfl, fun _ => .inr rfl⟩

/-! ### The law -/

/-- The first objects of what was received, from octets that parse. -/
theorem front_of_parses {as : List Answer} {buf : List UInt8} (hfront : buf <+: dataOf as)
    (hparses : Parses buf = true) :
    ∃ rest xs, dataOf as = buf ++ rest ∧ Tlv.parse buf = .ok xs ∧
      Front Tlv.parseObject (dataOf as) xs rest := by
  obtain ⟨rest, hrest⟩ := hfront
  obtain ⟨xs, hxs⟩ := parse_of_parses hparses
  refine ⟨rest, xs, hrest.symm, hxs, ?_⟩
  rw [← hrest]
  exact (readMany_iff.mp hxs).1.front Tlv.selfDelimiting_parseObject rest

/-- Every read of a scope that succeeds keeps a valid prefix of its answers. -/
theorem read_keeps_valid_prefix {τ β : Type} [Transport τ] [Scp03Backend β] [Scp02Backend β]
    (session : ScpSession) (p1 : UInt8) {w w' : World τ β} {buf : List UInt8} {truncated : Bool}
    (h : readStatusScope session p1 w = (.ok (buf, truncated), w')) :
    ∃ as, Reads session p1 Capdu.P2_FIRST_TLV as w w' ∧ ValidPrefix as buf truncated := by
  obtain ⟨as, hreads, htaken, hscan⟩ := reads_of_readPages h
  have hempty : Checked ⟨[], 0, false⟩ := ⟨Nat.le_refl 0, rfl⟩
  obtain ⟨hfront, hparses, hwhole⟩ := validPrefix_of_scan hempty htaken hscan
  exact ⟨as, hreads, front_of_parses hfront hparses, hwhole⟩

/-- A page that breaks off in the middle of its second entry. -/
theorem read_keeps_valid_prefix_broken_page :
    ∃ w', readStatusScope stubSession P1_ISD_SCOPE
        (⟨Script.ofAnswers [(P1_ISD_SCOPE, [0xE3, 0x00], SW_MORE_DATA),
          (P1_ISD_SCOPE, [0xE3, 0x05], SW_OK)], StubBackend.new, []⟩ : World Script StubBackend) =
        (.ok ([0xE3, 0x00], true), w') ∧
      ∃ as, Reads stubSession P1_ISD_SCOPE Capdu.P2_FIRST_TLV as
        (⟨Script.ofAnswers [(P1_ISD_SCOPE, [0xE3, 0x00], SW_MORE_DATA),
          (P1_ISD_SCOPE, [0xE3, 0x05], SW_OK)], StubBackend.new, []⟩ : World Script StubBackend)
        w' ∧ ValidPrefix as [0xE3, 0x00] true := by
  refine ⟨_, rfl, read_keeps_valid_prefix stubSession P1_ISD_SCOPE rfl⟩

end Workflow

end Scll

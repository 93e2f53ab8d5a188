import Scll.RegistryLaw
import Scll.Workflow.Content

/-! # The TLVs in commands

    The install parameters and the AID of a DELETE or GET STATUS are written as
    a tag, one length octet and the value. BER takes one octet for a length
    below 128 only. From there on the octet written is the first of a long form,
    and the octets read as something else.
-/

namespace Scll

namespace Response

open Octets Sequence Tlv

/-! ### One length octet -/

/-- An object with a one-octet tag, behind a one-octet length. -/
def shortObject (tag : UInt8) (value : List UInt8) : List UInt8 :=
  tag :: UInt8.ofNat value.length :: value

/-- A sequence of objects needs at least two octets for each besides its value,
    and two only for a short one. -/
theorem IsSequence.length_le {octets : List UInt8} {items : List Tlv}
    (h : IsSequence octets items) :
    (items.map fun item => item.value.length + 2).sum ≤ octets.length ∧
      (octets.length = (items.map fun item => item.value.length + 2).sum →
        ∀ item ∈ items, item.value.length < 128) := by
  induction h with
  | nil => exact ⟨le_rfl, fun _ item hitem => absurd hitem List.not_mem_nil⟩
  | @cons ident len rest item items hident _ hlen _ ih =>
    have hident : 1 ≤ ident.length := List.length_pos_iff.mpr hident.ne_nil
    have hlength : 1 ≤ len.length := List.length_pos_iff.mpr hlen.ne_nil
    simp only [List.length_append, List.map_cons, List.sum_cons, List.forall_mem_cons]
    refine ⟨by omega, fun heq => ⟨?_, ih.2 (by omega)⟩⟩
    -- the length took one octet, so it is in the short form
    obtain ⟨b, rfl⟩ := List.length_eq_one_iff.mp (by omega : len.length = 1)
    rcases hlen with ⟨hshort, -, hn⟩ | ⟨-, hone, -⟩
    · omega
    · simp at hone

/-- Octets as tags and values. -/
def readBack (octets : List UInt8) : Except TlvError (List (UInt32 × List UInt8)) :=
  (Tlv.parse octets).map (List.map fun t => (t.tag, t.value))

/-- Objects with one-octet tags, behind one-octet lengths. -/
def shortObjects (fields : List (UInt8 × List UInt8)) : List UInt8 :=
  fields.flatMap fun f => shortObject f.1 f.2

def asRead (fields : List (UInt8 × List UInt8)) : List (UInt32 × List UInt8) :=
  fields.map fun f => (f.1.toUInt32, f.2)

theorem length_shortObjects (fields : List (UInt8 × List UInt8)) :
    (shortObjects fields).length = (fields.map fun f => f.2.length + 2).sum := by
  rw [shortObjects, List.length_flatMap]
  rfl

theorem isSequence_shortObjects {fields : List (UInt8 × List UInt8)}
    (htags : ∀ f ∈ fields, IsIdentifier [f.1]) (hshort : ∀ f ∈ fields, f.2.length < 128) :
    ∃ items, IsSequence (shortObjects fields) items ∧
      items.map (fun t => (t.tag, t.value)) = asRead fields := by
  induction fields with
  | nil => exact ⟨[], .nil, rfl⟩
  | cons f fields ih =>
    rw [List.forall_mem_cons] at htags hshort
    obtain ⟨items, hitems, hread⟩ := ih htags.2 hshort.2
    let item : Tlv := ⟨f.1.toUInt32, f.2, by omega⟩
    have hlength : IsLength [UInt8.ofNat f.2.length] item.value.length := by
      have hn : (UInt8.ofNat f.2.length).toNat = f.2.length := by
        rw [UInt8.toNat_ofNat']
        omega
      exact .inl ⟨by omega, rfl, hn.symm⟩
    have htag : item.tag.toNat = readBE [f.1] := by
      simp [item, readBE]
    refine ⟨item :: items, ?_, ?_⟩
    · have hcons := IsSequence.cons htags.1 htag hlength hitems
      simpa [shortObjects, shortObject, item] using hcons
    · rw [List.map_cons, hread]
      rfl

/-- They are read back as they are exactly when every value is shorter than 128
    octets. -/
theorem readBack_shortObjects_iff {fields : List (UInt8 × List UInt8)}
    (hfew : fields.length ≤ MAX_TLVS) (htags : ∀ f ∈ fields, IsIdentifier [f.1]) :
    readBack (shortObjects fields) = .ok (asRead fields) ↔ ∀ f ∈ fields, f.2.length < 128 := by
  constructor
  · intro h
    unfold readBack at h
    cases hparse : Tlv.parse (shortObjects fields) with
    | error e =>
      rw [hparse] at h
      cases h
    | ok items =>
      rw [hparse] at h
      have hread : items.map (fun t => (t.tag, t.value)) = asRead fields := Except.ok.inj h
      have hvalues : items.map Tlv.value = fields.map Prod.snd := by
        have := congrArg (List.map Prod.snd) hread
        simpa [asRead, Function.comp_def] using this
      obtain ⟨hsequence, -⟩ := parse_iff_isSequence.mp hparse
      -- no octet is left over for a longer length
      have hsum : (shortObjects fields).length =
          (items.map fun item => item.value.length + 2).sum := by
        rw [length_shortObjects]
        have := congrArg (fun l => (l.map fun v : List UInt8 => v.length + 2).sum) hvalues
        simpa [Function.comp_def] using this.symm
      have hall := hsequence.length_le.2 hsum
      intro f hf
      have hmem : f.2 ∈ items.map Tlv.value := by
        rw [hvalues]
        exact List.mem_map_of_mem hf
      obtain ⟨item, hitem, heq⟩ := List.mem_map.mp hmem
      rw [← heq]
      exact hall item hitem
  · intro hshort
    obtain ⟨items, hitems, hread⟩ := isSequence_shortObjects htags hshort
    have hlength : items.length = fields.length := by
      have := congrArg List.length hread
      simpa [asRead] using this
    rw [readBack, parse_iff_isSequence.mpr ⟨hitems, by omega⟩]
    exact congrArg Except.ok hread

end Response

namespace Workflow

open Response

/-! ### The install parameters -/

theorem pushTlv_eq_ok {out out' value : List UInt8} {tag : UInt8}
    (h : pushTlv out tag value = .ok out') : out' = out ++ shortObject tag value := by
  obtain ⟨len, hlen, h⟩ := bind_eq_ok.mp h
  obtain ⟨-, rfl⟩ := Capdu.lenByte_eq_ok.mp (ofBuild_eq_ok.mp hlen)
  obtain ⟨_, htag, h⟩ := bind_eq_ok.mp h
  obtain ⟨rfl, -⟩ := extend_eq_ok.mp htag
  obtain ⟨_, hlen, h⟩ := bind_eq_ok.mp h
  obtain ⟨rfl, -⟩ := extend_eq_ok.mp hlen
  obtain ⟨rfl, -⟩ := extend_eq_ok.mp h
  simp [shortObject]

/-- The fields of install parameters. -/
def paramFields (appParams sysParams : List UInt8) : List (UInt8 × List UInt8) :=
  (TAG_C9_APP_PARAMS, appParams) ::
    if sysParams.isEmpty then [] else [(TAG_EF_SYS_PARAMS, sysParams)]

theorem buildInstallParams_eq_ok {appParams sysParams out : List UInt8}
    (h : buildInstallParams appParams sysParams = .ok out) :
    out = shortObjects (paramFields appParams sysParams) := by
  obtain ⟨params, hparams, h⟩ := bind_eq_ok.mp h
  obtain rfl := pushTlv_eq_ok hparams
  unfold paramFields
  split at h
  · next hempty =>
    rw [if_pos hempty, ← Except.ok.inj h]
    simp [shortObjects]
  · next hempty =>
    rw [if_neg hempty, pushTlv_eq_ok h]
    simp [shortObjects]

theorem readBack_installParams {appParams sysParams out : List UInt8}
    (h : buildInstallParams appParams sysParams = .ok out) :
    readBack out = .ok ((0xC9, appParams) ::
        if sysParams.isEmpty then [] else [(0xEF, sysParams)]) ↔
      appParams.length < 128 ∧ sysParams.length < 128 := by
  have hfields : asRead (paramFields appParams sysParams) = (0xC9, appParams) ::
      if sysParams.isEmpty then [] else [(0xEF, sysParams)] := by
    unfold asRead paramFields
    split <;> rfl
  have htags : ∀ f ∈ paramFields appParams sysParams, Tlv.IsIdentifier [f.1] := by
    unfold paramFields
    rw [List.forall_mem_cons]
    refine ⟨(by decide : Tlv.IsIdentifier [TAG_C9_APP_PARAMS]), ?_⟩
    split
    · exact fun f hf => absurd hf List.not_mem_nil
    · rw [List.forall_mem_singleton]
      exact (by decide : Tlv.IsIdentifier [TAG_EF_SYS_PARAMS])
  have hfew : (paramFields appParams sysParams).length ≤ MAX_TLVS := by
    unfold paramFields
    split <;> simp [MAX_TLVS]
  rw [← hfields, buildInstallParams_eq_ok h, readBack_shortObjects_iff hfew htags]
  unfold paramFields
  rw [List.forall_mem_cons]
  split
  · next hempty => simp [List.isEmpty_iff.mp hempty]
  · rw [List.forall_mem_singleton]

/-! ### The AID of a command -/

/-- The data field that consists of an AID. -/
theorem readBack_aidField {cla ins p1 p2 : UInt8} {aid data : List UInt8} {c : Capdu}
    (hdata : Capdu.pushLv [0x4F] aid = .ok data)
    (h : Capdu.build cla ins p1 p2 data true = .ok c) :
    readBack c.data = .ok [(0x4F, aid)] ↔ aid.length < 128 := by
  have hfield : data = shortObjects [(0x4F, aid)] := by
    rw [(Capdu.pushLv_eq_ok.mp hdata).1]
    simp [shortObjects, shortObject]
  have htags : ∀ f ∈ [((0x4F : UInt8), aid)], Tlv.IsIdentifier [f.1] := by
    rw [List.forall_mem_singleton]
    exact (by decide : Tlv.IsIdentifier [0x4F])
  have hiff := readBack_shortObjects_iff (by simp [MAX_TLVS]) htags
  rw [Capdu.data_of_build h, hfield]
  simpa [asRead] using hiff

/-- The TLVs that are written are read back as they are meant exactly when
    their values are shorter than 128 octets. -/
theorem emitted_tlvs_iff (appParams sysParams aid : List UInt8) :
    (∀ out, buildInstallParams appParams sysParams = .ok out →
      (readBack out = .ok ((0xC9, appParams) ::
          if sysParams.isEmpty then [] else [(0xEF, sysParams)]) ↔
        appParams.length < 128 ∧ sysParams.length < 128)) ∧
    (∀ cascade c, Capdu.deleteObject aid cascade = .ok c →
      (readBack c.data = .ok [(0x4F, aid)] ↔ aid.length < 128)) ∧
    (∀ p1 p2 c, Capdu.getStatusP2 p1 p2 aid = .ok c →
      (readBack c.data = .ok [(0x4F, aid)] ↔ aid.length < 128)) := by
  refine ⟨?_, ?_, ?_⟩
  · intro out h
    exact readBack_installParams h
  · intro cascade c h
    obtain ⟨_, htag, h⟩ := bind_eq_ok.mp h
    obtain rfl := Except.ok.inj htag
    obtain ⟨data, hdata, h⟩ := bind_eq_ok.mp h
    exact readBack_aidField hdata h
  · intro p1 p2 c h
    obtain ⟨_, htag, h⟩ := bind_eq_ok.mp h
    obtain rfl := Except.ok.inj htag
    obtain ⟨data, hdata, h⟩ := bind_eq_ok.mp h
    exact readBack_aidField hdata h

theorem emitted_tlvs_iff_short :
    (readBack [0xC9, 0x01, 0x07] = .ok [(0xC9, [0x07])] ↔
        ([0x07] : List UInt8).length < 128 ∧ ([] : List UInt8).length < 128) ∧
      (readBack (Capdu.data [0x84, 0xE4, 0x00, 0x00, 0x03, 0x4F, 0x01, 0xA0, 0x00]) =
          .ok [(0x4F, [0xA0])] ↔ ([0xA0] : List UInt8).length < 128) ∧
      (readBack (Capdu.data [0x80, 0xF2, 0x40, 0x02, 0x03, 0x4F, 0x01, 0xA0, 0x00]) =
          .ok [(0x4F, [0xA0])] ↔ ([0xA0] : List UInt8).length < 128) :=
  ⟨(emitted_tlvs_iff [0x07] [] [0xA0]).1 [0xC9, 0x01, 0x07] rfl,
    (emitted_tlvs_iff [0x07] [] [0xA0]).2.1 false _ rfl,
    (emitted_tlvs_iff [0x07] [] [0xA0]).2.2 0x40 0x02 _ rfl⟩

/-- Parameters of 128 octets. -/
def longParams : List UInt8 := List.replicate 128 0x00

/-- They are admitted, and read back as something else. -/
theorem long_params_misread :
    ¬∀ appParams sysParams out, buildInstallParams appParams sysParams = .ok out →
      readBack out = .ok ((0xC9, appParams) ::
        if sysParams.isEmpty then [] else [(0xEF, sysParams)]) := by
  intro hlaw
  have hbuilt : buildInstallParams longParams [] = .ok (shortObjects [(0xC9, longParams)]) := by
    decide +kernel
  have hread := hlaw longParams [] _ hbuilt
  have hshort := (readBack_installParams hbuilt).mp hread
  rw [longParams, List.length_replicate] at hshort
  exact absurd hshort.1 (lt_irrefl 128)

end Workflow

end Scll

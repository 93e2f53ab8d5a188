import Scll.Cap.StreamSpec

/-! # Small CAPs

    A decompressor for the simplest DEFLATE streams, those of one stored block,
    and a writer of ZIP files to make small CAPs with.
-/

namespace Scll

namespace Cap

open Octets LoadFileDataBlock

/-! ### Stored blocks -/

/-- The octets of a stream that is one stored block: `01`, the length and its
    complement, low octet first, and the octets. -/
def storedBlock : List UInt8 → Option (List UInt8)
  | 0x01 :: l₀ :: l₁ :: n₀ :: n₁ :: octets =>
      if n₀ = ~~~l₀ ∧ n₁ = ~~~l₁ ∧ readBE [l₁, l₀] ≤ octets.length then
        some (octets.take (readBE [l₁, l₀]))
      else none
  | _ => none

/-- What a stream of one stored block decompresses to; nothing else is well
    formed. A stored block has no distances. -/
def inflateStored : Deflate where
  inflate raw :=
    match storedBlock raw with
    | some octets => (octets, true)
    | none => ([], false)
  Within _ := True
  within_of_ok _ := trivial

theorem inflateStored_some {raw octets : List UInt8} (h : storedBlock raw = some octets) :
    inflateStored raw = (octets, true) := by
  simp only [inflateStored, h]

theorem inflateStored_none {raw : List UInt8} (h : storedBlock raw = none) :
    inflateStored raw = ([], false) := by
  simp only [inflateStored, h]

theorem stays_inflateStored (zip : List UInt8) (loc : CompLoc) : Stays inflateStored zip loc :=
  fun _ _ _ => trivial

/-- Copy octets of the block, `left` of which are still to come. -/
def copyBlock (left head : ℕ) (input : List UInt8) (room : ℕ) : Inflated (Option ℕ) :=
  let written := (input.drop head).take (min left room)
  { status := if written.length = left then .done else .hasMoreOutput
    consumed := min (head + written.length) input.length
    written
    state := some (left - written.length) }

/-- The block behind its head of five octets. -/
theorem storedBlock_split {raw octets : List UInt8} (h : storedBlock raw = some octets) :
    ∃ head behind, head.length = 5 ∧ raw = head ++ (octets ++ behind) := by
  unfold storedBlock at h
  split at h
  · next l₀ l₁ n₀ n₁ block =>
    split at h
    · obtain rfl := Option.some.inj h
      exact ⟨[0x01, l₀, l₁, n₀, n₁], _, rfl, by rw [List.take_append_drop]; rfl⟩
    · cases h
  · cases h

/-- The decompressor: it has read the head of the block and has some octets left
    to copy, or it has read nothing. -/
def storedInflater : Inflater (Option ℕ) where
  new := none
  decompress state input buffer outPos _ :=
    match state with
    | some left => copyBlock left 0 input (buffer.length - outPos)
    | none =>
        match storedBlock input with
        | some octets => copyBlock octets.length 5 input (buffer.length - outPos)
        | none => ⟨.failed, 0, [], none⟩
  consumed_le state input buffer outPos _ := by
    split
    · exact Nat.min_le_right ..
    · split
      · exact Nat.min_le_right ..
      · exact Nat.zero_le _
  written_le state input buffer outPos _ hpos := by
    have hcopy : ∀ left head, outPos +
        (copyBlock left head input (buffer.length - outPos)).written.length ≤ buffer.length := by
      intro left head
      have := List.length_take_le' (min left (buffer.length - outPos)) (input.drop head)
      have := List.length_take_le (min left (buffer.length - outPos)) (input.drop head)
      simp only [copyBlock]
      omega
    split
    · exact hcopy ..
    · split
      · exact hcopy ..
      · exact hpos

/-- Where the decompressor is in its block. -/
def InBlock (raw : List UInt8) (state : Option ℕ) (used : ℕ) (out : List UInt8) : Prop :=
  (state = none ∧ used = 0 ∧ out = []) ∨
    ∃ octets, storedBlock raw = some octets ∧ out <+: octets ∧
      state = some (octets.length - out.length) ∧ used = 5 + out.length

/-- Copying goes on in the block. -/
theorem inBlock_copy {raw octets out : List UInt8} (hblock : storedBlock raw = some octets)
    (hout : out <+: octets) (room used head : ℕ) (hused : used + head = 5 + out.length) :
    let r := copyBlock (octets.length - out.length) head (raw.drop used) room
    InBlock raw r.state (used + r.consumed) (out ++ r.written) ∧ out ++ r.written <+: octets ∧
      r.written.length = min (octets.length - out.length) room := by
  obtain ⟨front, behind, hfront, hraw⟩ := storedBlock_split hblock
  obtain ⟨more, rfl⟩ := hout
  have hnext : (raw.drop used).drop head = more ++ behind := by
    rw [List.drop_drop, hused, hraw, ← List.drop_drop, List.append_assoc,
      List.drop_left' hfront, List.drop_left]
  have hsize : (raw.drop used).length = head + (more ++ behind).length := by
    have := congrArg List.length hnext
    have hlen := congrArg List.length hraw
    simp only [List.length_append, List.length_drop] at this hlen ⊢
    omega
  have hleft : (out ++ more).length - out.length = more.length := by
    rw [List.length_append]
    omega
  have hwritten : ((raw.drop used).drop head).take (min more.length room) =
      more.take (min more.length room) := by
    rw [hnext, List.take_append_of_le_length (Nat.min_le_left ..)]
  have hcount : (more.take (min more.length room)).length = min more.length room := by
    rw [List.length_take]
    omega
  have hsofar : out ++ more.take (min more.length room) <+: out ++ more :=
    (List.prefix_append_right_inj out).mpr (List.take_prefix ..)
  dsimp only [copyBlock]
  rw [hleft, hwritten, hcount]
  refine ⟨.inr ⟨out ++ more, hblock, hsofar, ?_, ?_⟩, hsofar, rfl⟩
  · rw [List.length_append, List.length_append, hcount]
    congr 1
    omega
  · rw [hsize, List.length_append, List.length_append, hcount]
    omega

/-- A call of the decompressor, from a point in its block. -/
theorem feed_inBlock {raw : List UInt8} {state : Option ℕ} {used : ℕ} {out window : List UInt8}
    (h : InBlock raw state used out) (hsize : window.length = INFLATE_WINDOW) :
    let r := storedInflater.feed raw state used out window
    (storedBlock raw = none ∧ r.status = .failed) ∨
      ∃ octets, storedBlock raw = some octets ∧
        InBlock raw r.state (used + r.consumed) (out ++ r.written) ∧ out ++ r.written <+: octets ∧
        r.written.length =
          min (octets.length - out.length) (INFLATE_WINDOW - ringPos out.length) ∧
        r.status = if r.written.length = octets.length - out.length then .done
          else .hasMoreOutput := by
  rcases h with ⟨rfl, rfl, rfl⟩ | ⟨octets, hblock, hout, rfl, rfl⟩
  · cases hblock : storedBlock raw with
    | none =>
      left
      refine ⟨rfl, ?_⟩
      simp only [Inflater.feed, storedInflater, List.drop_zero, hblock]
    | some octets =>
      right
      obtain ⟨hin, hfront, hlen⟩ := inBlock_copy hblock List.nil_prefix
        (INFLATE_WINDOW - ringPos 0) 0 5 rfl
      refine ⟨octets, rfl, ?_⟩
      simp only [Inflater.feed, storedInflater, List.drop_zero, hblock, hsize]
      exact ⟨hin, hfront, hlen, rfl⟩
  · right
    obtain ⟨hin, hfront, hlen⟩ := inBlock_copy hblock hout
      (INFLATE_WINDOW - ringPos out.length) (5 + out.length) 0 rfl
    refine ⟨octets, hblock, ?_⟩
    simp only [Inflater.feed, storedInflater, hsize]
    exact ⟨hin, hfront, hlen, rfl⟩

theorem decompressing_inBlock {raw : List UInt8} {state : Option ℕ} {used : ℕ} {out : List UInt8}
    (h : Decompressing storedInflater raw state used out) : InBlock raw state used out := by
  induction h with
  | start => exact .inl ⟨rfl, rfl, rfl⟩
  | call _ hsize _ hmore ih =>
    rcases feed_inBlock ih hsize with ⟨-, hfailed⟩ | ⟨_, -, hin, -⟩
    · rcases hmore with hmore | hmore <;> rw [hfailed] at hmore <;> cases hmore
    · exact hin

/-- The decompressor is right about streams of one stored block. -/
theorem storedInflater_correct : Correct storedInflater inflateStored where
  written _ h hsize _ hstatus := by
    rcases feed_inBlock (decompressing_inBlock h) hsize with
      ⟨-, hfailed⟩ | ⟨octets, hblock, -, hfront, -⟩
    · exact absurd hfailed hstatus
    · rw [inflateStored_some hblock]
      exact hfront
  done _ h hsize _ hstatus := by
    rcases feed_inBlock (decompressing_inBlock h) hsize with
      ⟨-, hfailed⟩ | ⟨octets, hblock, -, hfront, -, hif⟩
    · rw [hfailed] at hstatus
      cases hstatus
    · rw [inflateStored_some hblock]
      refine ⟨rfl, hfront.eq_of_length ?_⟩
      rw [hif] at hstatus
      split at hstatus
      · next hlen =>
        rw [List.length_append, hlen]
        have := hfront.length_le
        rw [List.length_append] at this
        omega
      · cases hstatus
  progress := by
    intro raw state used out window h hsize _ hok
    rcases feed_inBlock (decompressing_inBlock h) hsize with
      ⟨hblock, -⟩ | ⟨octets, hblock, -, hfront, hlen, hif⟩
    · rw [inflateStored_none hblock] at hok
      cases hok
    · rw [hif]
      split
      · simp
      · next hleft =>
        refine ⟨by simp, fun _ => .inr ?_⟩
        have hroom := ringPos_lt out.length
        rw [← List.length_pos_iff, hlen]
        rw [hlen] at hleft
        omega

/-! ### ZIP files -/

/-- `n` in `w` octets, low octet first. -/
def writeLE (w n : ℕ) : List UInt8 := (writeBE w n).reverse

/-- An entry of a ZIP file. -/
structure ZipEntry where
  name : String
  method : ℕ
  /-- The declared length. -/
  uncompSize : ℕ
  data : List UInt8

/-- Local header and data of an entry. -/
def localRecord (e : ZipEntry) : List UInt8 :=
  writeLE 4 SIG_LFH ++ List.replicate 4 0 ++ writeLE 2 e.method ++ List.replicate 8 0 ++
    writeLE 4 e.data.length ++ writeLE 4 e.uncompSize ++ writeLE 2 (ascii e.name).length ++
    writeLE 2 0 ++ ascii e.name ++ e.data

/-- Central-directory record of the entry whose local header is at `off`. -/
def centralRecord (off : ℕ) (e : ZipEntry) : List UInt8 :=
  writeLE 4 SIG_CDH ++ List.replicate 6 0 ++ writeLE 2 e.method ++ List.replicate 8 0 ++
    writeLE 4 e.data.length ++ writeLE 4 e.uncompSize ++ writeLE 2 (ascii e.name).length ++
    List.replicate 12 0 ++ writeLE 4 off ++ ascii e.name

/-- The central directory of entries from `off` on. -/
def centralDirectory : ℕ → List ZipEntry → List UInt8
  | _, [] => []
  | off, e :: entries =>
      centralRecord off e ++ centralDirectory (off + (localRecord e).length) entries

/-- A ZIP file. -/
def zipOf (entries : List ZipEntry) : List UInt8 :=
  let files := entries.flatMap localRecord
  let directory := centralDirectory 0 entries
  files ++ directory ++ writeLE 4 SIG_EOCD ++ List.replicate 4 0 ++ writeLE 2 entries.length ++
    writeLE 2 entries.length ++ writeLE 4 directory.length ++ writeLE 4 files.length ++ writeLE 2 0

/-- `Header.cap` of a package. -/
def headerOctets : List UInt8 :=
  [0x01, 0x00, 0x0F, 0xDE, 0xCA, 0xFF, 0xED, 0x01, 0x02, 0x00, 0x00, 0x01, 0x05, 0xA0, 0x00,
    0x00, 0x01, 0x52]

/-- A CAP with a STORED and a DEFLATE component, and one that is never loaded. -/
def sampleCap : List UInt8 :=
  zipOf
    [⟨"p/javacard/Directory.cap", METHOD_DEFLATE, 3,
        [0x01, 0x03, 0x00, 0xFC, 0xFF, 0x02, 0x00, 0x1F]⟩,
      ⟨"p/javacard/Header.cap", METHOD_STORED, 18, headerOctets⟩,
      ⟨"p/javacard/Debug.cap", METHOD_STORED, 3, [0x44, 0x42, 0x47]⟩]

/-- It is accepted, with its two components. -/
theorem parse_sampleCap :
    ∃ cap infl, parse storedInflater sampleCap (InflateCtx.new storedInflater) = .ok (cap, infl) ∧
      cap.locs = some ⟨METHOD_STORED, 113, 18, 18⟩ :: some ⟨METHOD_DEFLATE, 54, 8, 3⟩ ::
        List.replicate 9 none := by
  have hlocs : (parse storedInflater sampleCap (InflateCtx.new storedInflater)).map (·.1.locs) =
      .ok (some ⟨METHOD_STORED, 113, 18, 18⟩ :: some ⟨METHOD_DEFLATE, 54, 8, 3⟩ ::
        List.replicate 9 none) := by decide +kernel
  obtain ⟨⟨cap, infl⟩, hparse, hlocs⟩ := map_eq_ok hlocs
  exact ⟨cap, infl, hparse, hlocs⟩

end Cap

end Scll

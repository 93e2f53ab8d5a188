import Scll.Cap.StreamSpec

/-! # The header of the load file

    The `'C4'` tag and the length of the content have a writer of their own,
    apart from the BER-TLV encoder: a buffer of five octets, a length and the
    number of octets handed out. However the octets are asked for, and again
    after a reset, they are the ones the encoder writes before the value.
-/

namespace Scll

namespace Cap

open Octets Tlv

/-- The capacity of the buffer. -/
def LFDB_HEADER_MAX : ℕ := 5

/-- The tag and the length of the content, and how much of them is handed out. -/
structure LfdbHeader where
  buf : List UInt8
  /-- The octets of the buffer in use. -/
  len : ℕ
  /-- The octets handed out so far. -/
  emitted : ℕ
  size : buf.length = LFDB_HEADER_MAX
  len_le : len ≤ LFDB_HEADER_MAX
  emitted_le : emitted ≤ len

namespace LfdbHeader

/-- `C4` and the BER length. The buffer has room for three length octets. -/
def new (contentLen : ℕ) : LfdbHeader :=
  if contentLen < 0x80 then
    ⟨[0xC4, lengthByte contentLen 0, 0, 0, 0], 2, 0, rfl, by decide, by decide⟩
  else if contentLen ≤ 0xFF then
    ⟨[0xC4, 0x81, lengthByte contentLen 0, 0, 0], 3, 0, rfl, by decide, by decide⟩
  else if contentLen ≤ 0xFFFF then
    ⟨[0xC4, 0x82, lengthByte contentLen 8, lengthByte contentLen 0, 0], 4, 0, rfl, by decide,
      by decide⟩
  else
    ⟨[0xC4, 0x83, lengthByte contentLen 16, lengthByte contentLen 8, lengthByte contentLen 0],
      5, 0, rfl, by decide, by decide⟩

/-- Octets not yet handed out. -/
def remaining (h : LfdbHeader) : ℕ := h.len - h.emitted

/-- Copy as many remaining octets as fit into a buffer of `room` octets. -/
def emit (h : LfdbHeader) (room : ℕ) : List UInt8 × LfdbHeader :=
  let take := min h.remaining room
  ((h.buf.drop h.emitted).take take,
    { h with
      emitted := h.emitted + take
      emitted_le := by
        have := h.emitted_le
        dsimp only [take, remaining]
        omega })

/-- Start again. -/
def reset (h : LfdbHeader) : LfdbHeader := { h with emitted := 0, emitted_le := Nat.zero_le _ }

/-! ### Runs -/

/-- What is done with a header. -/
inductive Call where
  | emit (room : ℕ)
  | reset

/-- The header after a call. -/
def after (h : LfdbHeader) : Call → LfdbHeader
  | .emit room => (h.emit room).2
  | .reset => h.reset

/-- The header after calls. -/
def run (h : LfdbHeader) (calls : List Call) : LfdbHeader := calls.foldl after h

/-- All that `emit` hands out, to buffers of these sizes one after another. -/
def emitAll : LfdbHeader → List ℕ → List UInt8
  | _, [] => []
  | h, room :: rooms => (h.emit room).1 ++ (h.emit room).2.emitAll rooms

/-- The octets in use. -/
def octets (h : LfdbHeader) : List UInt8 := h.buf.take h.len

theorem length_octets (h : LfdbHeader) : h.octets.length = h.len := by
  rw [octets, List.length_take, h.size]
  exact Nat.min_eq_left h.len_le

/-- An `emit` hands out the next octets in use. -/
theorem emit_fst (h : LfdbHeader) (room : ℕ) :
    (h.emit room).1 = (h.octets.drop h.emitted).take room := by
  have hemitted := h.emitted_le
  rw [octets, List.drop_take, List.take_take, Nat.min_comm]
  rfl

theorem emit_octets (h : LfdbHeader) (room : ℕ) : (h.emit room).2.octets = h.octets := rfl

theorem emit_emitted (h : LfdbHeader) (room : ℕ) :
    (h.emit room).2.emitted = h.emitted + min h.remaining room := rfl

/-- What is left after an `emit` is what the next ones hand out. -/
theorem drop_emit (h : LfdbHeader) (room : ℕ) :
    h.octets.drop (h.emit room).2.emitted = (h.octets.drop h.emitted).drop room := by
  rw [emit_emitted, List.drop_drop, remaining, ← length_octets]
  by_cases hroom : room ≤ h.octets.length - h.emitted
  · rw [Nat.min_eq_right hroom]
  · -- room to spare: nothing is left on either side
    rw [List.drop_eq_nil_of_le (by omega), List.drop_eq_nil_of_le (by omega)]

/-- Whatever the sizes of the buffers, the first octets that are left. -/
theorem emitAll_eq (h : LfdbHeader) (rooms : List ℕ) :
    h.emitAll rooms = (h.octets.drop h.emitted).take rooms.sum := by
  induction rooms generalizing h with
  | nil => rfl
  | cons room rooms ih =>
    rw [emitAll, ih, emit_fst, emit_octets, drop_emit, List.sum_cons, List.take_add]

/-- A reset undoes whatever calls there were. -/
theorem reset_run (h : LfdbHeader) (calls : List Call) : (h.run calls).reset = h.reset := by
  induction calls generalizing h with
  | nil => rfl
  | cons call calls ih =>
    have hcall : (h.after call).reset = h.reset := by
      cases call <;> rfl
    exact (ih (h.after call)).trans hcall

theorem reset_new (n : ℕ) : (new n).reset = new n := by
  unfold new
  split_ifs <;> rfl

theorem emitted_new (n : ℕ) : (new n).emitted = 0 := congrArg emitted (reset_new n).symm

/-! ### The header of the stream -/

/-- The octets of a new header are the ones the stream starts with. -/
theorem octets_new (n : ℕ) : (new n).octets = lfdbHeader n := by
  unfold new lfdbHeader
  split_ifs <;> rfl

/-! ### The two length writers -/

/-- The object that a header stands before. -/
def loadFileObject (value : List UInt8) (h : value.length < 2 ^ 24) : Tlv :=
  ⟨0xC4, value, h.trans (by decide)⟩

theorem objectOctets_loadFileObject (value : List UInt8) (h : value.length < 2 ^ 24) :
    objectOctets (loadFileObject value h) = (new value.length).octets ++ value := by
  have htag : significant (writeBE 4 (0xC4 : UInt32).toNat) = [0xC4] := by decide
  rw [octets_new, lfdbHeader_eq h, objectOctets]
  show significant (writeBE 4 (0xC4 : UInt32).toNat) ++ lengthOctets value.length ++ value = _
  rw [htag]
  rfl

/-- What a header for a content hands out, to buffers of any sizes and again
    after any calls and a reset, are the first octets the encoder writes for an
    object with the tag `'C4'` and that content: all of those before the value
    once the buffers have room for them, and nothing else. The parser reads the
    object back from them and the content. -/
theorem header_agrees_with_encode (value : List UInt8) (h : value.length < 2 ^ 24) :
    ∃ front : List UInt8,
      (∀ rooms, (new value.length).emitAll rooms = front.take rooms.sum) ∧
      (∀ calls rooms, ((new value.length).run calls).reset.emitAll rooms =
        front.take rooms.sum) ∧
      (∀ out n out', encode [loadFileObject value h] out = .ok (n, out') →
        out'.take n = front ++ value) ∧
      (∀ out, front.length + value.length ≤ out.length →
        ∃ n out', encode [loadFileObject value h] out = .ok (n, out')) ∧
      Tlv.parse (front ++ value) = .ok [loadFileObject value h] := by
  have hencoding : encoding [loadFileObject value h] = (new value.length).octets ++ value := by
    -- a sequence of one object
    rw [← objectOctets_loadFileObject value h]
    exact List.append_nil _
  have hemit : ∀ rooms, (new value.length).emitAll rooms =
      (new value.length).octets.take rooms.sum := by
    intro rooms
    rw [emitAll_eq, emitted_new, List.drop_zero]
  refine ⟨(new value.length).octets, hemit, ?_, ?_, ?_, ?_⟩
  · intro calls rooms
    rw [reset_run, reset_new, hemit]
  · intro out n out' hencode
    obtain ⟨rfl, htake⟩ := encode_ok hencode
    rw [htake, hencoding]
  · intro out hfits
    have hroom : (encoding [loadFileObject value h]).length ≤ out.length := by
      rw [hencoding, List.length_append]
      exact hfits
    obtain ⟨out', hencode, -⟩ := encode_of_fits hroom
    exact ⟨_, out', hencode⟩
  · rw [← hencoding]
    refine parse_encoding (show 1 ≤ MAX_TLVS by decide) fun item hitem => ?_
    rw [List.mem_singleton] at hitem
    rw [hitem]
    exact ⟨[0xC4], by decide, rfl⟩

/-- Two hundred octets, the first octets of the header asked for one by one. -/
theorem header_agrees_with_encode_two_hundred :
    ∃ front : List UInt8, (new 200).emitAll [1, 0, 1, 7] = front ∧
      ∃ object, object.value = List.replicate 200 0x2A ∧
        Tlv.parse (front ++ List.replicate 200 0x2A) = .ok [object] := by
  have hlen : (List.replicate 200 (0x2A : UInt8)).length = 200 := List.length_replicate
  obtain ⟨front, hemit, -, -, -, hparse⟩ :=
    header_agrees_with_encode (List.replicate 200 0x2A) (by rw [hlen]; decide)
  rw [hlen] at hemit
  have hfront : front.take 9 = [0xC4, 0x81, 0xC8] := (hemit [1, 0, 1, 7]).symm
  refine ⟨front, ?_, _, rfl, hparse⟩
  rw [hemit]
  have hthree : (front.take 9).length = 3 := congrArg List.length hfront
  rw [List.length_take] at hthree
  exact List.take_of_length_le (by show front.length ≤ 9; omega)

end LfdbHeader

end Cap

end Scll

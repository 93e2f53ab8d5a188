import Scll.Framework.Octets
import Scll.Framework.Sequence
import Scll.Limits

/-! # BER-TLV

    The parser and the encoder of BER-TLV objects. A cursor into the input is
    the octets not read yet: `parse_tag(input, &mut pos)` becomes a function
    from the unread octets to the value and the octets that remain.

    The parser is lenient (it accepts non-minimal long-form lengths); the
    encoder always writes the minimal form.
-/

namespace Scll

open Octets Sequence

/-- A parsed tag-length-value triple. `value` is a slice, so its length is a
    `usize`. -/
structure Tlv where
  /-- The big-endian concatenation of the identifier octets. -/
  tag : UInt32
  value : List UInt8
  /-- A slice is addressable. -/
  addressable : value.length < 2 ^ 64
  deriving DecidableEq

/-- TLV parse/encode failure. -/
inductive TlvError where
  /-- Length field runs past the end of the buffer. -/
  | truncated
  /-- Malformed length encoding, or a tag wider than four octets. -/
  | badLength
  /-- More than `MAX_TLVS` top-level objects in the input. -/
  | tooMany
  /-- `encode` output buffer too small. -/
  | overflow
  deriving DecidableEq, Repr

namespace Tlv

/-- Low 5 bits of the leading tag octet all set: the tag continues. -/
def TAG_MULTIBYTE : UInt8 := 0x1F
/-- b8 of a subsequent tag octet set: another tag octet follows. -/
def TAG_MORE : UInt8 := 0x80
/-- Largest tag width a `u32` holds. -/
def TAG_MAX_OCTETS : ℕ := 4
/-- b8 of the leading length octet set: long form, low 7 bits give the count. -/
def LEN_LONG : UInt8 := 0x80

/-! ### Reading -/

/-- The subsequent octets of a tag, with `room` more of them representable. -/
def parseTagMore : ℕ → UInt32 → List UInt8 → Except TlvError (UInt32 × List UInt8)
  | _, _, [] => .error .truncated
  | 0, _, _ :: _ => .error .badLength
  | room + 1, tag, b :: rest =>
      let tag := (tag <<< 8) ||| b.toUInt32
      if b &&& TAG_MORE = 0 then .ok (tag, rest) else parseTagMore room tag rest

/-- Read one (possibly multi-octet) tag. -/
def parseTag : List UInt8 → Except TlvError (UInt32 × List UInt8)
  | [] => .error .truncated
  | b0 :: rest =>
      if b0 &&& TAG_MULTIBYTE = TAG_MULTIBYTE then
        parseTagMore (TAG_MAX_OCTETS - 1) b0.toUInt32 rest
      else .ok (b0.toUInt32, rest)

/-- The `count` octets of a long-form length. -/
def parseLenMore : ℕ → UInt64 → List UInt8 → Except TlvError (UInt64 × List UInt8)
  | 0, len, rest => .ok (len, rest)
  | _ + 1, _, [] => .error .truncated
  | count + 1, len, b :: rest => parseLenMore count ((len <<< 8) ||| b.toUInt64) rest

/-- Read a definite BER length (short or long form). -/
def parseLen : List UInt8 → Except TlvError (UInt64 × List UInt8)
  | [] => .error .truncated
  | b0 :: rest =>
      if b0 &&& LEN_LONG = 0 then .ok (b0.toUInt64, rest)
      else
        let count := (b0 &&& ~~~LEN_LONG).toNat
        -- `0x80` is the indefinite form; wider than a `usize` cannot index
        if count = 0 ∨ count > 8 then .error .badLength
        else parseLenMore count 0 rest

/-- Read one object. -/
def parseObject (input : List UInt8) : Except TlvError (Tlv × List UInt8) := do
  let (tag, rest) ← parseTag input
  let (len, rest) ← parseLen rest
  if len.toNat > rest.length then .error .truncated
  else
    .ok (⟨tag, rest.take len.toNat, (List.length_take_le ..).trans_lt len.toNat_lt⟩,
      rest.drop len.toNat)

/-- Parse a sequence of top-level objects. -/
def parse (input : List UInt8) : Except TlvError (List Tlv) :=
  readMany parseObject .tooMany MAX_TLVS input

/-! ### Writing -/

/-- Copy `src` into `out` at `pos`, bounds-checked; returns the new position. -/
def writeBytes (out : List UInt8) (pos : ℕ) (src : List UInt8) :
    Except TlvError (ℕ × List UInt8) :=
  if pos + src.length > out.length then .error .overflow
  else .ok (pos + src.length, overwrite out pos src)

/-- Write a tag as its minimal big-endian identifier octets. -/
def writeTag (tag : UInt32) (out : List UInt8) (pos : ℕ) : Except TlvError (ℕ × List UInt8) :=
  writeBytes out pos (significant (writeBE 4 tag.toNat))

/-- Write a definite BER length in its minimal canonical form. -/
def writeLen (len : ℕ) (out : List UInt8) (pos : ℕ) : Except TlvError (ℕ × List UInt8) := do
  if len < LEN_LONG.toNat then writeBytes out pos [UInt8.ofNat len]
  else
    let body := significant (writeBE 8 len)
    let (pos, out) ← writeBytes out pos [LEN_LONG ||| UInt8.ofNat body.length]
    writeBytes out pos body

/-- Encode the objects from position `pos` on. -/
def encodeFrom : List Tlv → List UInt8 → ℕ → Except TlvError (ℕ × List UInt8)
  | [], out, pos => .ok (pos, out)
  | item :: items, out, pos => do
      let (pos, out) ← writeTag item.tag out pos
      let (pos, out) ← writeLen item.value.length out pos
      let (pos, out) ← writeBytes out pos item.value
      encodeFrom items out pos

/-- Encode a sequence of objects into `out`: the number of octets written and
    the buffer after the call. -/
def encode (items : List Tlv) (out : List UInt8) : Except TlvError (ℕ × List UInt8) :=
  encodeFrom items out 0

end Tlv

end Scll

import Scll.Cap.Stream
import Scll.Framework.Checked

/-! # The CAP reader on a machine

    The CAP reader once more, with every addition, subtraction and index as a
    machine makes it whose `usize` has `w` bits. Only `checked_add` and
    `saturating_sub` are without fault, and what the reader tests before.
-/

namespace Scll

namespace Cap

namespace Usize

open Octets Checked

variable (w : ℕ)

abbrev Machine (α : Type) := Except (Stop CapError) α

def refused {α : Type} (e : CapError) : Machine α := .error (.error e)

def okOr {α : Type} (o : Option α) (e : CapError) : Machine α :=
  match o with
  | some a => .ok a
  | none => refused e

/-- `ok_or(CapError::Malformed)`. -/
def required {α : Type} (o : Option α) : Machine α := okOr o .malformed

/-! ### Field readers -/

/-- `b.get(at..at + n)`. -/
def field (b : List UInt8) (pos n : ℕ) : Machine (Option (List UInt8)) := do
  let stop ← add w pos n
  .ok (Checked.get b pos stop)

def readU16 (b : List UInt8) (pos : ℕ) : Machine (Option ℕ) := do
  let s ← field w b pos 2
  .ok (s.map fun s => readBE s.reverse)

def readU32 (b : List UInt8) (pos : ℕ) : Machine (Option ℕ) := do
  let s ← field w b pos 4
  .ok (s.map fun s => readBE s.reverse)

def readU16BE (b : List UInt8) (pos : ℕ) : Machine (Option ℕ) := do
  let s ← field w b pos 2
  .ok (s.map readBE)

def readU32BE (b : List UInt8) (pos : ℕ) : Machine (Option ℕ) := do
  let s ← field w b pos 4
  .ok (s.map readBE)

/-! ### The central directory -/

/-- Scan back from a position to `limit`. -/
def findEocdFrom (zip : List UInt8) (limit : ℕ) : ℕ → Machine (Option ℕ)
  | 0 => do
      let sig ← readU32 w zip 0
      if sig = some SIG_EOCD then .ok (some 0) else .ok none
  | i + 1 => do
      let sig ← readU32 w zip (i + 1)
      if sig = some SIG_EOCD then .ok (some (i + 1))
      else if i + 1 = limit then .ok none
      else findEocdFrom zip limit i

def findEocd (zip : List UInt8) : Machine (Option ℕ) :=
  if zip.length < EOCD_MIN then .ok none
  else do
    let maxBack ← sub zip.length EOCD_MIN
    -- `saturating_sub`
    findEocdFrom w zip (maxBack - 0xFFFF) maxBack

def localDataOffset (zip : List UInt8) (localOff : ℕ) : Machine ℕ := do
  let sig ← readU32 w zip localOff
  if sig ≠ some SIG_LFH then refused .malformed
  else do
    let nameAt ← add w localOff 26
    let nameField ← readU16 w zip nameAt
    let nameLen ← required nameField
    let extraAt ← add w localOff 28
    let extraField ← readU16 w zip extraAt
    let extraLen ← required extraField
    -- the end of the header is a checked sum, the fields in it are not
    let dataOff ← required ((checkedAdd w localOff 30).bind fun p =>
      (checkedAdd w p nameLen).bind fun p => checkedAdd w p extraLen)
    if dataOff ≤ zip.length then .ok dataOff else refused .malformed

/-- One central-directory record, up to the end of the name. -/
structure Record where
  method : ℕ
  compSize : ℕ
  uncompSize : ℕ
  name : List UInt8
  localOff : ℕ
  nameEnd : ℕ
  extraLen : ℕ
  commentLen : ℕ

def centralRecord (zip : List UInt8) (pos : ℕ) : Machine Record := do
  let sig ← readU32 w zip pos
  if sig ≠ some SIG_CDH then refused .malformed
  else do
    let methodAt ← add w pos 10
    let methodField ← readU16 w zip methodAt
    let method ← required methodField
    let compAt ← add w pos 20
    let compField ← readU32 w zip compAt
    let compSize ← required compField
    let uncompAt ← add w pos 24
    let uncompField ← readU32 w zip uncompAt
    let uncompSize ← required uncompField
    let nameAt ← add w pos 28
    let nameField ← readU16 w zip nameAt
    let nameLen ← required nameField
    let extraAt ← add w pos 30
    let extraField ← readU16 w zip extraAt
    let extraLen ← required extraField
    let commentAt ← add w pos 32
    let commentField ← readU16 w zip commentAt
    let commentLen ← required commentField
    let localAt ← add w pos 42
    let localField ← readU32 w zip localAt
    let localOff ← required localField
    -- checked, since the name is taken by index
    let nameStart ← add w pos 46
    let nameEnd ← required (checkedAdd w nameStart nameLen)
    if nameEnd > zip.length then refused .malformed
    else do
      let name ← between zip nameStart nameEnd
      .ok { method, compSize, uncompSize, name, localOff, nameEnd, extraLen, commentLen }

def locate (zip : List UInt8) (locs : Locs) (e : Record) : Machine Locs :=
  match componentIndex e.name with
  | none => .ok locs
  | some idx =>
      match locs[idx]?.join with
      | some _ => .ok locs
      | none => do
          let dataOff ← localDataOffset w zip e.localOff
          .ok (locs.set idx (some ⟨e.method, dataOff, e.compSize, e.uncompSize⟩))

def walkEntries (zip : List UInt8) : ℕ → ℕ → Locs → Machine Locs
  | 0, _, locs => .ok locs
  | left + 1, pos, locs => do
      let e ← centralRecord w zip pos
      let locs ← locate w zip locs e
      let pos ← required ((checkedAdd w e.nameEnd e.extraLen).bind fun p =>
        checkedAdd w p e.commentLen)
      walkEntries zip left pos locs

def walkZip (zip : List UInt8) : Machine Locs := do
  let found ← findEocd w zip
  let eocd ← okOr found .notAZip
  -- the number of files, octet by octet and by index
  let lowAt ← add w eocd 10
  let low ← index zip lowAt
  let highAt ← add w eocd 11
  let high ← index zip highAt
  let offAt ← add w eocd 16
  let offField ← readU32 w zip offAt
  let cdOff ← required offField
  walkEntries w zip (readBE [high, low]) cdOff (List.replicate LFDB_COMPONENTS none)

/-! ### Component metadata -/

def parseHeader (b : List UInt8) : Machine (Aid × UInt8 × UInt8 × UInt8) := do
  let magicField ← readU32BE w b 3
  let magic ← required magicField
  if magic ≠ HEADER_MAGIC then refused .malformed
  else do
    let minor ← required b[7]?
    let major ← required b[8]?
    let aidLen ← required b[12]?
    let aidEnd ← required (checkedAdd w 13 aidLen.toNat)
    let aidBytes ← required (Checked.get b 13 aidEnd)
    let aid ← lift (capAid aidBytes)
    .ok (aid, major, minor, 0)

def parseImportsFrom (b : List UInt8) : ℕ → ℕ → List Aid → Machine (List Aid)
  | 0, _, imports => .ok imports
  | left + 1, p, imports => do
      let lenAt ← add w p 2
      let len ← required b[lenAt]?
      let aidStart ← add w p 3
      let aidEnd ← required (checkedAdd w aidStart len.toNat)
      let aidBytes ← required (Checked.get b aidStart aidEnd)
      let aid ← lift (capAid aidBytes)
      let imports ← lift (pushOr MAX_CAP_IMPORTS .malformed imports aid)
      parseImportsFrom b left aidEnd imports

def parseImports (b : List UInt8) : Machine (List Aid) := do
  let count ← required b[3]?
  parseImportsFrom w b count.toNat 4 []

def parseAppletsFrom (b : List UInt8) : ℕ → ℕ → List AppletEntry → Machine (List AppletEntry)
  | 0, _, applets => .ok applets
  | left + 1, p, applets => do
      let len ← required b[p]?
      let aidStart ← add w p 1
      let aidEnd ← required (checkedAdd w aidStart len.toNat)
      let aidBytes ← required (Checked.get b aidStart aidEnd)
      let aid ← lift (capAid aidBytes)
      let offsetField ← readU16BE w b aidEnd
      let offset ← required offsetField
      let applets ← lift (pushOr MAX_CAP_APPLETS .malformed applets ⟨aid, offset⟩)
      let next ← add w aidEnd 2
      parseAppletsFrom b left next applets

def parseApplets (b : List UInt8) : Machine (List AppletEntry) := do
  let count ← required b[3]?
  parseAppletsFrom w b count.toNat 4 []

/-! ### Parsing -/

variable {δ : Type} (I : Inflater δ)

def readComponent (zip : List UInt8) (loc : CompLoc) (infl : InflateCtx δ) :
    Machine (List UInt8 × InflateCtx δ) := do
  let stop ← required (checkedAdd w loc.dataOff loc.compSize)
  if stop > zip.length then refused .malformed
  else do
    let input ← between zip loc.dataOff stop
    if loc.method = METHOD_STORED then
      if h : input.length ≤ INFLATE_WINDOW then
        .ok (input, infl.write 0 input infl.state (zero_add_le_window h))
      else refused .malformed
    else if loc.method = METHOD_DEFLATE then
      let r := I.decompress I.new input infl.window 0 true
      match r.status with
      | .done =>
          .ok (r.written, infl.write 0 r.written r.state (inflated_le_window I infl input))
      | _ => refused .inflate
    else refused .malformed

def readOptional {α : Type} (zip : List UInt8) (loc : Option CompLoc) (infl : InflateCtx δ)
    (parse : List UInt8 → Machine (List α)) : Machine (List α × InflateCtx δ) :=
  match loc with
  | none => .ok ([], infl)
  | some loc => do
      let (bytes, infl) ← readComponent w I zip loc infl
      let items ← parse bytes
      .ok (items, infl)

def parse (zip : List UInt8) (infl : InflateCtx δ) : Machine (CapFile × InflateCtx δ) := do
  let locs ← walkZip w zip
  let headerLoc ← okOr locs[IDX_HEADER]?.join (.missingComponent "Header.cap")
  let (header, infl) ← readComponent w I zip headerLoc infl
  let (packageAid, version) ← parseHeader w header
  let (imports, infl) ← readOptional w I zip locs[IDX_IMPORT]?.join infl (parseImports w)
  let (applets, infl) ← readOptional w I zip locs[IDX_APPLET]?.join infl (parseApplets w)
  .ok (⟨packageAid, ⟨version, imports, applets⟩, zip, locs⟩, infl.reset I)

/-! ### The load file -/

def contentLen (locs : Locs) : Machine ℕ := sum w (locs.filterMap (Option.map CompLoc.uncompSize))

def lfdb (cap : CapFile) : Machine LoadFileDataBlock := do
  let n ← contentLen w cap.locs
  .ok
    { zip := cap.zip
      locs := cap.locs
      comp := 0
      cursor := .new
      header := lfdbHeader n
      headerEmitted := 0 }

def len (s : LoadFileDataBlock) : Machine ℕ := do
  let n ← contentLen w s.locs
  add w s.header.length n

def advance (s : LoadFileDataBlock) : Machine LoadFileDataBlock := do
  let comp ← add w s.comp 1
  .ok { s with comp, cursor := .new }

/-- The header counts in a `u8`. -/
def emitHeader (s : LoadFileDataBlock) (room : ℕ) : Machine (List UInt8 × LoadFileDataBlock) := do
  let remaining ← sub s.header.length s.headerEmitted
  let stop ← add w s.headerEmitted (min remaining room)
  let out ← between s.header s.headerEmitted stop
  let headerEmitted ← add 8 s.headerEmitted (min remaining room)
  .ok (out, { s with headerEmitted })

def emitStored (s : LoadFileDataBlock) (loc : CompLoc) (room : ℕ) :
    Machine (List UInt8 × LoadFileDataBlock) := do
  let start ← add w loc.dataOff s.cursor.emitted
  let remaining ← sub loc.uncompSize s.cursor.emitted
  -- `saturating_sub` behind the end of the archive
  let take := min (min remaining room) (s.zip.length - start)
  let stop ← add w start take
  let out ← between s.zip start stop
  let emitted ← add w s.cursor.emitted take
  .ok (out, { s with cursor := { s.cursor with emitted } })

def pump (s : LoadFileDataBlock) (loc : CompLoc) (infl : InflateCtx δ) :
    Machine (LoadFileDataBlock × InflateCtx δ) := do
  -- `read_component` checks the same sum
  let compEnd ← add w loc.dataOff loc.compSize
  if compEnd > s.zip.length then refused .inflate
  else do
    let start ← add w loc.dataOff s.cursor.inPos
    if start > compEnd then refused .inflate
    else do
      let input ← between s.zip start compEnd
      let pos := LoadFileDataBlock.ringPos s.cursor.produced
      let r := I.decompress infl.state input infl.window pos false
      have hfit : pos + r.written.length ≤ INFLATE_WINDOW := by
        have := I.written_le infl.state input infl.window pos false
          (by rw [infl.size]; exact (LoadFileDataBlock.ringPos_lt _).le)
        rwa [infl.size] at this
      -- counted before the status is looked at, of a failed call too
      let inPos ← add w s.cursor.inPos r.consumed
      let produced ← add w s.cursor.produced r.written.length
      let finished ← lift (LoadFileDataBlock.pumped r)
      let cursor := { s.cursor with inPos, produced, done := s.cursor.done || finished }
      .ok ({ s with cursor }, infl.write pos r.written r.state hfit)

/-- The loop of a DEFLATE component, with `fuel` more rounds. -/
def inflateLoop : ℕ → LoadFileDataBlock → CompLoc → InflateCtx δ → ℕ →
    Machine (List UInt8 × LoadFileDataBlock × InflateCtx δ)
  | 0, s, _, infl, _ => .ok ([], s, infl)
  | fuel + 1, s, loc, infl, room =>
      if room = 0 then .ok ([], s, infl)
      else do
        let pending ← sub s.cursor.produced s.cursor.emitted
        if pending = 0 then
          if s.cursor.done then .ok ([], s, infl)
          else do
            let (s, infl) ← pump w I s loc infl
            inflateLoop fuel s loc infl room
        else do
          let start := LoadFileDataBlock.ringPos s.cursor.emitted
          let seam ← sub INFLATE_WINDOW start
          let take := min (min pending room) seam
          let stop ← add w start take
          let out ← between infl.window start stop
          let emitted ← add w s.cursor.emitted take
          let left ← sub room take
          let s := { s with cursor := { s.cursor with emitted } }
          let (more, s, infl) ← inflateLoop fuel s loc infl left
          .ok (out ++ more, s, infl)

def emitDeflate (s : LoadFileDataBlock) (loc : CompLoc) (infl : InflateCtx δ) (room : ℕ) :
    Machine (List UInt8 × LoadFileDataBlock × InflateCtx δ) :=
  let (s, infl) := LoadFileDataBlock.start I s infl
  inflateLoop w I (LoadFileDataBlock.inflateFuel loc room) s loc infl room

def emit (s : LoadFileDataBlock) (loc : CompLoc) (infl : InflateCtx δ) (room : ℕ) :
    Machine (List UInt8 × LoadFileDataBlock × InflateCtx δ) :=
  if loc.method = METHOD_DEFLATE then emitDeflate w I s loc infl room
  else do
    let (out, s) ← emitStored w s loc room
    .ok (out, s, infl)

/-- The loop over the components, with `fuel` more rounds. -/
def blockLoop : ℕ → LoadFileDataBlock → InflateCtx δ → ℕ →
    Machine (List UInt8 × LoadFileDataBlock × InflateCtx δ)
  | 0, s, infl, _ => .ok ([], s, infl)
  | fuel + 1, s, infl, room =>
      if room = 0 then .ok ([], s, infl)
      else
        match s.locs[s.comp]?.join with
        | none =>
            if s.comp ≥ LFDB_COMPONENTS then .ok ([], s, infl)
            else do
              let s ← advance w s
              blockLoop fuel s infl room
        | some loc => do
            let (out, s, infl) ← emit w I s loc infl room
            let left ← sub room out.length
            if s.cursor.emitted ≥ loc.uncompSize then do
              let s ← advance w s
              let (more, s, infl) ← blockLoop fuel s infl left
              .ok (out ++ more, s, infl)
            else if out = [] then .ok ([], s, infl)
            else do
              let (more, s, infl) ← blockLoop fuel s infl left
              .ok (out ++ more, s, infl)

def nextBlock (s : LoadFileDataBlock) (infl : InflateCtx δ) (room : ℕ) :
    Machine (List UInt8 × LoadFileDataBlock × InflateCtx δ) := do
  let (head, s) ← emitHeader w s room
  let left ← sub room head.length
  let (out, s, infl) ← blockLoop w I (LoadFileDataBlock.blockFuel room) s infl left
  .ok (head ++ out, s, infl)

end Usize

end Cap

end Scll

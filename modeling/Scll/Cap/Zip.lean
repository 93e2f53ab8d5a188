import Scll.Model

/-! # CAP files

    A `.cap` is a ZIP of components. The parser walks the central directory,
    notes where each known component lies, and reads the package AID, the
    imports and the applets out of three of them; the rest stays in the input.
    Positions are sums of a few 32-bit fields, so the checked additions on a
    64-bit `usize` never fail.
-/

namespace Scll

namespace Cap

open Octets

/-! ### Field readers -/

/-- `b.get(at..at + n)`. -/
def slice (b : List UInt8) (pos n : ℕ) : Option (List UInt8) :=
  if pos + n ≤ b.length then some ((b.drop pos).take n) else none

/-- Little-endian. -/
def readU16 (b : List UInt8) (pos : ℕ) : Option ℕ := (slice b pos 2).map fun s => readBE s.reverse
def readU32 (b : List UInt8) (pos : ℕ) : Option ℕ := (slice b pos 4).map fun s => readBE s.reverse

/-- Big-endian. -/
def readU16BE (b : List UInt8) (pos : ℕ) : Option ℕ := (slice b pos 2).map readBE
def readU32BE (b : List UInt8) (pos : ℕ) : Option ℕ := (slice b pos 4).map readBE

/-- `ok_or(CapError::Malformed)`. -/
def required {α : Type} (o : Option α) : Except CapError α := okOr o .malformed

/-! ### Components -/

def LFDB_COMPONENTS : ℕ := 11

/-- ASCII octets of a name. -/
def ascii (s : String) : List UInt8 := s.toList.map fun c => UInt8.ofNat c.toNat

/-- Component basenames in load order; Debug is never loaded. -/
def COMPONENT_NAMES : List (List UInt8) :=
  ["Header.cap", "Directory.cap", "Import.cap", "Applet.cap", "Class.cap", "Method.cap",
    "StaticField.cap", "Export.cap", "ConstantPool.cap", "RefLocation.cap",
    "Descriptor.cap"].map ascii

def IDX_HEADER : ℕ := 0
def IDX_IMPORT : ℕ := 2
def IDX_APPLET : ℕ := 3

def METHOD_STORED : ℕ := 0
def METHOD_DEFLATE : ℕ := 8

/-- Where the octets of one component lie in the ZIP, and how they are encoded. -/
structure CompLoc where
  method : ℕ
  /-- Offset of the file data, past the local header. -/
  dataOff : ℕ
  /-- Compressed length. -/
  compSize : ℕ
  /-- Declared uncompressed length. -/
  uncompSize : ℕ
  deriving DecidableEq, Repr

/-- The component locations, in load order; absent ones are `none`. -/
abbrev Locs := List (Option CompLoc)

/-- Map an entry name to its component by basename. -/
def componentIndex (name : List UInt8) : Option ℕ :=
  -- 2F is a slash and 5C a backslash
  let base := (name.reverse.takeWhile fun b => b ≠ 0x2F ∧ b ≠ 0x5C).reverse
  COMPONENT_NAMES.findIdx? (· == base)

/-! ### The central directory -/

def SIG_EOCD : ℕ := 0x06054b50
def SIG_CDH : ℕ := 0x02014b50
def SIG_LFH : ℕ := 0x04034b50
def EOCD_MIN : ℕ := 22

/-- Scan back from `i`, at most `left` more steps. -/
def findEocdFrom (zip : List UInt8) : ℕ → ℕ → Option ℕ
  | 0, i => if readU32 zip i = some SIG_EOCD then some i else none
  | left + 1, i =>
      if readU32 zip i = some SIG_EOCD then some i else findEocdFrom zip left (i - 1)

/-- The end-of-central-directory record, at most a comment's length from the end. -/
def findEocd (zip : List UInt8) : Option ℕ :=
  if zip.length < EOCD_MIN then none
  else findEocdFrom zip (min (zip.length - EOCD_MIN) 0xFFFF) (zip.length - EOCD_MIN)

/-- Offset of the file data behind a local header. -/
def localDataOffset (zip : List UInt8) (localOff : ℕ) : Except CapError ℕ :=
  if readU32 zip localOff ≠ some SIG_LFH then .error .malformed
  else do
    let nameLen ← required (readU16 zip (localOff + 26))
    let extraLen ← required (readU16 zip (localOff + 28))
    let dataOff := localOff + 30 + nameLen + extraLen
    if dataOff ≤ zip.length then .ok dataOff else .error .malformed

/-- One central-directory record. -/
structure CentralEntry where
  method : ℕ
  compSize : ℕ
  uncompSize : ℕ
  name : List UInt8
  localOff : ℕ
  /-- Position of the next record. -/
  next : ℕ

def centralEntry (zip : List UInt8) (pos : ℕ) : Except CapError CentralEntry :=
  if readU32 zip pos ≠ some SIG_CDH then .error .malformed
  else do
    let method ← required (readU16 zip (pos + 10))
    let compSize ← required (readU32 zip (pos + 20))
    let uncompSize ← required (readU32 zip (pos + 24))
    let nameLen ← required (readU16 zip (pos + 28))
    let extraLen ← required (readU16 zip (pos + 30))
    let commentLen ← required (readU16 zip (pos + 32))
    let localOff ← required (readU32 zip (pos + 42))
    let name ← required (slice zip (pos + 46) nameLen)
    .ok
      { method
        compSize
        uncompSize
        name
        localOff
        next := pos + 46 + nameLen + extraLen + commentLen }

/-- Note the location of an entry that is a component; the first of a name counts. -/
def locate (zip : List UInt8) (locs : Locs) (e : CentralEntry) : Except CapError Locs :=
  match componentIndex e.name with
  | none => .ok locs
  | some idx =>
      match locs[idx]?.join with
      | some _ => .ok locs
      | none => do
          let dataOff ← localDataOffset zip e.localOff
          .ok (locs.set idx (some ⟨e.method, dataOff, e.compSize, e.uncompSize⟩))

/-- The records from `pos` on. -/
def walkEntries (zip : List UInt8) : ℕ → ℕ → Locs → Except CapError Locs
  | 0, _, locs => .ok locs
  | left + 1, pos, locs => do
      let e ← centralEntry zip pos
      let locs ← locate zip locs e
      walkEntries zip left e.next locs

/-- Resolve every known component to its location. -/
def walkZip (zip : List UInt8) : Except CapError Locs := do
  let eocd ← okOr (findEocd zip) .notAZip
  let total ← required (readU16 zip (eocd + 10))
  let cdOff ← required (readU32 zip (eocd + 16))
  walkEntries zip total cdOff (List.replicate LFDB_COMPONENTS none)

/-! ### Component metadata -/

def HEADER_MAGIC : ℕ := 0xDECAFFED

/-- One applet class entry. -/
structure AppletEntry where
  classAid : Aid
  installMethodOffset : ℕ

/-- What is read out of the components. -/
structure CapComponents where
  jcPlatformVersion : UInt8 × UInt8 × UInt8
  imports : List Aid
  applets : List AppletEntry

/-- `Aid::new(..).map_err(|_| Malformed)`. -/
def capAid (bytes : List UInt8) : Except CapError Aid := required (Aid.ofOctets? bytes)

/-- `Header.cap`: the magic, the package AID and the format version. -/
def parseHeader (b : List UInt8) : Except CapError (Aid × UInt8 × UInt8 × UInt8) := do
  let magic ← required (readU32BE b 3)
  if magic ≠ HEADER_MAGIC then .error .malformed
  else
    let minor ← required b[7]?
    let major ← required b[8]?
    let aidLen ← required b[12]?
    let aidBytes ← required (slice b 13 aidLen.toNat)
    let aid ← capAid aidBytes
    .ok (aid, major, minor, 0)

/-- The package entries of `Import.cap` from `p` on. -/
def parseImportsFrom (b : List UInt8) : ℕ → ℕ → List Aid → Except CapError (List Aid)
  | 0, _, imports => .ok imports
  | left + 1, p, imports => do
      let len ← required b[p + 2]?
      let aidBytes ← required (slice b (p + 3) len.toNat)
      let aid ← capAid aidBytes
      let imports ← pushOr MAX_CAP_IMPORTS .malformed imports aid
      parseImportsFrom b left (p + 3 + len.toNat) imports

def parseImports (b : List UInt8) : Except CapError (List Aid) := do
  let count ← required b[3]?
  parseImportsFrom b count.toNat 4 []

/-- The entries of `Applet.cap` from `p` on. -/
def parseAppletsFrom (b : List UInt8) :
    ℕ → ℕ → List AppletEntry → Except CapError (List AppletEntry)
  | 0, _, applets => .ok applets
  | left + 1, p, applets => do
      let len ← required b[p]?
      let aidBytes ← required (slice b (p + 1) len.toNat)
      let aid ← capAid aidBytes
      let aidEnd := p + 1 + len.toNat
      let offset ← required (readU16BE b aidEnd)
      let applets ← pushOr MAX_CAP_APPLETS .malformed applets ⟨aid, offset⟩
      parseAppletsFrom b left (aidEnd + 2) applets

def parseApplets (b : List UInt8) : Except CapError (List AppletEntry) := do
  let count ← required b[3]?
  parseAppletsFrom b count.toNat 4 []

end Cap

end Scll

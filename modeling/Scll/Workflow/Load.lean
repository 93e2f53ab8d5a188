import Scll.Cap.Stream
import Scll.Workflow.Content

/-! # Loading a package

    INSTALL [for load], then the Load File Data Block in LOAD commands of at
    most `LOAD_BLOCK_DATA` octets. The block that reaches the declared length is
    marked as the last.
-/

namespace Scll

namespace Workflow

open Cap

/-- Short-APDU LOAD budget. -/
def MAX_LOAD_BYTES : ℕ := 256 * LOAD_BLOCK_DATA

structure LoadPackageArgs where
  targetSdAid : List UInt8
  capZip : List UInt8
  /-- May be empty. -/
  lfdbHash : List UInt8

/-- The `?` on the CAP parser. -/
def ofCap {α : Type} (x : Except CapError α) : Except ScllError α :=
  x.mapError .cap

/-- `u32::try_from(n).unwrap_or(u32::MAX)`. -/
def saturateU32 (n : ℕ) : UInt32 := if n < 2 ^ 32 then UInt32.ofNat n else 0xFFFFFFFF

/-- A CAP within the budget. -/
def checkBudget (cap : CapFile) : Except ScllError Unit :=
  if cap.lfdb.len > MAX_LOAD_BYTES then .error .loadTooLarge else .ok ()

def loadPackageReport (args : LoadPackageArgs) (cap : CapFile) (blocks : UInt16) :
    Except ScllError (Report LoadPackageParams) := do
  let hashValue ← copyBounded HASH_MAX args.lfdbHash
  let targetSdAid ← Aid.new args.targetSdAid
  .ok
    { effective :=
        { packageAid := cap.packageAid
          loadFileSize := saturateU32 cap.lfdb.len
          hashValue
          blockCount := blocks
          targetSdAid }
      warnings := [] }

theorem loadPackageReport_isOk {args : LoadPackageArgs} {cap : CapFile} {blocks : UInt16} :
    (loadPackageReport args cap blocks).isOk = true ↔
      args.lfdbHash.length ≤ HASH_MAX ∧ AidLength args.targetSdAid := by
  simp only [loadPackageReport, isOk_aid_bind, isOk_copy_bind, isOk_ok, exists_prop, and_true]

section load

variable {τ β δ : Type} [Transport τ] [Scp03Backend β] [Scp02Backend β] (I : Inflater δ)

/-- The LOAD loop, with `fuel` more blocks: the number of blocks sent. -/
def loadLoop (session : ScpSession) (total : ℕ) :
    ℕ → LoadFileDataBlock → InflateCtx δ → (sent : ℕ) → (blockNo : UInt8) → (blocks : UInt16) →
      Prog (World τ β) ScllError UInt16
  | 0, _, _, _, _, blocks => pure blocks
  | fuel + 1, s, infl, sent, blockNo, blocks => do
      let (out, s, infl) ← .lift (ofCap (s.nextBlock I infl LOAD_BLOCK_DATA))
      if out = [] then pure blocks
      else
        let sent := sent + out.length
        let last : Bool := sent ≥ total
        command session (ofBuild (Capdu.loadBlock blockNo last out)) requireSw
        if last then pure (blocks + 1)
        else loadLoop session total fuel s infl sent (blockNo + 1) (blocks + 1)

/-- Load a CAP file under a Security Domain. -/
def loadPackage (session : ScpSession) (args : LoadPackageArgs) (infl : InflateCtx δ) :
    Prog (World τ β) ScllError (Report LoadPackageParams) := do
  let (cap, infl) ← .lift (ofCap (parse I args.capZip infl))
  .lift (checkBudget cap)
  command session
    (ofBuild (Capdu.installForLoad cap.packageAid.bytes args.targetSdAid args.lfdbHash))
    (installOutcome .residentSdNotFound .packageAidExists)
  -- every block but an empty one counts, so the total bounds the rounds
  let blocks ← loadLoop I session cap.lfdb.len (cap.lfdb.len + 1) cap.lfdb (infl.reset I) 0 0 0
  .lift (loadPackageReport args cap blocks)

end load

end Workflow

end Scll

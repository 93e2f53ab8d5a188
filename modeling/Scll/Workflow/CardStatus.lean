import Scll.Lifecycle
import Scll.Workflow.Keys

/-! # Card status and inventory

    A GET STATUS scope is read page by page and its octets are accumulated, for
    a page may end in the middle of an entry; what is parsed is the last prefix
    known to be a whole TLV sequence. The inventory is read over three scopes,
    into lists of bounded length.
-/

namespace Scll

namespace Workflow

open Response

def P1_ISD_SCOPE : UInt8 := 0x80
/-- Applications and Supplementary Security Domains. -/
def P1_APP_SD_SCOPE : UInt8 := 0x40
/-- Executable Load Files and their modules. -/
def P1_ELF_MODULE_SCOPE : UInt8 := 0x10
/-- The Security Domain privilege, b8 of the first octet. -/
def PRIV_SECURITY_DOMAIN : UInt8 := 0x80

/-! ### One scope -/

/-- What has been read of a scope. -/
structure Scope where
  /-- The octets of the pages so far. -/
  buf : List UInt8
  /-- How many of them are known to parse. -/
  goodLen : ℕ
  truncated : Bool

/-- A read that goes on, or one that is over. -/
inductive Paging where
  /-- "More data": ask for the next page. -/
  | more (scope : Scope)
  /-- The loop ends; `done` if the card signalled the end. -/
  | stop (scope : Scope) (done : Bool)
  /-- `6A88`: the scope is empty. -/
  | empty

/-- What a page makes of a scope. -/
def page (scope : Scope) (data : List UInt8) (sw : UInt16) : Except ScllError Paging :=
  if sw = SW_OK ∨ sw = SW_MORE_DATA then
    if scope.buf.length + data.length > MAX_STATUS_SCOPE_BYTES then
      .ok (.stop { scope with truncated := true } false)
    else
      let buf := scope.buf ++ data
      let scope : Scope :=
        match Tlv.parse buf with
        | .ok _ => { scope with buf, goodLen := buf.length }
        -- complete, yet not one sequence: fall back to the last checkpoint
        | .error _ => { scope with buf, truncated := scope.truncated || sw == SW_OK }
      if sw = SW_OK then .ok (.stop scope true) else .ok (.more scope)
  else if sw = SW_REF_NOT_FOUND then .ok .empty
  else .error (.fromGeneralSw sw)

/-- What the pages come to: the checked prefix, and whether it was cut short. -/
def finishScope (scope : Scope) (done : Bool) : List UInt8 × Bool :=
  (scope.buf.take scope.goodLen, scope.truncated || !done)

/-- The Security Domain bit of an entry. -/
def RegistryEntry.isSecurityDomain (e : RegistryEntry) : Bool :=
  e.privileges.byte0 &&& PRIV_SECURITY_DOMAIN ≠ 0

/-! ### The three stores -/

/-- The inventory as it is filled. -/
abbrev Store := CardInventory → RegistryEntry → CardInventory × Bool

def CardInventory.addSecurityDomain (inv : CardInventory) (e : SecurityDomainEntry) :
    CardInventory × Bool :=
  let (securityDomains, taken) := tryPush MAX_SDS inv.securityDomains e
  ({ inv with securityDomains }, taken)

def CardInventory.addApplet (inv : CardInventory) (e : ApplicationEntry) : CardInventory × Bool :=
  let (applets, taken) := tryPush MAX_APPLETS inv.applets e
  ({ inv with applets }, taken)

def CardInventory.addElf (inv : CardInventory) (e : ExecutableLoadFileEntry) :
    CardInventory × Bool :=
  let (elfs, taken) := tryPush MAX_ELFS inv.elfs e
  ({ inv with elfs }, taken)

/-- The ISD, under the AID it echoes when that is one. -/
def storeIsd (isd : Aid) : Store := fun inv e =>
  CardInventory.addSecurityDomain inv
    { aid := (Aid.ofOctets? e.aid).getD isd
      lifeCycleState := e.lifeCycle
      privileges := e.privileges
      associatedSdAid := none }

/-- An application or a Supplementary Security Domain. -/
def storeApplication (isd : Aid) : Store := fun inv e =>
  -- the ISD is shown once
  if e.aid = isd.bytes then (inv, true)
  else
    match Aid.ofOctets? e.aid with
    | none => (inv, true)
    | some aid =>
        if RegistryEntry.isSecurityDomain e then
          CardInventory.addSecurityDomain inv
            { aid
              lifeCycleState := e.lifeCycle
              privileges := e.privileges
              associatedSdAid := e.associatedSdAid.bind Aid.ofOctets? }
        else
          CardInventory.addApplet inv
            { aid
              lifeCycleState := e.lifeCycle
              privileges := e.privileges
              associatedSdAid := (e.associatedSdAid.bind Aid.ofOctets?).getD isd
              associatedElfAid := e.elfAid.bind Aid.ofOctets? }

/-- The valid module AIDs, as many as the model holds. -/
def collectModules (modules : List (List UInt8)) : List Aid :=
  modules.foldl
    (fun out m =>
      match Aid.ofOctets? m with
      | some aid => (tryPush MAX_MODULES_PER_ELF out aid).1
      | none => out) []

/-- An Executable Load File with its modules. -/
def storeElf (isd : Aid) : Store := fun inv e =>
  match Aid.ofOctets? e.aid with
  | none => (inv, true)
  | some aid =>
      CardInventory.addElf inv
        { aid
          lifeCycleState := e.lifeCycle
          associatedSdAid := (e.associatedSdAid.bind Aid.ofOctets?).getD isd
          modules := collectModules e.modules }

/-- Hand the entries of a scope to a store: the inventory, and whether one was dropped. -/
def storeAll (store : Store) (inv : CardInventory) (entries : List RegistryEntry) :
    CardInventory × Bool :=
  entries.foldl
    (fun acc e =>
      let (inv, kept) := store acc.1 e
      (inv, acc.2 || !kept)) (inv, false)

/-- What a scope adds to the inventory. -/
def storeScope (store : Store) (inv : CardInventory) (data : List UInt8) (truncated : Bool) :
    Except ScllError (CardInventory × Bool) :=
  if data.isEmpty ∧ ¬truncated then .ok (inv, false)
  else do
    let entries ← ofTlv (parseStatusRegistry data)
    let (inv, dropped) := storeAll store inv entries
    .ok (inv, truncated || dropped)

/-- The report of an inventory. -/
def inventoryReport (isd : Aid) (inv : CardInventory) (truncated : Bool) :
    GetCardInventoryReport where
  inventory := inv
  effective :=
    { isdAid := isd
      securityDomainCount := inv.securityDomains.length
      applicationCount := inv.applets.length
      elfCount := inv.elfs.length
      truncated }
  warnings := if truncated then [⟨.inventoryTruncated, ""⟩] else []

/-! ### Life cycle -/

structure SetCardStatusArgs where
  targetState : CardLifeCycle
  /-- `none` reads the state from the card first. -/
  currentState : Option CardLifeCycle
  force : Bool
  isdAid : List UInt8

/-- The report of a status read. A state that does not parse is a warning. -/
def cardStatusReport (isdAid : List UInt8) (data : List UInt8) (truncated : Bool) :
    Except ScllError GetCardStatusReport := do
  let decoded ← ofTlv (parseStatusE3 data)
  let state := decoded.getD (.unknown 0)
  let isd ← Aid.new isdAid
  .ok
    { state
      effective := ⟨rawByte state, state, isd⟩
      warnings :=
        (if decoded.isNone then [⟨.getStatusParseFailed, ""⟩] else []) ++
          (if truncated then [⟨.getStatusParseFailed, ""⟩] else []) }

/-- SET STATUS on its status word. -/
def setStatusOutcome (sw : UInt16) : Except ScllError Unit :=
  if sw = SW_OK then .ok ()
  else if sw = SW_CONDITIONS then .error .illegalLifecycleTransition
  else .error (.fromGeneralSw sw)

/-- A move forward that cannot be taken back. -/
def irreversible (current target : CardLifeCycle) : Bool :=
  (target == .initialized || target == .secured) && current != .cardLocked

def setCardStatusReport (args : SetCardStatusArgs) (current : CardLifeCycle)
    (plan : TransitionPlan) : Report SetCardStatusParams where
  effective :=
    { stateBefore := current
      targetState := args.targetState
      p1StatusType := P1_ISD_SCOPE
      p2StateByte :=
        match plan with
        | .noOp => rawByte args.targetState
        | .apply p2 => p2
      wasNoOp := plan == .noOp
      forceUsed := args.force
      irreversible := irreversible current args.targetState }
  warnings := if plan == .noOp then [⟨.lifecycleNoOp, ""⟩] else []

section status

variable {τ β : Type} [Transport τ] [Scp03Backend β] [Scp02Backend β]

/-- The pages of a scope, at most `pages` more of them. -/
def readPages (session : ScpSession) (p1 : UInt8) :
    ℕ → UInt8 → Scope → Prog (World τ β) ScllError (List UInt8 × Bool)
  | 0, _, scope => pure (finishScope scope false)
  | pages + 1, p2, scope => do
      let capdu ← .lift (ofBuild (Capdu.getStatusP2 p1 p2 []))
      let (data, sw) ← transmitInSession session capdu
      match ← .lift (page scope data sw) with
      | .more scope => readPages session p1 pages Capdu.P2_NEXT_TLV scope
      | .stop scope done => pure (finishScope scope done)
      | .empty => pure ([], false)

/-- Read one GET STATUS scope through its continuations. -/
def readStatusScope (session : ScpSession) (p1 : UInt8) :
    Prog (World τ β) ScllError (List UInt8 × Bool) :=
  readPages session p1 MAX_STATUS_PAGES Capdu.P2_FIRST_TLV ⟨[], 0, false⟩

/-- Read a scope and store its entries. -/
def collectScope (session : ScpSession) (p1 : UInt8) (store : Store) (inv : CardInventory) :
    Prog (World τ β) ScllError (CardInventory × Bool) := do
  let (data, truncated) ← readStatusScope session p1
  .lift (storeScope store inv data truncated)

/-- Enumerate the object inventory of the card. -/
def getCardInventory (session : ScpSession) (isdAid : List UInt8) :
    Prog (World τ β) ScllError GetCardInventoryReport := do
  let isd ← .lift (Aid.new isdAid)
  let (inv, cut₁) ← collectScope session P1_ISD_SCOPE (storeIsd isd) ⟨[], [], []⟩
  let (inv, cut₂) ← collectScope session P1_APP_SD_SCOPE (storeApplication isd) inv
  let (inv, cut₃) ← collectScope session P1_ELF_MODULE_SCOPE (storeElf isd) inv
  pure (inventoryReport isd inv (cut₁ || cut₂ || cut₃))

/-- Read the life-cycle state of the card. -/
def getCardStatus (session : ScpSession) (isdAid : List UInt8) :
    Prog (World τ β) ScllError GetCardStatusReport := do
  let (data, truncated) ← readStatusScope session P1_ISD_SCOPE
  .lift (cardStatusReport isdAid data truncated)

/-- The state to start from: the caller's word, or the card's. -/
def currentState (session : ScpSession) (args : SetCardStatusArgs) :
    Prog (World τ β) ScllError CardLifeCycle :=
  match args.currentState with
  | some s => pure s
  | none => do
      let report ← getCardStatus session args.isdAid
      pure report.state

/-- Send SET STATUS, if there is anything to send. -/
def applyTransition (session : ScpSession) (isdAid : List UInt8) (plan : TransitionPlan) :
    Prog (World τ β) ScllError Unit :=
  match plan with
  | .noOp => pure ()
  | .apply p2 => do
      let capdu ← .lift (ofBuild (Capdu.setCardStatus p2 isdAid))
      let (_, sw) ← transmitInSession session capdu
      .lift (setStatusOutcome sw)

/-- Write the life-cycle state of the card. -/
def setCardStatus (session : ScpSession) (args : SetCardStatusArgs) :
    Prog (World τ β) ScllError (Report SetCardStatusParams) := do
  let current ← currentState session args
  let plan ← .lift (checkTransition current args.targetState args.force)
  applyTransition session args.isdAid plan
  pure (setCardStatusReport args current plan)

end status

end Workflow

end Scll

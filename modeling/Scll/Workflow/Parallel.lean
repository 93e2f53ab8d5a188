import Scll.Framework.Simulation
import Scll.Manager

/-! # Workflows in two worlds

    An in-session workflow talks to its world in two ways, the exchange and the
    payload of PUT KEY. Two worlds in which both go alike are told apart by no
    workflow, and so by no sequence of calls to a manager.
-/

namespace Scll

open Cap

namespace Workflow

section parallel

variable {τ τ' β β' δ : Type} [Transport τ] [KeyBackend β] [Scp03Backend β] [Scp02Backend β]
  [Transport τ'] [KeyBackend β'] [Scp03Backend β'] [Scp02Backend β']
  {R : World τ β → World τ' β' → Prop} {session : ScpSession}

/-- Through the session, the two worlds do alike. -/
structure Alike (R : World τ β → World τ' β' → Prop) (session : ScpSession) : Prop where
  transmit : ∀ capdu, Prog.Simulates R R
    (transmitInSession session capdu : Prog (World τ β) ScllError _)
    (transmitInSession session capdu)
  payload : ∀ args, Prog.Simulates R R
    (onBackend (putKeyCommand session args) : Prog (World τ β) ScllError _)
    (onBackend (putKeyCommand session args))

theorem transmit_alike (h : Alike R session) (capdu : Capdu) :
    Prog.Simulates R R (transmit session capdu) (transmit session capdu) :=
  .bind (h.transmit _) fun _ => .pure _

theorem putSdKeys_alike (h : Alike R session) (args : PutSdKeysArgs) :
    Prog.Simulates R R (putSdKeys session args) (putSdKeys session args) :=
  .bind (h.payload _) fun _ => .bind (h.transmit _) fun _ => .bind (.lift _) fun _ =>
    .bind (.lift _) fun _ => .lift _

theorem deleteSdKeyset_alike (h : Alike R session) (kvn : UInt8) (aid : List UInt8) :
    Prog.Simulates R R (deleteSdKeyset session kvn aid) (deleteSdKeyset session kvn aid) :=
  .bind (.lift _) fun _ => .bind (h.transmit _) fun _ => .bind (.lift _) fun _ => .lift _

theorem command_alike (h : Alike R session) (capdu : Except ScllError Capdu)
    (outcome : UInt16 → Except ScllError Unit) :
    Prog.Simulates R R (command session capdu outcome) (command session capdu outcome) :=
  .bind (.lift _) fun _ => .bind (h.transmit _) fun _ => .lift _

theorem createSsd_alike (h : Alike R session) (args : CreateSsdArgs) (privLen : Capdu.PrivLen) :
    Prog.Simulates R R (createSsd session args privLen) (createSsd session args privLen) :=
  .bind (command_alike h _ _) fun _ => .lift _

theorem deleteSsd_alike (h : Alike R session) (aid : List UInt8) (requested : DeleteCascade) :
    Prog.Simulates R R (deleteSsd session aid requested) (deleteSsd session aid requested) :=
  .bind (command_alike h _ _) fun _ => .lift _

theorem installApplet_alike (h : Alike R session) (args : InstallAppletArgs)
    (privLen : Capdu.PrivLen) :
    Prog.Simulates R R (installApplet session args privLen) (installApplet session args privLen) :=
  .bind (command_alike h _ _) fun _ => .lift _

theorem deleteElf_alike (h : Alike R session) (elf : Option (List UInt8)) :
    Prog.Simulates R R (deleteElf session elf) (deleteElf session elf) := by
  cases elf with
  | none => exact .pure _
  | some elf => exact .bind (command_alike h _ _) fun _ => .bind (.lift _) fun _ => .pure _

theorem deleteApplet_alike (h : Alike R session) (args : DeleteAppletArgs) :
    Prog.Simulates R R (deleteApplet session args) (deleteApplet session args) :=
  .bind (command_alike h _ _) fun _ => .bind (.lift _) fun _ =>
    .bind (deleteElf_alike h _) fun _ => .pure _

theorem loadLoop_alike (h : Alike R session) (I : Inflater δ) (total fuel : ℕ)
    (s : LoadFileDataBlock) (infl : InflateCtx δ) (sent : ℕ) (blockNo : UInt8) (blocks : UInt16) :
    Prog.Simulates R R (loadLoop I session total fuel s infl sent blockNo blocks)
      (loadLoop I session total fuel s infl sent blockNo blocks) := by
  induction fuel generalizing s infl sent blockNo blocks with
  | zero => exact .pure _
  | succ fuel ih =>
    unfold loadLoop
    apply Prog.Simulates.bind (.lift _)
    intro p
    apply Prog.Simulates.ite (.pure _)
    apply Prog.Simulates.bind (command_alike h _ _)
    intro _
    exact .ite (.pure _) (ih _ _ _ _ _)

theorem loadPackage_alike (h : Alike R session) (I : Inflater δ) (args : LoadPackageArgs)
    (infl : InflateCtx δ) :
    Prog.Simulates R R (loadPackage I session args infl) (loadPackage I session args infl) := by
  apply Prog.Simulates.bind (.lift _)
  intro p
  apply Prog.Simulates.bind (.lift _)
  intro _
  apply Prog.Simulates.bind (command_alike h _ _)
  intro _
  exact .bind (loadLoop_alike h I _ _ _ _ _ _ _) fun _ => .lift _

theorem readPages_alike (h : Alike R session) (p1 : UInt8) (pages : ℕ) (p2 : UInt8)
    (scope : Scope) :
    Prog.Simulates R R (readPages session p1 pages p2 scope)
      (readPages session p1 pages p2 scope) := by
  induction pages generalizing p2 scope with
  | zero => exact .pure _
  | succ pages ih =>
    unfold readPages
    apply Prog.Simulates.bind (.lift _)
    intro capdu
    apply Prog.Simulates.bind (h.transmit _)
    intro answer
    apply Prog.Simulates.bind (.lift _)
    intro p
    cases p with
    | more scope => exact ih _ _
    | stop scope done => exact .pure _
    | empty => exact .pure _

theorem collectScope_alike (h : Alike R session) (p1 : UInt8) (store : Store)
    (inv : CardInventory) :
    Prog.Simulates R R (collectScope session p1 store inv) (collectScope session p1 store inv) :=
  .bind (readPages_alike h _ _ _ _) fun _ => .lift _

theorem getCardInventory_alike (h : Alike R session) (isdAid : List UInt8) :
    Prog.Simulates R R (getCardInventory session isdAid) (getCardInventory session isdAid) :=
  .bind (.lift _) fun _ => .bind (collectScope_alike h _ _ _) fun _ =>
    .bind (collectScope_alike h _ _ _) fun _ => .bind (collectScope_alike h _ _ _) fun _ => .pure _

theorem getCardStatus_alike (h : Alike R session) (isdAid : List UInt8) :
    Prog.Simulates R R (getCardStatus session isdAid) (getCardStatus session isdAid) :=
  .bind (readPages_alike h _ _ _ _) fun _ => .lift _

theorem currentState_alike (h : Alike R session) (args : SetCardStatusArgs) :
    Prog.Simulates R R (currentState session args) (currentState session args) := by
  unfold currentState
  cases args.currentState with
  | some s => exact .pure _
  | none => exact .bind (getCardStatus_alike h _) fun _ => .pure _

theorem applyTransition_alike (h : Alike R session) (isdAid : List UInt8) (plan : TransitionPlan) :
    Prog.Simulates R R (applyTransition session isdAid plan)
      (applyTransition session isdAid plan) := by
  cases plan with
  | noOp => exact .pure _
  | apply p2 => exact .bind (.lift _) fun _ => .bind (h.transmit _) fun _ => .lift _

theorem setCardStatus_alike (h : Alike R session) (args : SetCardStatusArgs) :
    Prog.Simulates R R (setCardStatus session args) (setCardStatus session args) :=
  .bind (currentState_alike h _) fun _ => .bind (.lift _) fun _ =>
    .bind (applyTransition_alike h _ _) fun _ => .pure _

end parallel

end Workflow

/-! ### Calls of a manager -/

/-- A call that needs a channel. -/
inductive SessionCall (δ : Type) where
  | transmit (capdu : Capdu)
  | putSdKeys (args : Workflow.PutSdKeysArgs)
  | deleteSdKeyset (kvn : UInt8) (targetSdAid : List UInt8)
  | createSsd (args : Workflow.CreateSsdArgs)
  | loadPackage (args : Workflow.LoadPackageArgs) (infl : InflateCtx δ)
  | deleteSsd (ssdAid : List UInt8) (requested : DeleteCascade)
  | installApplet (args : Workflow.InstallAppletArgs)
  | deleteApplet (args : Workflow.DeleteAppletArgs)
  | getCardStatus (isdAid : List UInt8)
  | getCardInventory (isdAid : List UInt8)
  | setCardStatus (args : Workflow.SetCardStatusArgs)

/-- What such a call reports. -/
inductive SessionReport where
  | transmit (report : AppletTransmitReport)
  | putKeys (report : Report PutKeysParams)
  | deleteKey (report : Report DeleteKeyParams)
  | createSsd (report : Report CreateSsdParams)
  | loadPackage (report : Report LoadPackageParams)
  | deleteObject (report : Report DeleteObjectParams)
  | installApplet (report : Report InstallAppletParams)
  | cardStatus (report : GetCardStatusReport)
  | inventory (report : GetCardInventoryReport)
  | setStatus (report : Report SetCardStatusParams)

section calls

variable {τ β δ : Type} [Transport τ] [KeyBackend β] [Scp03Backend β] [Scp02Backend β]
  (I : Inflater δ)

/-- Keep the outcome of a call under the name of its report. -/
def reported {α : Type} (report : α → SessionReport) (m : Prog (CardManager τ β) ScllError α) :
    Prog (CardManager τ β) ScllError SessionReport := do
  let a ← m
  pure (report a)

/-- One call. -/
def sessionCall : SessionCall δ → Prog (CardManager τ β) ScllError SessionReport
  | .transmit capdu => reported .transmit (CardManager.transmit capdu)
  | .putSdKeys args => reported .putKeys (CardManager.putSdKeys args)
  | .deleteSdKeyset kvn aid => reported .deleteKey (CardManager.deleteSdKeyset kvn aid)
  | .createSsd args => reported .createSsd (CardManager.createSsd args)
  | .loadPackage args infl => reported .loadPackage (CardManager.loadPackage I args infl)
  | .deleteSsd aid requested => reported .deleteObject (CardManager.deleteSsd aid requested)
  | .installApplet args => reported .installApplet (CardManager.installApplet args)
  | .deleteApplet args => reported .deleteObject (CardManager.deleteApplet args)
  | .getCardStatus aid => reported .cardStatus (CardManager.getCardStatus aid)
  | .getCardInventory aid => reported .inventory (CardManager.getCardInventory aid)
  | .setCardStatus args => reported .setStatus (CardManager.setCardStatus args)

end calls

section managers

variable {τ τ' β β' δ : Type}

/-- Two managers with the same channel and the same privilege encoding, in related
    worlds. -/
structure ManagersAlike (R : World τ β → World τ' β' → Prop) (session : ScpSession)
    (m : CardManager τ β) (m' : CardManager τ' β') : Prop where
  retained : m.session = some session
  retained' : m'.session = some session
  privLen : m.privLen = m'.privLen
  world : R m.world m'.world

theorem reported_alike {α : Type} {Q : CardManager τ β → CardManager τ' β' → Prop}
    {m : Prog (CardManager τ β) ScllError α} {m' : Prog (CardManager τ' β') ScllError α}
    (report : α → SessionReport) (h : Prog.Simulates Q Q m m') :
    Prog.Simulates Q Q (reported report m) (reported report m') :=
  .bind h fun _ => .pure _

variable {R : World τ β → World τ' β' → Prop} {session : ScpSession}

theorem inSession_alike {α : Type} {w : ScpSession → Prog (World τ β) ScllError α}
    {w' : ScpSession → Prog (World τ' β') ScllError α}
    (h : Prog.Simulates R R (w session) (w' session)) :
    Prog.Simulates (ManagersAlike R session) (ManagersAlike R session)
      (CardManager.inSession w) (CardManager.inSession w') := by
  intro m m' hm
  obtain ⟨hout, hworld⟩ := h _ _ hm.world
  have hrun : CardManager.inSession w m = CardManager.workflow (w session) m := by
    unfold CardManager.inSession
    rw [Prog.bind_ok (Prog.read_run m), hm.retained]
  have hrun' : CardManager.inSession w' m' = CardManager.workflow (w' session) m' := by
    unfold CardManager.inSession
    rw [Prog.bind_ok (Prog.read_run m'), hm.retained']
  rw [hrun, hrun']
  exact ⟨hout, hm.retained, hm.retained', hm.privLen, hworld⟩

theorem inSessionWith_alike {α : Type}
    {w : Capdu.PrivLen → ScpSession → Prog (World τ β) ScllError α}
    {w' : Capdu.PrivLen → ScpSession → Prog (World τ' β') ScllError α}
    (h : ∀ privLen, Prog.Simulates R R (w privLen session) (w' privLen session)) :
    Prog.Simulates (ManagersAlike R session) (ManagersAlike R session)
      (CardManager.inSessionWith w) (CardManager.inSessionWith w') := by
  intro m m' hm
  have hrun : CardManager.inSessionWith w m = CardManager.inSession (w m.privLen) m := by
    unfold CardManager.inSessionWith
    rw [Prog.bind_ok (Prog.read_run m)]
  have hrun' : CardManager.inSessionWith w' m' = CardManager.inSession (w' m.privLen) m' := by
    unfold CardManager.inSessionWith
    rw [Prog.bind_ok (Prog.read_run m'), hm.privLen]
  rw [hrun, hrun']
  exact inSession_alike (h _) m m' hm

variable [Transport τ] [KeyBackend β] [Scp03Backend β] [Scp02Backend β] [Transport τ']
  [KeyBackend β'] [Scp03Backend β'] [Scp02Backend β']

/-- No call tells the two worlds apart. One case for each call. -/
theorem sessionCall_alike (I : Inflater δ) (h : Workflow.Alike R session) (call : SessionCall δ) :
    Prog.Simulates (ManagersAlike R session) (ManagersAlike R session)
      (sessionCall I call) (sessionCall I call) := by
  cases call with
  | transmit capdu => exact reported_alike _ (inSession_alike (Workflow.transmit_alike h _))
  | putSdKeys args => exact reported_alike _ (inSession_alike (Workflow.putSdKeys_alike h _))
  | deleteSdKeyset kvn aid =>
    exact reported_alike _ (inSession_alike (Workflow.deleteSdKeyset_alike h _ _))
  | createSsd args =>
    exact reported_alike _ (inSessionWith_alike fun _ => Workflow.createSsd_alike h _ _)
  | loadPackage args infl =>
    exact reported_alike _ (inSession_alike (Workflow.loadPackage_alike h _ _ _))
  | deleteSsd aid requested =>
    exact reported_alike _ (inSession_alike (Workflow.deleteSsd_alike h _ _))
  | installApplet args =>
    exact reported_alike _ (inSessionWith_alike fun _ => Workflow.installApplet_alike h _ _)
  | deleteApplet args => exact reported_alike _ (inSession_alike (Workflow.deleteApplet_alike h _))
  | getCardStatus aid => exact reported_alike _ (inSession_alike (Workflow.getCardStatus_alike h _))
  | getCardInventory aid =>
    exact reported_alike _ (inSession_alike (Workflow.getCardInventory_alike h _))
  | setCardStatus args =>
    exact reported_alike _ (inSession_alike (Workflow.setCardStatus_alike h _))

end managers

end Scll

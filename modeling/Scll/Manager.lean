import Scll.Workflow.CardStatus
import Scll.Workflow.Discover
import Scll.Workflow.Load
import Scll.Workflow.OpenScp

/-! # The card manager

    The stateful facade: it owns the transport and the backend, retains the one
    open channel, and hands it to every in-session workflow.
-/

namespace Scll

open Cap Workflow

/-- A transport, a backend, and what is retained between calls. -/
structure CardManager (τ β : Type) where
  world : World τ β
  session : Option ScpSession
  privLen : Capdu.PrivLen

namespace CardManager

variable {τ β δ : Type}

/-- A manager over an owned transport and backend; no exchange happens. -/
def new (transport : τ) (backend : β) : CardManager τ β where
  world := ⟨transport, backend, []⟩
  session := none
  privLen := .canonical

/-- Run a workflow in the manager's world. -/
def workflow {α : Type} (m : Prog (World τ β) ScllError α) : Prog (CardManager τ β) ScllError α :=
  m.zoom CardManager.world fun s world => { s with world }

/-- Run an in-session workflow; without a channel there is nothing to run it on. -/
def inSession {α : Type} (m : ScpSession → Prog (World τ β) ScllError α) :
    Prog (CardManager τ β) ScllError α := do
  let s ← .read
  match s.session with
  | none => .fail .noOpenChannel
  | some session => workflow (m session)

/-- Run an in-session workflow that encodes privileges. -/
def inSessionWith {α : Type} (m : Capdu.PrivLen → ScpSession → Prog (World τ β) ScllError α) :
    Prog (CardManager τ β) ScllError α := do
  let s ← .read
  inSession (m s.privLen)

/-- Mutable access to the transport, to reconnect a link. -/
def transportMut (f : τ → τ) : Prog (CardManager τ β) ScllError Unit :=
  .update fun m => { m with world := { m.world with transport := f m.world.transport } }

section methods

variable [Transport τ] [KeyBackend β] [Scp03Backend β] [Scp02Backend β] (I : Inflater δ)

/-- Release the backend slot of a session. -/
def closeSession (session : ScpSession) (backend : β) : β :=
  match session with
  | .scp03 s => Scp03Backend.scp03CloseSession s.session backend
  | .scp02 s => Scp02Backend.scp02CloseSession s.session backend

/-- Forget the retained channel and release its slot. -/
def close (m : CardManager τ β) : CardManager τ β :=
  match m.session with
  | none => m
  | some session =>
      { m with
        world := { m.world with backend := closeSession session m.world.backend }
        session := none }

def closeChannel : Prog (CardManager τ β) ScllError Unit := .update close

/-- Decompose the manager, releasing its channel first. -/
def intoParts (m : CardManager τ β) : τ × β :=
  (m.close.world.transport, m.close.world.backend)

def probe (name : TransportName) : Prog (CardManager τ β) ScllError (Report ProbeParams) :=
  workflow (Workflow.probe name)

def discover (expectedIsdAid : Option (List UInt8)) :
    Prog (CardManager τ β) ScllError CardInfo := do
  let info ← workflow (Workflow.discoverCard expectedIsdAid)
  .update fun m => { m with privLen := info.privilegeEncoding }
  pure info

/-- Open a channel and retain it. -/
def openScp (args : OpenScpArgs) : Prog (CardManager τ β) ScllError OpenScpParams := do
  let report ← workflow (Workflow.openScp args)
  .update fun m => { m with session := some report.session }
  pure report.effective

def transmit (capdu : Capdu) : Prog (CardManager τ β) ScllError AppletTransmitReport :=
  inSession fun session => Workflow.transmit session capdu

def putSdKeys (args : PutSdKeysArgs) : Prog (CardManager τ β) ScllError (Report PutKeysParams) :=
  inSession fun session => Workflow.putSdKeys session args

def deleteSdKeyset (kvn : UInt8) (targetSdAid : List UInt8) :
    Prog (CardManager τ β) ScllError (Report DeleteKeyParams) :=
  inSession fun session => Workflow.deleteSdKeyset session kvn targetSdAid

def createSsd (args : CreateSsdArgs) : Prog (CardManager τ β) ScllError (Report CreateSsdParams) :=
  inSessionWith fun privLen session => Workflow.createSsd session args privLen

def loadPackage (args : LoadPackageArgs) (infl : InflateCtx δ) :
    Prog (CardManager τ β) ScllError (Report LoadPackageParams) :=
  inSession fun session => Workflow.loadPackage I session args infl

def deleteSsd (ssdAid : List UInt8) (requested : DeleteCascade) :
    Prog (CardManager τ β) ScllError (Report DeleteObjectParams) :=
  inSession fun session => Workflow.deleteSsd session ssdAid requested

def installApplet (args : InstallAppletArgs) :
    Prog (CardManager τ β) ScllError (Report InstallAppletParams) :=
  inSessionWith fun privLen session => Workflow.installApplet session args privLen

def deleteApplet (args : DeleteAppletArgs) :
    Prog (CardManager τ β) ScllError (Report DeleteObjectParams) :=
  inSession fun session => Workflow.deleteApplet session args

def getCardStatus (isdAid : List UInt8) : Prog (CardManager τ β) ScllError GetCardStatusReport :=
  inSession fun session => Workflow.getCardStatus session isdAid

def getCardInventory (isdAid : List UInt8) :
    Prog (CardManager τ β) ScllError GetCardInventoryReport :=
  inSession fun session => Workflow.getCardInventory session isdAid

def setCardStatus (args : SetCardStatusArgs) :
    Prog (CardManager τ β) ScllError (Report SetCardStatusParams) :=
  inSession fun session => Workflow.setCardStatus session args

end methods

end CardManager

/-! ### The manager as a machine -/

/-- What a caller can ask of a manager. -/
inductive ManagerOp (τ δ : Type) where
  | transportMut (f : τ → τ)
  | probe (name : TransportName)
  | discover (expectedIsdAid : Option (List UInt8))
  | openScp (args : OpenScpArgs)
  | closeChannel
  | transmit (capdu : Capdu)
  | putSdKeys (args : PutSdKeysArgs)
  | deleteSdKeyset (kvn : UInt8) (targetSdAid : List UInt8)
  | createSsd (args : CreateSsdArgs)
  | loadPackage (args : LoadPackageArgs) (infl : InflateCtx δ)
  | deleteSsd (ssdAid : List UInt8) (requested : DeleteCascade)
  | installApplet (args : InstallAppletArgs)
  | deleteApplet (args : DeleteAppletArgs)
  | getCardStatus (isdAid : List UInt8)
  | getCardInventory (isdAid : List UInt8)
  | setCardStatus (args : SetCardStatusArgs)

section machine

variable {τ β δ : Type} [Transport τ] [KeyBackend β] [Scp03Backend β] [Scp02Backend β]
  (I : Inflater δ)

/-- A call, for its outcome alone. -/
def outcome {α : Type} (m : Prog (CardManager τ β) ScllError α) (s : CardManager τ β) :
    Except ScllError Unit × CardManager τ β :=
  ((m s).1.map fun _ => (), (m s).2)

/-- One call. -/
def managerStep : ManagerOp τ δ → CardManager τ β → Except ScllError Unit × CardManager τ β
  | .transportMut f => outcome (CardManager.transportMut f)
  | .probe name => outcome (CardManager.probe name)
  | .discover aid => outcome (CardManager.discover aid)
  | .openScp args => outcome (CardManager.openScp args)
  | .closeChannel => outcome CardManager.closeChannel
  | .transmit capdu => outcome (CardManager.transmit capdu)
  | .putSdKeys args => outcome (CardManager.putSdKeys args)
  | .deleteSdKeyset kvn aid => outcome (CardManager.deleteSdKeyset kvn aid)
  | .createSsd args => outcome (CardManager.createSsd args)
  | .loadPackage args infl => outcome (CardManager.loadPackage I args infl)
  | .deleteSsd aid requested => outcome (CardManager.deleteSsd aid requested)
  | .installApplet args => outcome (CardManager.installApplet args)
  | .deleteApplet args => outcome (CardManager.deleteApplet args)
  | .getCardStatus aid => outcome (CardManager.getCardStatus aid)
  | .getCardInventory aid => outcome (CardManager.getCardInventory aid)
  | .setCardStatus args => outcome (CardManager.setCardStatus args)

end machine

end Scll

import Scll.Workflow.CardStatus
import Scll.Workflow.Discover
import Scll.Workflow.Load

/-! # What a workflow leaves alone

    A workflow touches the world in few ways: plain exchanges and a reset before
    a channel is open, exchanges through the session and the payload of PUT KEY
    afterwards. A frame that those keep is kept by every workflow.
-/

namespace Scll

namespace Workflow

open Cap

/-! ### Before authentication -/

section plain

variable {τ β : Type} [Transport τ] {F : Prog.Frame (World τ β)}

/-- The frame is kept by all that is done without a channel. -/
structure KeptPlain (F : Prog.Frame (World τ β)) : Prop where
  transmit : ∀ capdu, (transmitPlain capdu : Prog (World τ β) ScllError _).Keeps F
  reset : (reset : Prog (World τ β) ScllError _).Keeps F

theorem optionalGetData_keeps (h : KeptPlain F) (tag : UInt16) :
    (optionalGetData tag : Prog (World τ β) ScllError _).Keeps F :=
  .bind (.lift _) fun _ => .bind (h.transmit _) fun _ => .lift _

theorem discoverCard_keeps (h : KeptPlain F) (expectedIsdAid : Option (List UInt8)) :
    (discoverCard expectedIsdAid : Prog (World τ β) ScllError _).Keeps F := by
  refine .bind h.reset fun atr => .bind ?_ fun fci => .bind (.lift _) fun isdAid => ?_
  · exact .bind (.lift _) fun _ => .bind (h.transmit _) fun _ => .lift _
  · refine .bind (optionalGetData_keeps h _) fun crd => .bind (.lift _) fun _ => ?_
    refine .bind (optionalGetData_keeps h _) fun kit => .bind (.lift _) fun _ => ?_
    refine .bind (optionalGetData_keeps h _) fun cci => .bind (.lift _) fun _ => ?_
    refine .bind (optionalGetData_keeps h _) fun iin => .bind (optionalGetData_keeps h _) fun _ => ?_
    exact .bind (optionalGetData_keeps h _) fun _ => .pure _

end plain

/-! ### In session -/

section session

variable {τ β δ : Type} [Transport τ] [KeyBackend β] [Scp03Backend β] [Scp02Backend β]
  {F : Prog.Frame (World τ β)} {session : ScpSession}

/-- The frame is kept by all that is done through the session. -/
structure KeptInSession (F : Prog.Frame (World τ β)) (session : ScpSession) : Prop where
  transmit : ∀ capdu, (transmitInSession session capdu : Prog (World τ β) ScllError _).Keeps F
  payload : ∀ args, (onBackend (putKeyCommand session args) : Prog (World τ β) ScllError _).Keeps F

theorem transmit_keeps (h : KeptInSession F session) (capdu : Capdu) :
    (transmit session capdu : Prog (World τ β) ScllError _).Keeps F :=
  .bind (h.transmit _) fun _ => .pure _

theorem putSdKeys_keeps (h : KeptInSession F session) (args : PutSdKeysArgs) :
    (putSdKeys session args : Prog (World τ β) ScllError _).Keeps F :=
  .bind (h.payload _) fun _ => .bind (h.transmit _) fun _ => .bind (.lift _) fun _ =>
    .bind (.lift _) fun _ => .lift _

theorem deleteSdKeyset_keeps (h : KeptInSession F session) (kvn : UInt8) (aid : List UInt8) :
    (deleteSdKeyset session kvn aid : Prog (World τ β) ScllError _).Keeps F :=
  .bind (.lift _) fun _ => .bind (h.transmit _) fun _ => .bind (.lift _) fun _ => .lift _

theorem command_keeps (h : KeptInSession F session) (capdu : Except ScllError Capdu)
    (outcome : UInt16 → Except ScllError Unit) :
    (command session capdu outcome : Prog (World τ β) ScllError _).Keeps F :=
  .bind (.lift _) fun _ => .bind (h.transmit _) fun _ => .lift _

theorem createSsd_keeps (h : KeptInSession F session) (args : CreateSsdArgs)
    (privLen : Capdu.PrivLen) :
    (createSsd session args privLen : Prog (World τ β) ScllError _).Keeps F :=
  .bind (command_keeps h _ _) fun _ => .lift _

theorem deleteSsd_keeps (h : KeptInSession F session) (aid : List UInt8)
    (requested : DeleteCascade) :
    (deleteSsd session aid requested : Prog (World τ β) ScllError _).Keeps F :=
  .bind (command_keeps h _ _) fun _ => .lift _

theorem installApplet_keeps (h : KeptInSession F session) (args : InstallAppletArgs)
    (privLen : Capdu.PrivLen) :
    (installApplet session args privLen : Prog (World τ β) ScllError _).Keeps F :=
  .bind (command_keeps h _ _) fun _ => .lift _

theorem deleteElf_keeps (h : KeptInSession F session) (elf : Option (List UInt8)) :
    (deleteElf session elf : Prog (World τ β) ScllError _).Keeps F := by
  unfold deleteElf
  split
  · exact .pure _
  · exact .bind (command_keeps h _ _) fun _ => .bind (.lift _) fun _ => .pure _

theorem deleteApplet_keeps (h : KeptInSession F session) (args : DeleteAppletArgs) :
    (deleteApplet session args : Prog (World τ β) ScllError _).Keeps F :=
  .bind (command_keeps h _ _) fun _ => .bind (.lift _) fun _ =>
    .bind (deleteElf_keeps h _) fun _ => .pure _

theorem loadLoop_keeps (h : KeptInSession F session) (I : Inflater δ) (total fuel : ℕ)
    (s : LoadFileDataBlock) (infl : InflateCtx δ) (sent : ℕ) (blockNo : UInt8) (blocks : UInt16) :
    (loadLoop I session total fuel s infl sent blockNo blocks :
      Prog (World τ β) ScllError _).Keeps F := by
  induction fuel generalizing s infl sent blockNo blocks with
  | zero => exact .pure _
  | succ fuel ih =>
    unfold loadLoop
    refine .bind (.lift _) fun p => .ite (.pure _) ?_
    exact .bind (command_keeps h _ _) fun _ => .ite (.pure _) (ih _ _ _ _ _)

theorem loadPackage_keeps (h : KeptInSession F session) (I : Inflater δ) (args : LoadPackageArgs)
    (infl : InflateCtx δ) :
    (loadPackage I session args infl : Prog (World τ β) ScllError _).Keeps F := by
  refine .bind (.lift _) fun p => .bind (.lift _) fun _ => .bind (command_keeps h _ _) fun _ => ?_
  exact .bind (loadLoop_keeps h I _ _ _ _ _ _ _) fun _ => .lift _

theorem readPages_keeps (h : KeptInSession F session) (p1 : UInt8) (pages : ℕ) (p2 : UInt8)
    (scope : Scope) :
    (readPages session p1 pages p2 scope : Prog (World τ β) ScllError _).Keeps F := by
  induction pages generalizing p2 scope with
  | zero => exact .pure _
  | succ pages ih =>
    unfold readPages
    refine .bind (.lift _) fun capdu => .bind (h.transmit _) fun _ => .bind (.lift _) fun p => ?_
    cases p with
    | more scope => exact ih _ _
    | stop scope done => exact .pure _
    | empty => exact .pure _

theorem collectScope_keeps (h : KeptInSession F session) (p1 : UInt8) (store : Store)
    (inv : CardInventory) :
    (collectScope session p1 store inv : Prog (World τ β) ScllError _).Keeps F :=
  .bind (readPages_keeps h _ _ _ _) fun _ => .lift _

theorem getCardInventory_keeps (h : KeptInSession F session) (isdAid : List UInt8) :
    (getCardInventory session isdAid : Prog (World τ β) ScllError _).Keeps F :=
  .bind (.lift _) fun _ => .bind (collectScope_keeps h _ _ _) fun _ =>
    .bind (collectScope_keeps h _ _ _) fun _ => .bind (collectScope_keeps h _ _ _) fun _ => .pure _

theorem getCardStatus_keeps (h : KeptInSession F session) (isdAid : List UInt8) :
    (getCardStatus session isdAid : Prog (World τ β) ScllError _).Keeps F :=
  .bind (readPages_keeps h _ _ _ _) fun _ => .lift _

theorem setCardStatus_keeps (h : KeptInSession F session) (args : SetCardStatusArgs) :
    (setCardStatus session args : Prog (World τ β) ScllError _).Keeps F := by
  refine .bind ?_ fun current => .bind (.lift _) fun plan => .bind ?_ fun _ => .pure _
  · unfold currentState
    split
    · exact .pure _
    · exact .bind (getCardStatus_keeps h _) fun _ => .pure _
  · unfold applyTransition
    split
    · exact .pure _
    · exact .bind (.lift _) fun _ => .bind (h.transmit _) fun _ => .lift _

end session

end Workflow

end Scll

import Scll.Cap.Sample
import Scll.PutKeyPayload

/-! # Checks that come too late

    The AIDs that only a report mentions are looked at when the report is built,
    after the card has done what it was told, and a CAP is decompressed while it
    is sent. On a card that never refuses, every argument that is out of order
    in such a place is refused after a command that changes the card.
-/

namespace Scll

namespace Workflow

open Cap

/-! ### A card that never refuses -/

/-- The obliging card behind the stub, with what it was sent. -/
def obliging (sent : List Capdu) : World Obliging StubBackend := ⟨⟨⟩, StubBackend.new, sent⟩

theorem length_of_build {cla ins p1 p2 : UInt8} {data apdu : List UInt8} {le : Bool}
    (h : Capdu.build cla ins p1 p2 data le = .ok apdu) : apdu.length ≤ CAPDU_MAX := by
  obtain ⟨hlen, rfl⟩ := Capdu.build_eq_ok.mp h
  show _ ≤ 261
  unfold Capdu.tailOctets
  simp only [List.length_cons, List.length_append]
  split <;> split <;> simp only [List.length_cons, List.length_nil] <;> omega

/-- A command of the framer that changes the card. -/
structure Acts (c : Capdu) : Prop where
  short : c.length ≤ CAPDU_MAX
  changes : Capdu.stateChanging c = true

theorem acts_of_build {cla ins p1 p2 : UInt8} {data apdu : List UInt8} {le : Bool}
    (h : Capdu.build cla ins p1 p2 data le = .ok apdu)
    (hins : ins ∈ [Capdu.INS_PUT_KEY, Capdu.INS_DELETE, Capdu.INS_INSTALL, Capdu.INS_LOAD,
      Capdu.INS_SET_STATUS]) : Acts apdu := by
  refine ⟨length_of_build h, ?_⟩
  unfold Capdu.stateChanging
  rw [Capdu.ins_of_build h]
  exact decide_eq_true hins

theorem acts_deleteObject {aid : List UInt8} {cascade : Bool} {c : Capdu}
    (h : Capdu.deleteObject aid cascade = .ok c) : Acts c := by
  obtain ⟨_, -, h⟩ := bind_eq_ok.mp h
  obtain ⟨_, -, h⟩ := bind_eq_ok.mp h
  exact acts_of_build h (by decide)

theorem acts_installForLoad {packageAid sdAid hash : List UInt8} {c : Capdu}
    (h : Capdu.installForLoad packageAid sdAid hash = .ok c) : Acts c := by
  obtain ⟨_, -, h⟩ := bind_eq_ok.mp h
  obtain ⟨_, -, h⟩ := bind_eq_ok.mp h
  obtain ⟨_, -, h⟩ := bind_eq_ok.mp h
  obtain ⟨_, -, h⟩ := bind_eq_ok.mp h
  obtain ⟨_, -, h⟩ := bind_eq_ok.mp h
  exact acts_of_build h (by decide)

theorem acts_installForInstall {elfAid moduleAid instanceAid params : List UInt8}
    {privileges : Privileges} {privLen : Capdu.PrivLen} {c : Capdu}
    (h : Capdu.installForInstallMakeSelectable elfAid moduleAid instanceAid privileges privLen
      params = .ok c) : Acts c := by
  obtain ⟨_, -, h⟩ := bind_eq_ok.mp h
  obtain ⟨_, -, h⟩ := bind_eq_ok.mp h
  obtain ⟨_, -, h⟩ := bind_eq_ok.mp h
  obtain ⟨_, -, h⟩ := bind_eq_ok.mp h
  obtain ⟨_, -, h⟩ := bind_eq_ok.mp h
  obtain ⟨_, -, h⟩ := bind_eq_ok.mp h
  exact acts_of_build h (by decide)

theorem transmitInSession_obliging (session : ScpSession) {c : Capdu} (sent : List Capdu)
    (h : c.length ≤ CAPDU_MAX) :
    transmitInSession session c (obliging sent) = (.ok ([], SW_OK), obliging (sent ++ [c])) := by
  have hrun := transmitInSession_stub (t := (⟨⟩ : Obliging)) session StubBackend.new sent h
    (show Transport.transmit c (⟨⟩ : Obliging) = (.ok (Rapdu.ofAnswer [] SW_OK), ⟨⟩) from rfl)
  rw [splitSw_ofAnswer (Nat.zero_le _)] at hrun
  exact hrun

/-- The card does what it is told, and says so. -/
theorem command_obliging (session : ScpSession) {capdu : Except ScllError Capdu} {c : Capdu}
    (outcome : UInt16 → Except ScllError Unit) (sent : List Capdu) (hbuilt : capdu = .ok c)
    (hc : Acts c) (houtcome : outcome SW_OK = .ok ()) :
    command session capdu outcome (obliging sent) = (.ok (), obliging (sent ++ [c])) := by
  unfold command
  rw [hbuilt, Prog.lift_ok_bind, Prog.bind_ok (transmitInSession_obliging session sent hc.short)]
  show (outcome SW_OK, obliging (sent ++ [c])) = _
  rw [houtcome]

/-! ### A refusal that comes too late -/

section late

variable {δ : Type} {I : Inflater δ} {session : ScpSession}

/-- A call that leaves the card alone when it is refused is not refused by the
    host once it has acted. -/
theorem NoCardEffect.not_refused {call : Call δ} (h : NoCardEffect I session call)
    {e : ScllError} {c : Capdu} {rest : List Capdu}
    (hrun : call.run I session (obliging []) = (.error e, obliging (c :: rest))) (hc : Acts c) :
    e.fromHost = false := by
  by_contra hhost
  rw [Bool.not_eq_false] at hhost
  obtain ⟨cmds, hsent, hharmless⟩ := h _ _ _ _ e hrun (.inl hhost)
  have hsent : c :: rest = [] ++ cmds := hsent
  rw [List.nil_append] at hsent
  have := hharmless c (by rw [← hsent]; exact List.mem_cons_self)
  rw [hc.changes] at this
  cases this

/-- Every error is a refusal of the host. -/
def Refuses {α : Type} (x : Except ScllError α) : Prop := ∀ e, x = .error e → e.fromHost = true

theorem Refuses.bind {α γ : Type} {x : Except ScllError α} {f : α → Except ScllError γ}
    (hx : Refuses x) (hf : ∀ a, Refuses (f a)) : Refuses (x >>= f) := by
  intro e h
  cases x with
  | ok a => exact hf a e h
  | error e₁ => exact hx e (by rw [Except.error.inj h])

theorem Refuses.ok {α : Type} (a : α) : Refuses (.ok a : Except ScllError α) := by
  intro e h
  cases h

theorem refuses_aid (aid : List UInt8) : Refuses (Aid.new aid) := by
  intro e h
  unfold Aid.new at h
  split at h
  · cases h
  · exact Except.error.inj h ▸ rfl

theorem refuses_copy (cap : ℕ) (src : List UInt8) : Refuses (copyBounded cap src) := by
  intro e h
  rw [extend_error h]
  rfl

theorem refuses_putKeysReport (args : PutSdKeysArgs) (kcvs : List UInt8) :
    Refuses (putKeysReport session args kcvs) :=
  .bind (refuses_aid _) fun _ => .ok _

theorem refuses_deleteKeyReport (kvn : UInt8) (aid : List UInt8) :
    Refuses (deleteKeyReport kvn aid) :=
  .bind (refuses_aid _) fun _ => .ok _

theorem refuses_deleteSsdReport (aid : List UInt8) (requested : DeleteCascade) :
    Refuses (deleteSsdReport aid requested) :=
  .bind (refuses_aid _) fun _ => .ok _

theorem refuses_createSsdReport (args : CreateSsdArgs) : Refuses (createSsdReport args) :=
  .bind (refuses_aid _) fun _ => .bind (refuses_aid _) fun _ => .bind (refuses_aid _) fun _ =>
    .bind (refuses_aid _) fun _ => .bind (refuses_copy _ _) fun _ => .ok _

theorem refuses_installAppletReport (args : InstallAppletArgs) :
    Refuses (installAppletReport args) :=
  .bind (refuses_aid _) fun _ => .bind (refuses_aid _) fun _ => .bind (refuses_aid _) fun _ =>
    .bind (refuses_copy _ _) fun _ => .bind (refuses_copy _ _) fun _ =>
      .bind (refuses_aid _) fun _ => .ok _

theorem refuses_loadPackageReport (args : LoadPackageArgs) (cap : CapFile) (blocks : UInt16) :
    Refuses (loadPackageReport args cap blocks) :=
  .bind (refuses_copy _ _) fun _ => .bind (refuses_aid _) fun _ => .ok _

/-- A run whose report is dropped. -/
theorem dropped {σ ε α : Type} {m : Prog σ ε α} {s s' : σ} {r : Except ε α}
    (h : m s = (r, s')) : (m >>= fun _ => pure ()) s = (r.map fun _ => (), s') := by
  rw [Prog.bind_run, h]
  cases r <;> rfl

/-- A report that is built after the card has acted is built. -/
theorem isOk_of_noCardEffect {α : Type} {call : Call δ} (h : NoCardEffect I session call)
    {report : Except ScllError α} (href : Refuses report) {c : Capdu} {rest : List Capdu}
    (hc : Acts c)
    (hrun : call.run I session (obliging []) = (report.map fun _ => (), obliging (c :: rest))) :
    report.isOk = true := by
  cases hrep : report with
  | ok r => rfl
  | error e =>
    rw [hrep] at hrun
    have := href e hrep
    rw [h.not_refused hrun hc] at this
    cases this

/-- PUT KEY over the stub is built. -/
theorem putKeyCommand_obliging (session : ScpSession) (args : PutSdKeysArgs) :
    ∃ c kcvs, Acts c ∧
      onBackend (putKeyCommand session args) (obliging []) = (.ok (c, kcvs), obliging []) := by
  have hkey : ∀ new, encryptNewKey session args.dek new StubBackend.new =
      (.ok StubBackend.new.encBlock, StubBackend.new) := by
    intro new
    cases session <;> rfl
  have hkcv : ∀ key, ofBackend (KeyBackend.computeKcv key) StubBackend.new =
      (.ok StubBackend.new.kcv, StubBackend.new) := fun _ => rfl
  have hshort : PutKey.IsShort ⟨keyTypeByte session, StubBackend.new.encBlock,
      StubBackend.new.kcv.val, clearLenByte session args.newKeys.kind⟩ :=
    ⟨show 16 ≤ 32 by decide, rfl⟩
  have hlen := PutKey.length_putKeyData_le args.newKvn hshort hshort hshort
  have hbuild := PutKey.putKey_eq P1_ADD args.newKvn hshort hshort hshort
  generalize PutKey.putKeyData _ _ = data at hlen hbuild
  obtain ⟨c, hbuilt⟩ : ∃ c, Capdu.build 0x84 Capdu.INS_PUT_KEY P1_ADD 0x81 data true = .ok c :=
    ⟨_, Capdu.build_eq_ok.mpr ⟨le_trans hlen (by decide), rfl⟩⟩
  have hc : Acts c := acts_of_build hbuilt (by decide)
  rw [hbuilt] at hbuild
  have hrun : putKeyCommand session args StubBackend.new =
      (.ok (c, ⟨StubBackend.new.kcv, StubBackend.new.kcv, StubBackend.new.kcv⟩),
        StubBackend.new) := by
    unfold putKeyCommand
    dsimp only
    rw [Prog.bind_ok (hkey _), Prog.bind_ok (hkey _), Prog.bind_ok (hkey _),
      Prog.bind_ok (hkcv _), Prog.bind_ok (hkcv _), Prog.bind_ok (hkcv _), hbuild]
    rfl
  exact ⟨c, _, hc, onBackend_run hrun⟩

theorem checked_putSdKeys {args : PutSdKeysArgs}
    (h : NoCardEffect I session (.putSdKeys args)) : AidLength args.targetSdAid := by
  obtain ⟨c, kcvs, hc, hbuilt⟩ := putKeyCommand_obliging session args
  have hecho : verifyKcvEcho [] args.newKvn kcvs.enc kcvs.mac kcvs.dek =
      .ok (kcvs.enc.val ++ kcvs.mac.val ++ kcvs.dek.val) := by
    unfold verifyKcvEcho
    exact if_neg fun hlong => absurd hlong.1 (by decide)
  have hrun : putSdKeys session args (obliging []) =
      (putKeysReport session args (kcvs.enc.val ++ kcvs.mac.val ++ kcvs.dek.val),
        obliging [c]) := by
    unfold putSdKeys
    rw [Prog.bind_ok hbuilt]
    dsimp only
    rw [Prog.bind_ok (transmitInSession_obliging session [] hc.short)]
    dsimp only
    rw [show requireSw SW_OK = .ok () from rfl, Prog.lift_ok_bind, hecho, Prog.lift_ok_bind]
    rfl
  exact putKeysReport_isOk.mp
    (isOk_of_noCardEffect h (refuses_putKeysReport _ _) hc (dropped hrun))

theorem checked_deleteSdKeyset {kvn : UInt8} {aid : List UInt8}
    (h : NoCardEffect I session (.deleteSdKeyset kvn aid)) : AidLength aid := by
  obtain ⟨c, hbuilt, hc⟩ : ∃ c, Capdu.deleteKey none (some kvn) = .ok c ∧ Acts c := by
    obtain ⟨c, hbuild⟩ : ∃ c, Capdu.build 0x84 Capdu.INS_DELETE 0x00 0x00 [0xD2, 0x01, kvn] true =
        .ok c := ⟨_, Capdu.build_eq_ok.mpr ⟨show 3 ≤ 255 by decide, rfl⟩⟩
    exact ⟨c, hbuild, acts_of_build hbuild (by decide)⟩
  have hrun : deleteSdKeyset session kvn aid (obliging []) =
      (deleteKeyReport kvn aid, obliging [c]) := by
    unfold deleteSdKeyset
    rw [ofBuild_eq_ok.mpr hbuilt, Prog.lift_ok_bind,
      Prog.bind_ok (transmitInSession_obliging session [] hc.short)]
    rfl
  exact deleteKeyReport_isOk.mp
    (isOk_of_noCardEffect h (refuses_deleteKeyReport _ _) hc (dropped hrun))

/-- A command, and a report of it. -/
theorem reported_obliging {α : Type} {capdu : Except ScllError Capdu} {c : Capdu}
    {outcome : UInt16 → Except ScllError Unit} {report : Except ScllError α}
    (hbuilt : capdu = .ok c) (hc : Acts c) (houtcome : outcome SW_OK = .ok ()) :
    (command session capdu outcome >>= fun _ => Prog.lift report) (obliging []) =
      (report, obliging [c]) := by
  rw [Prog.bind_ok (command_obliging session outcome [] hbuilt hc houtcome)]
  rfl

theorem checked_createSsd {args : CreateSsdArgs} {privLen : Capdu.PrivLen}
    (h : NoCardEffect I session (.createSsd args privLen)) :
    (Call.createSsd args privLen).Checked I := by
  intro hbuilt
  obtain ⟨c, hbuilt⟩ := isOk_iff.mp hbuilt
  have hc : Acts c := by
    obtain ⟨_, -, hinstall⟩ := bind_eq_ok.mp hbuilt
    exact acts_installForInstall (ofBuild_eq_ok.mp hinstall)
  have hok := isOk_of_noCardEffect h (refuses_createSsdReport args) hc
    (dropped (reported_obliging hbuilt hc rfl))
  obtain ⟨hssd, hparent, helf, hmodule, -⟩ := createSsdReport_isOk.mp hok
  exact ⟨hssd, hparent, helf, hmodule⟩

theorem checked_installApplet {args : InstallAppletArgs} {privLen : Capdu.PrivLen}
    (h : NoCardEffect I session (.installApplet args privLen)) :
    (Call.installApplet args privLen).Checked I := by
  intro hbuilt
  obtain ⟨c, hbuilt⟩ := isOk_iff.mp hbuilt
  have hc : Acts c := by
    obtain ⟨_, -, hrest⟩ := bind_eq_ok.mp hbuilt
    obtain ⟨_, -, hinstall⟩ := bind_eq_ok.mp hrest
    exact acts_installForInstall (ofBuild_eq_ok.mp hinstall)
  have hok := isOk_of_noCardEffect h (refuses_installAppletReport args) hc
    (dropped (reported_obliging hbuilt hc rfl))
  obtain ⟨hinstance, hpackage, hmodule, -, -, hparent⟩ := installAppletReport_isOk.mp hok
  exact ⟨hinstance, hpackage, hmodule, hparent⟩

theorem checked_deleteSsd {aid : List UInt8} {requested : DeleteCascade}
    (h : NoCardEffect I session (.deleteSsd aid requested)) :
    (Call.deleteSsd aid requested).Checked I := by
  intro hbuilt
  obtain ⟨c, hbuilt⟩ := isOk_iff.mp hbuilt
  have hc := acts_deleteObject hbuilt
  exact deleteSsdReport_isOk.mp (isOk_of_noCardEffect h (refuses_deleteSsdReport aid requested) hc
    (dropped (reported_obliging (ofBuild_eq_ok.mpr hbuilt) hc rfl)))

/-- An ELF that is no AID is refused, before its DELETE or after it. -/
theorem deleteElf_obliging (session : ScpSession) {elf : List UInt8} (h : ¬AidLength elf)
    (sent : List Capdu) :
    ∃ e rest, deleteElf session (some elf) (obliging sent) = (.error e, obliging (sent ++ rest)) ∧
      e.fromHost = true := by
  cases hbuilt : ofBuild (Capdu.deleteObject elf false) with
  | error e =>
    refine ⟨e, [], ?_, ?_⟩
    · unfold deleteElf command
      dsimp only
      rw [hbuilt, List.append_nil]
      rfl
    · unfold ofBuild at hbuilt
      cases hdelete : Capdu.deleteObject elf false with
      | ok c =>
        rw [hdelete] at hbuilt
        cases hbuilt
      | error e₁ =>
        rw [hdelete] at hbuilt
        exact Except.error.inj hbuilt ▸ rfl
  | ok c =>
    have hc := acts_deleteObject (ofBuild_eq_ok.mp hbuilt)
    refine ⟨.invalidAid elf.length, [c], ?_, rfl⟩
    unfold deleteElf
    dsimp only
    rw [hbuilt, Prog.bind_ok (command_obliging session _ sent rfl hc rfl), Aid.new_of_invalid h]
    rfl

theorem checked_deleteApplet {args : DeleteAppletArgs}
    (h : NoCardEffect I session (.deleteApplet args)) : (Call.deleteApplet args).Checked I := by
  intro hbuilt
  obtain ⟨c, hbuilt⟩ := isOk_iff.mp hbuilt
  have hc := acts_deleteObject hbuilt
  have hdelete := command_obliging session deleteInstanceOutcome []
    (ofBuild_eq_ok.mpr hbuilt) hc rfl
  have hinstance : AidLength args.instanceAid := by
    by_contra hno
    have hrun : deleteApplet session args (obliging []) =
        (.error (.invalidAid args.instanceAid.length), obliging [c]) := by
      unfold deleteApplet
      rw [Prog.bind_ok hdelete, Aid.new_of_invalid hno]
      rfl
    cases h.not_refused (dropped hrun) hc
  refine ⟨hinstance, fun elf helf => ?_⟩
  by_contra hno
  obtain ⟨e, rest, hrest, hhost⟩ := deleteElf_obliging session hno ([] ++ [c])
  have hrun : deleteApplet session args (obliging []) = (.error e, obliging (c :: rest)) := by
    unfold deleteApplet
    rw [Prog.bind_ok hdelete, Aid.new_of_valid hinstance, Prog.lift_ok_bind,
      show cascadeElf args = some elf from helf, Prog.bind_error hrest]
    rfl
  rw [h.not_refused (dropped hrun) hc] at hhost
  cases hhost

/-- A load loop on a card that takes every block gets to its end, or to an
    octet that it cannot read. -/
theorem loadLoop_obliging (session : ScpSession) (total fuel : ℕ) (s : LoadFileDataBlock)
    (infl : InflateCtx δ)
    (n : ℕ) (blockNo : UInt8) (blocks : UInt16) (sent : List Capdu) :
    (Streams I total fuel s infl n ∧ ∃ count rest,
      loadLoop I session total fuel s infl n blockNo blocks (obliging sent) =
        (.ok count, obliging (sent ++ rest))) ∨
    ∃ e rest, loadLoop I session total fuel s infl n blockNo blocks (obliging sent) =
      (.error (.cap e), obliging (sent ++ rest)) := by
  induction fuel generalizing s infl n blockNo blocks sent with
  | zero => exact .inl ⟨trivial, blocks, [], by rw [List.append_nil]; rfl⟩
  | succ fuel ih =>
    unfold Streams loadLoop
    cases hblock : s.nextBlock I infl LOAD_BLOCK_DATA with
    | error e => exact .inr ⟨e, [], by rw [List.append_nil]; rfl⟩
    | ok p =>
      obtain ⟨out, s₁, infl₁⟩ := p
      rw [show ofCap (.ok (out, s₁, infl₁) : Except CapError _) = .ok (out, s₁, infl₁) from rfl,
        Prog.lift_ok_bind]
      dsimp only
      by_cases hempty : out = []
      · rw [if_pos hempty]
        exact .inl ⟨.inl hempty, blocks, [], by rw [List.append_nil]; rfl⟩
      · rw [if_neg hempty]
        obtain ⟨c, hbuilt⟩ : ∃ c, Capdu.loadBlock blockNo (decide (n + out.length ≥ total)) out =
            .ok c := isOk_iff.mp (isOk_loadBlock (LoadFileDataBlock.length_nextBlock I hblock))
        have hc : Acts c := acts_of_build hbuilt (by decide)
        rw [Prog.bind_ok (command_obliging session _ sent (ofBuild_eq_ok.mpr hbuilt) hc rfl)]
        by_cases hlast : n + out.length ≥ total
        · rw [decide_eq_true hlast, if_pos rfl]
          exact .inl ⟨.inr (.inl hlast), blocks + 1, [c], rfl⟩
        · rw [decide_eq_false hlast, if_neg Bool.false_ne_true]
          rcases ih s₁ infl₁ (n + out.length) (blockNo + 1) (blocks + 1) (sent ++ [c]) with
            ⟨hstreams, count, rest, hrun⟩ | ⟨e, rest, hrun⟩
          · refine .inl ⟨.inr (.inr hstreams), count, c :: rest, ?_⟩
            rw [hrun, List.append_assoc, List.singleton_append]
          · refine .inr ⟨e, c :: rest, ?_⟩
            rw [hrun, List.append_assoc, List.singleton_append]

theorem checked_loadPackage {args : LoadPackageArgs} {infl : InflateCtx δ}
    (h : NoCardEffect I session (.loadPackage args infl)) :
    (Call.loadPackage args infl).Checked I := by
  intro cap infl' hparse hlen hbuilt
  obtain ⟨c, hbuilt⟩ := isOk_iff.mp hbuilt
  have hc := acts_installForLoad hbuilt
  have hbudget : checkBudget cap = .ok () := by
    unfold checkBudget
    exact if_neg (by omega)
  have hinstall := command_obliging session
    (installOutcome .residentSdNotFound .packageAidExists) [] (ofBuild_eq_ok.mpr hbuilt) hc rfl
  have hparse : ofCap (parse I args.capZip infl) = .ok (cap, infl') := mapError_eq_ok.mpr hparse
  rcases loadLoop_obliging session cap.lfdb.len (cap.lfdb.len + 1) cap.lfdb (infl'.reset I) 0 0 0
    ([] ++ [c]) with ⟨hstreams, count, rest, hloop⟩ | ⟨e, rest, hloop⟩
  · have hrun : loadPackage I session args infl (obliging []) =
        (loadPackageReport args cap count, obliging (c :: rest)) := by
      unfold loadPackage
      rw [hparse, Prog.lift_ok_bind]
      dsimp only
      rw [hbudget, Prog.lift_ok_bind, Prog.bind_ok hinstall, Prog.bind_ok hloop]
      rfl
    exact ⟨hstreams, loadPackageReport_isOk.mp
      (isOk_of_noCardEffect h (refuses_loadPackageReport _ _ _) hc (dropped hrun))⟩
  · have hrun : loadPackage I session args infl (obliging []) =
        (.error (.cap e), obliging (c :: rest)) := by
      unfold loadPackage
      rw [hparse, Prog.lift_ok_bind]
      dsimp only
      rw [hbudget, Prog.lift_ok_bind, Prog.bind_ok hinstall, Prog.bind_error hloop]
      rfl
    cases h.not_refused (dropped hrun) hc

end late

/-! ### Exactly when -/

/-- A call leaves the card alone whenever the host refuses it, exactly when its
    arguments are in order or its command does not fit. -/
theorem refusals_harmless_iff {δ : Type} (I : Inflater δ) (session : ScpSession) (call : Call δ) :
    NoCardEffect I session call ↔ call.Checked I := by
  refine ⟨fun h => ?_, noCardEffect_of_checked I⟩
  cases call with
  | putSdKeys args => exact checked_putSdKeys h
  | deleteSdKeyset kvn aid => exact checked_deleteSdKeyset h
  | createSsd args privLen => exact checked_createSsd h
  | installApplet args privLen => exact checked_installApplet h
  | loadPackage args infl => exact checked_loadPackage h
  | deleteSsd aid requested => exact checked_deleteSsd h
  | deleteApplet args => exact checked_deleteApplet h
  | setCardStatus args => trivial

/-- An AID of four octets: the domain it names is deleted, and then the AID is
    refused. -/
theorem short_aid_refused_after_delete :
    ¬∀ call : Call (Option ℕ), NoCardEffect storedInflater stubSession call := by
  intro hall
  have hrun : (Call.deleteSsd [0xA0, 0x00, 0x00, 0x00] .never).run storedInflater stubSession
      (obliging []) = (.error (.invalidAid 4), obliging
        [[0x84, 0xE4, 0x00, 0x00, 0x06, 0x4F, 0x04, 0xA0, 0x00, 0x00, 0x00, 0x00]]) := rfl
  obtain ⟨cmds, hsent, hharmless⟩ := hall _ _ _ _ _ _ hrun (.inl rfl)
  have hsent : [[0x84, 0xE4, 0x00, 0x00, 0x06, 0x4F, 0x04, 0xA0, 0x00, 0x00, 0x00, 0x00]] =
      [] ++ cmds := hsent
  rw [List.nil_append] at hsent
  subst hsent
  exact absurd (hharmless _ (List.mem_singleton_self _)) (by decide)

end Workflow

end Scll

import Scll.ContentInventory
import Scll.ContentLoad

/-! # Content management over whole runs

    A manager that has opened a channel to a card and manages its content does
    what `ContentCall.spec` says, call after call: loading, installing, deleting
    and listing in any order, with refusals and failures in between. What the
    card holds at the end is what the calls come to.
-/

namespace Scll

open Cap Listing Workflow

/-! ### Calls that fit -/

/-- Install parameters fit into one command, and a CAP is what it declares. -/
def ContentCall.Fits {δ : Type} (I : Inflater δ) (inflate : Deflate) :
    ContentCall δ → Prop
  | createSsd _ _ _ _ _ params => params.length ≤ INSTALL_ROOM
  | loadPackage _ zip hash infl => hash.length ≤ HASH_MAX ∧ Unpacks I inflate zip infl
  | installApplet _ _ _ _ _ appParams sysParams =>
      ∃ params, buildInstallParams appParams sysParams = .ok params ∧ params.length ≤ INSTALL_ROOM
  | _ => True

/-- No call takes more commands. -/
def CALL_COMMANDS : ℕ := 257

section runs

variable {P : Primitives} {ρ δ : Type} {p : CardProfile P} {I : Inflater δ}
  {inflate : Deflate} {session : ScpSession}

variable [RngCore ρ]

/-- A call does what its specification says. One case for each call. -/
theorem sessionCall_shows (hI : Correct I inflate) {call : ContentCall δ}
    (hfits : call.Fits I inflate) (n : ℕ) :
    Prog.Shows SessionReport.shown
      (Retaining session (Holding (ρ := ρ) p (n + CALL_COMMANDS))) (Retaining session (Holding p n))
      (sessionCall I (call.call p.isd)) (call.spec p I inflate) := by
  -- no call sends more commands than the room that is set aside for it
  have hone : n + 1 ≤ n + CALL_COMMANDS := Nat.add_le_add_left (by decide) n
  have htwo : n + 2 ≤ n + CALL_COMMANDS := Nat.add_le_add_left (by decide) n
  have hpages : n + INVENTORY_COMMANDS ≤ n + CALL_COMMANDS := Nat.add_le_add_left (by decide) n
  cases call with
  | createSsd parent ssd file moduleAid privileges params =>
    have hssd := fun privLen => (createSsd_shows session parent ssd file moduleAid privileges
      privLen hfits n).mono (Holding.mono (ρ := ρ) (p := p) hone) fun _ _ h => h
    exact inSessionWith_shows hssd fun _ => rfl
  | loadPackage target zip hash infl =>
    exact inSession_shows (loadPackage_shows session hI target infl hfits.2 hfits.1 n) fun _ => rfl
  | deleteSsd ssd requested =>
    have hssd := (deleteSsd_shows session ssd requested n).mono
      (Holding.mono (ρ := ρ) (p := p) hone) fun _ _ h => h
    exact inSession_shows hssd fun _ => rfl
  -- the parameters are those that the source builds from both fields
  | installApplet parent package moduleAid inst privileges appParams sysParams =>
    obtain ⟨params, hbuilt, hparams⟩ := hfits
    have happlet := fun privLen => (installApplet_shows session parent package moduleAid inst
      privileges privLen hbuilt hparams n).mono (Holding.mono (ρ := ρ) (p := p) hone) fun _ _ h => h
    exact inSessionWith_shows happlet fun _ => rfl
  | deleteApplet inst elf requested =>
    have happlet := (deleteApplet_shows session inst elf requested n).mono
      (Holding.mono (ρ := ρ) (p := p) htwo) fun _ _ h => h
    exact inSession_shows happlet fun _ => rfl
  | getCardInventory =>
    have hinventory : Prog.Shows
        (fun r : GetCardInventoryReport => Shown.inventory r.inventory r.effective.truncated)
        (Holding (ρ := ρ) p (n + CALL_COMMANDS)) (Holding p n)
        (getCardInventory session p.isd.bytes)
        (ContentCall.spec p I inflate .getCardInventory) := by
      intro w c hw
      obtain ⟨w', hrun, hw'⟩ := getCardInventory_registry session (Holding.mono hpages w c hw)
      rw [hrun]
      exact ⟨rfl, hw'⟩
    exact inSession_shows hinventory fun _ => rfl

/-- Content management is what it says it is: a manager opens a channel to a card that
    manages its content, and whatever it loads, installs, deletes and lists from then on
    has the outcomes that the specification has on the content of that card, and leaves
    the content that the specification leaves. -/
theorem content_is_managed (hI : Correct I inflate) (args : OpenScpArgs)
    (m : CardManager (ServedCard P (Registry p)) (RustCryptoBackend P ρ)) (sd : HonestDomain P)
    (hmeets : MeetsServed args m.world.transport m.world.backend sd)
    (calls : List (ContentCall δ)) (hfits : ∀ call ∈ calls, call.Fits I inflate)
    (hroom : calls.length * CALL_COMMANDS ≤ FRESH_ROOM) :
    ∃ effective m', CardManager.openScp args m = (.ok effective, m') ∧
      (Prog.calls (calls.map fun call => sessionCall I (call.call p.isd)) m').1.map
          (Except.map SessionReport.shown) =
        (Prog.calls (calls.map (ContentCall.spec p I inflate)) m.world.transport.app.content).1 ∧
      (Prog.calls (calls.map fun call => sessionCall I (call.call p.isd))
          m').2.world.transport.app.content =
        (Prog.calls (calls.map (ContentCall.spec p I inflate))
          m.world.transport.app.content).2 := by
  obtain ⟨effective, session, m', hopen, hentered⟩ := CardManager.openScp_enters hmeets
  -- a fresh session has room for the commands of all calls
  have hstart : Holding p (0 + calls.length * CALL_COMMANDS) (m'.ideal session).world
      m.world.transport.app.content := by
    refine ⟨?_, ?_⟩
    · show m'.world.transport.app.content = _
      rw [hentered.app]
      rfl
    · rw [Nat.zero_add]
      exact hentered.room.mono hroom
  obtain ⟨hout, w, hw, happ⟩ := hentered.calls_show I
    (fun call hcall n => sessionCall_shows hI (hfits call hcall) n) hstart
  refine ⟨effective, m', hopen, hout, ?_⟩
  rw [← happ]
  exact hw.content

end runs

/-! ### A card with one applet -/

def sampleModule : Aid := ⟨[0xA0, 0x00, 0x00, 0x01, 0x52, 0x01], by decide⟩

def sampleFile : Aid := ⟨[0xA0, 0x00, 0x00, 0x01, 0x52], by decide⟩

def sampleApplet : Aid := ⟨[0xA0, 0x00, 0x00, 0x01, 0x52, 0x01, 0x01], by decide⟩

/-- Every load file has one module; pages are as short as they can be. -/
def sampleProfile : CardProfile Primitives.xorCipher where
  domain := .scp03 sampleDomain
  isd := sampleIsd
  isdPrivileges := ⟨0x9E, 0x00, 0x00⟩
  state := 0x07
  link _ := some [sampleModule]
  pageSize := 16
  pageSize_ge := le_refl 16
  pageSize_le := by decide
  holds c := Listable 16 c
  listable _ := of_decide_eq_true

theorem listable_empty : Listable sampleProfile.pageSize (Content.empty sampleProfile.isd) := by
  decide

def registryManager : CardManager (ServedCard Primitives.xorCipher (Registry sampleProfile))
    (RustCryptoBackend Primitives.xorCipher Unit) :=
  .new ⟨sampleWorld.transport, ⟨Content.empty sampleProfile.isd, listable_empty, none, []⟩⟩
    sampleWorld.backend

theorem meets_registry : MeetsServed sampleArgs registryManager.world.transport
    registryManager.world.backend (.scp03 sampleDomain) where
  domain := rfl
  meets :=
    { target := by decide
      accepts := by decide
      level := by decide
      shared := .scp03 (by decide) (by decide) rfl rfl (.inr rfl)
        (.carried sample_names) ⟨⟨0, by decide⟩, rfl⟩ }

theorem unpacks_twoBlockCap :
    Unpacks storedInflater inflateStored twoBlockCap (InflateCtx.new storedInflater) :=
  fun _ _ hparse _ => loadable_twoBlockCap hparse

/-- Load a package, install from it, install once more, try to delete the package, list. -/
def sampleCalls : List (ContentCall (Option ℕ)) :=
  [.loadPackage sampleIsd twoBlockCap [] (InflateCtx.new storedInflater),
    .installApplet sampleIsd sampleFile sampleModule sampleApplet ⟨0, 0, 0⟩ [] [],
    .installApplet sampleIsd sampleFile sampleModule sampleApplet ⟨0, 0, 0⟩ [] [],
    .deleteSsd sampleFile .never,
    .getCardInventory]

theorem fits_sampleCalls : ∀ call ∈ sampleCalls, call.Fits storedInflater inflateStored := by
  have hinstall : (ContentCall.installApplet sampleIsd sampleFile sampleModule sampleApplet
      ⟨0, 0, 0⟩ [] []).Fits storedInflater inflateStored := ⟨_, rfl, by decide⟩
  simp only [sampleCalls, List.forall_mem_cons]
  exact ⟨⟨by decide, unpacks_twoBlockCap⟩, hinstall, hinstall, trivial, trivial, by simp⟩

/-- The second install is refused, and the package stays while its applet is there. -/
theorem content_is_managed_sample :
    ∃ effective m', CardManager.openScp sampleArgs registryManager = (.ok effective, m') ∧
      (Prog.calls (sampleCalls.map fun call =>
          sessionCall storedInflater (call.call sampleIsd)) m').1.map
          (Except.map SessionReport.shown) =
        [.ok .done, .ok .done, .error .aidAlreadyExists, .error .ssdHasApplets,
          .ok (.inventory ⟨[⟨sampleIsd, 0x07, ⟨0x9E, 0x00, 0x00⟩, none⟩],
            [⟨sampleApplet, SELECTABLE, ⟨0, 0, 0⟩, sampleIsd, some sampleFile⟩],
            [⟨sampleFile, LOADED, sampleIsd, [sampleModule]⟩]⟩ false)] := by
  obtain ⟨effective, m', hopen, hout, -⟩ := content_is_managed storedInflater_correct sampleArgs
    registryManager (.scp03 sampleDomain) meets_registry sampleCalls fits_sampleCalls (by decide)
  refine ⟨effective, m', hopen, hout.trans ?_⟩
  decide +kernel

end Scll

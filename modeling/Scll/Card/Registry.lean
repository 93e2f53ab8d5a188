import Scll.Card.Application
import Scll.Card.KeyRing
import Scll.Card.Listing
import Scll.InstallRoundTrip

/-! # A card that manages its content

    INSTALL, LOAD and DELETE change the content, GET STATUS lists it a page at a
    time. A load file is taken in blocks that are numbered from zero, and linked
    when the last has come. What cards may do differently is a profile: the
    linker, the memory, the length of a page. Nothing here is translated from
    the host.
-/

namespace Scll

open LengthPrefix Listing Workflow

/-! ### Profiles -/

/-- What one card has and another has not. -/
structure CardProfile (P : Primitives) where
  /-- The Security Domain that content is managed through. -/
  domain : HonestDomain P
  isd : Aid
  isdPrivileges : Privileges
  state : UInt8
  /-- The modules of a Load File Data Block, when it links. -/
  link : List UInt8 → Option (List Aid)
  pageSize : ℕ
  pageSize_ge : 16 ≤ pageSize
  pageSize_le : pageSize ≤ MAX_REPLY_DATA
  /-- There is memory for it. -/
  holds : Content isd → Bool
  /-- No card holds more than can be listed. -/
  listable : ∀ c, holds c = true → Listable pageSize c

namespace CardProfile

variable {P : Primitives} (p : CardProfile P)

/-- A content that was arrived at, when there is memory for it. -/
def keep (r : Except ContentRefusal (Content p.isd)) :
    Except ContentRefusal (Content p.isd) := do
  let c ← r
  if p.holds c then .ok c else .error .full

/-- Install from a loaded file. -/
def install (file moduleAid aid : Aid) (privileges : Privileges) (c : Content p.isd) :
    Except ContentRefusal (Content p.isd) :=
  p.keep (c.install file moduleAid aid privileges)

/-- A load file that has arrived. -/
def finish (aid domain : Aid) (octets : List UInt8) (c : Content p.isd) :
    Except ContentRefusal (Content p.isd) :=
  match p.link octets with
  | none => .error .broken
  | some modules => p.keep (c.load ⟨aid, domain, modules⟩)

/-- A load file that is announced: it is not there yet. -/
def announce (aid domain : Aid) (c : Content p.isd) : Except ContentRefusal (Content p.isd) := do
  let _ ← c.load ⟨aid, domain, []⟩
  .ok c

theorem announce_ok {aid domain : Aid} {c c' : Content p.isd}
    (h : p.announce aid domain c = .ok c') : c' = c := by
  obtain ⟨_, -, h⟩ := bind_eq_ok.mp h
  exact (Except.ok.inj h).symm

theorem listable_of_keep {r : Except ContentRefusal (Content p.isd)} {c : Content p.isd}
    (h : p.keep r = .ok c) : Listable p.pageSize c := by
  obtain ⟨c', -, h⟩ := bind_eq_ok.mp h
  split at h
  · next hholds =>
    obtain rfl := Except.ok.inj h
    exact p.listable _ hholds
  · cases h

theorem listable_of_install {file moduleAid aid : Aid} {privileges : Privileges}
    {c c' : Content p.isd} (h : p.install file moduleAid aid privileges c = .ok c') :
    Listable p.pageSize c' := p.listable_of_keep h

theorem listable_of_finish {aid domain : Aid} {octets : List UInt8} {c c' : Content p.isd}
    (h : p.finish aid domain octets c = .ok c') : Listable p.pageSize c' := by
  unfold finish at h
  split at h
  · cases h
  · exact p.listable_of_keep h

end CardProfile

/-! ### Status words -/

def SW_NO_MEMORY : UInt16 := 0x6A84

/-- How a card says why. -/
def ContentRefusal.sw : ContentRefusal → UInt16
  | .linkage .missing => SW_REF_NOT_FOUND
  | .linkage .duplicate => SW_WRONG_DATA
  | .linkage .inUse => SW_CONDITIONS
  | .absent => SW_REF_NOT_FOUND
  | .broken => SW_CONDITIONS
  | .full => SW_NO_MEMORY

/-- The status word of an operation. -/
def swOf {α : Type} : Except ContentRefusal α → UInt16
  | .ok _ => SW_OK
  | .error r => r.sw

/-- What there is after an operation. -/
def after {α : Type} (a : α) : Except ContentRefusal α → α
  | .ok b => b
  | .error _ => a

theorem protected_page (more : Bool) :
    ProtectedStatus ((if more then SW_MORE_DATA else SW_OK) >>> 8).toUInt8
      (if more then SW_MORE_DATA else SW_OK).toUInt8 := by
  cases more
  · decide
  · decide

/-- A page with data, the last or not. -/
def AppReply.page (data : List UInt8) (more : Bool) : AppReply where
  data := data.take MAX_REPLY_DATA
  sw := if more then SW_MORE_DATA else SW_OK
  bare h := absurd (protected_page more) h
  small := List.length_take_le ..

/-! ### Reading commands -/

/-- The load file and the Security Domain of INSTALL [for load]. -/
def readInstallForLoad (data : List UInt8) : Option (Aid × Aid) :=
  match splitFields 5 data with
  | some [package, sd, _, _, _] => do
      let aid ← Aid.ofOctets? package
      let domain ← Aid.ofOctets? sd
      some (aid, domain)
  | _ => none

/-- One octet of privileges, or three. -/
def readPrivileges (field : List UInt8) : Option Privileges :=
  match Install.zeroExtend field with
  | [b₀, b₁, b₂] => some ⟨b₀, b₁, b₂⟩
  | _ => none

/-- File, module, instance and privileges of INSTALL [for install]. -/
def readInstallForInstall (data : List UInt8) : Option (Aid × Aid × Aid × Privileges) :=
  match splitFields 6 data with
  | some [file, moduleAid, aid, privileges, _, _] => do
      let file ← Aid.ofOctets? file
      let moduleAid ← Aid.ofOctets? moduleAid
      let aid ← Aid.ofOctets? aid
      let privileges ← readPrivileges privileges
      some (file, moduleAid, aid, privileges)
  | _ => none

/-- The AID of DELETE, by its `4F` reference. -/
def readDelete (data : List UInt8) : Option Aid :=
  if data.head? = some 0x4F then
    match takeField data.tail with
    | some (aid, []) => Aid.ofOctets? aid
    | _ => none
  else none

/-! ### The application -/

/-- A load file of which some blocks have come. -/
structure Incoming where
  aid : Aid
  domain : Aid
  octets : List UInt8
  /-- The number of the next block. -/
  next : UInt8

/-- The application of a card that manages its content. -/
structure Registry {P : Primitives} (p : CardProfile P) where
  content : Content p.isd
  listable : Listable p.pageSize content
  incoming : Option Incoming
  /-- What of a listing is left for the next page. -/
  listing : List UInt8

namespace Registry

variable {P : Primitives} {p : CardProfile P}

/-- Carry an operation out, or say why not. -/
def settle (r : Except ContentRefusal (Content p.isd))
    (hr : ∀ c, r = .ok c → Listable p.pageSize c) (reg : Registry p) : AppReply × Registry p :=
  match r, hr with
  | .ok c, hr => (.status SW_OK, { reg with content := c, listable := hr c rfl })
  | .error e, _ => (.status e.sw, reg)

/-- INSTALL [for load] announces a load file. -/
def announce (data : List UInt8) (reg : Registry p) : AppReply × Registry p :=
  match readInstallForLoad data with
  | none => (.status SW_WRONG_DATA, reg)
  | some (aid, domain) =>
      match p.announce aid domain reg.content with
      | .error e => (.status e.sw, reg)
      | .ok _ => (.status SW_OK, { reg with incoming := some ⟨aid, domain, [], 0⟩ })

/-- INSTALL [for install and make selectable]. -/
def install (data : List UInt8) (reg : Registry p) : AppReply × Registry p :=
  match readInstallForInstall data with
  | none => (.status SW_WRONG_DATA, reg)
  | some (file, moduleAid, aid, privileges) =>
      reg.settle (p.install file moduleAid aid privileges reg.content)
        fun _ => p.listable_of_install

/-- LOAD takes the next block; the last one completes the file. -/
def takeBlock (cmd : Command) (reg : Registry p) : AppReply × Registry p :=
  match reg.incoming with
  | none => (.status SW_CONDITIONS, reg)
  | some file =>
      if cmd.p2 ≠ file.next then (.status KeyRing.SW_WRONG_P1P2, { reg with incoming := none })
      else if cmd.p1 = 0x80 then
        { reg with incoming := none }.settle
          (p.finish file.aid file.domain (file.octets ++ cmd.data) reg.content)
          fun _ => p.listable_of_finish
      else (.status SW_OK, { reg with
        incoming := some { file with octets := file.octets ++ cmd.data, next := file.next + 1 } })

/-- DELETE, with related objects if `P2` says so. -/
def delete (cmd : Command) (reg : Registry p) : AppReply × Registry p :=
  match readDelete cmd.data with
  | none => (.status SW_WRONG_DATA, reg)
  | some aid =>
      reg.settle (reg.content.delete aid (cmd.p2 == 0x80)) fun _ => reg.listable.of_delete

/-- The listing of a scope. -/
def scope (p1 : UInt8) (reg : Registry p) : Option (List UInt8) :=
  if p1 = P1_ISD_SCOPE then some (octets [isdFields p.isd p.state p.isdPrivileges])
  else if p1 = P1_APP_SD_SCOPE then some (installedOctets reg.content.instances)
  else if p1 = P1_ELF_MODULE_SCOPE then some (fileOctets reg.content.loadFiles)
  else none

/-- A page of what is left of a listing. -/
def turnPage (rest : List UInt8) (reg : Registry p) : AppReply × Registry p :=
  if rest = [] then (.status SW_REF_NOT_FOUND, reg)
  else
    (.page (rest.take p.pageSize) (rest.drop p.pageSize ≠ []),
      { reg with listing := rest.drop p.pageSize })

/-- GET STATUS, of the first page or of the next. -/
def getStatus (cmd : Command) (reg : Registry p) : AppReply × Registry p :=
  match reg.scope cmd.p1 with
  | none => (.status KeyRing.SW_WRONG_P1P2, reg)
  | some octets =>
      if cmd.p2 = Capdu.P2_FIRST_TLV then reg.turnPage octets
      else if cmd.p2 = Capdu.P2_NEXT_TLV then reg.turnPage reg.listing
      else (.status KeyRing.SW_WRONG_P1P2, reg)

def perform (cmd : Command) (reg : Registry p) : AppReply × Registry p :=
  if cmd.ins = Capdu.INS_INSTALL ∧ cmd.p1 = 0x02 then reg.announce cmd.data
  else if cmd.ins = Capdu.INS_INSTALL ∧ cmd.p1 = 0x0C then reg.install cmd.data
  else if cmd.ins = Capdu.INS_LOAD then reg.takeBlock cmd
  else if cmd.ins = Capdu.INS_DELETE then reg.delete cmd
  else if cmd.ins = Capdu.INS_GET_STATUS then reg.getStatus cmd
  else (.status HonestCard.SW_INS_NOT_SUPPORTED, reg)

/-- Any key version of the profile's Security Domain opens a channel to it. -/
instance : Issuer P (Registry p) where
  perform := perform
  domain kvn _ := if kvn = 0x00 ∨ kvn = p.domain.kvn then some p.domain else none
  opened _ reg := reg

/-! ### What the commands do -/

variable {reg : Registry p}

theorem settle_eq (reg : Registry p) (r : Except ContentRefusal (Content p.isd))
    (hr : ∀ c, r = .ok c → Listable p.pageSize c) :
    (reg.settle r hr).1 = .status (swOf r) ∧
      (reg.settle r hr).2.content = after reg.content r := by
  cases r with
  | ok c => exact ⟨rfl, rfl⟩
  | error e => exact ⟨rfl, rfl⟩

theorem perform_install {data : List UInt8} {file moduleAid aid : Aid} {privileges : Privileges}
    (hread : readInstallForInstall data = some (file, moduleAid, aid, privileges)) :
    ∃ reg', reg.perform ⟨0xE6, 0x0C, 0x00, data⟩ =
        (.status (swOf (p.install file moduleAid aid privileges reg.content)), reg') ∧
      reg'.content = after reg.content (p.install file moduleAid aid privileges reg.content) := by
  have hsettled := settle_eq reg (p.install file moduleAid aid privileges reg.content)
    fun _ => p.listable_of_install
  unfold perform install
  dsimp only
  rw [if_neg (by decide), if_pos ⟨rfl, rfl⟩, hread]
  exact ⟨_, Prod.ext hsettled.1 rfl, hsettled.2⟩

theorem perform_delete {data : List UInt8} {aid : Aid} (hread : readDelete data = some aid)
    (related : Bool) :
    ∃ reg', reg.perform ⟨0xE4, 0x00, if related then 0x80 else 0x00, data⟩ =
        (.status (swOf (reg.content.delete aid related)), reg') ∧
      reg'.content = after reg.content (reg.content.delete aid related) := by
  have hrelated : ((if related then 0x80 else 0x00 : UInt8) == 0x80) = related := by
    cases related <;> rfl
  have hsettled := settle_eq reg (reg.content.delete aid related)
    fun _ => reg.listable.of_delete
  unfold perform delete
  dsimp only
  rw [if_neg (by decide), if_neg (by decide), if_neg (by decide),
    if_pos (show (0xE4 : UInt8) = Capdu.INS_DELETE from rfl), hread]
  dsimp only
  simp only [hrelated]
  exact ⟨_, Prod.ext hsettled.1 rfl, hsettled.2⟩

theorem perform_announce (reg : Registry p) {data : List UInt8} {aid domain : Aid}
    (hread : readInstallForLoad data = some (aid, domain)) :
    ∃ reg', reg.perform ⟨0xE6, 0x02, 0x00, data⟩ =
        (.status (swOf (p.announce aid domain reg.content)), reg') ∧
      reg'.content = reg.content ∧
      ∀ c, p.announce aid domain reg.content = .ok c →
        reg'.incoming = some ⟨aid, domain, [], 0⟩ := by
  unfold perform announce
  dsimp only
  rw [if_pos ⟨rfl, rfl⟩, hread]
  dsimp only
  cases hload : p.announce aid domain reg.content with
  | error e =>
    refine ⟨reg, rfl, rfl, ?_⟩
    intro c hc
    cases hc
  | ok c =>
    refine ⟨_, rfl, rfl, ?_⟩
    intro _ _
    rfl

/-- A block that is not the last is put behind the others. -/
theorem perform_more {file : Incoming} (hfile : reg.incoming = some file) (data : List UInt8) :
    reg.perform ⟨0xE8, 0x00, file.next, data⟩ =
      (.status SW_OK, { reg with
        incoming := some { file with octets := file.octets ++ data, next := file.next + 1 } }) := by
  unfold perform takeBlock
  dsimp only
  rw [if_neg (by decide), if_neg (by decide),
    if_pos (show (0xE8 : UInt8) = Capdu.INS_LOAD from rfl), hfile]
  dsimp only
  rw [if_neg (not_not.mpr rfl), if_neg (by decide)]

/-- The last block completes the file. -/
theorem perform_last (reg : Registry p) {file : Incoming} (hfile : reg.incoming = some file)
    (data : List UInt8) :
    ∃ reg', reg.perform ⟨0xE8, 0x80, file.next, data⟩ =
        (.status (swOf (p.finish file.aid file.domain (file.octets ++ data) reg.content)), reg') ∧
      reg'.content = after reg.content
        (p.finish file.aid file.domain (file.octets ++ data) reg.content) := by
  have hsettled := settle_eq { reg with incoming := none }
    (p.finish file.aid file.domain (file.octets ++ data) reg.content)
    fun _ => p.listable_of_finish
  unfold perform takeBlock
  dsimp only
  rw [if_neg (by decide), if_neg (by decide),
    if_pos (show (0xE8 : UInt8) = Capdu.INS_LOAD from rfl), hfile]
  dsimp only
  rw [if_neg (not_not.mpr rfl), if_pos rfl]
  exact ⟨_, Prod.ext hsettled.1 rfl, hsettled.2⟩

/-- What GET STATUS goes on with: the whole listing, or what is left of it. -/
def pending (p1 p2 : UInt8) (reg : Registry p) : List UInt8 :=
  if p2 = Capdu.P2_FIRST_TLV then (reg.scope p1).getD [] else reg.listing

theorem perform_getStatus {p1 p2 : UInt8} (hscope : (reg.scope p1).isSome)
    (hp2 : p2 = Capdu.P2_FIRST_TLV ∨ p2 = Capdu.P2_NEXT_TLV) (data : List UInt8) :
    reg.perform ⟨0xF2, p1, p2, data⟩ = reg.turnPage (reg.pending p1 p2) := by
  obtain ⟨octets, hoctets⟩ := Option.isSome_iff_exists.mp hscope
  unfold perform getStatus pending
  dsimp only
  have hother : ¬(0xF2 : UInt8) = Capdu.INS_INSTALL := by decide
  rw [if_neg (fun h => hother h.1), if_neg (fun h => hother h.1), if_neg (by decide),
    if_neg (by decide), if_pos (show (0xF2 : UInt8) = Capdu.INS_GET_STATUS from rfl), hoctets]
  dsimp only [Option.getD_some]
  rcases hp2 with rfl | rfl
  · rw [if_pos rfl, if_pos rfl]
  · rw [if_neg (by decide), if_pos rfl, if_neg (by decide)]

/-- A page is no longer than a page, and the rest is kept for the next. -/
theorem turnPage_eq (reg : Registry p) {rest : List UInt8} (hne : rest ≠ []) :
    (reg.turnPage rest).1.data = rest.take p.pageSize ∧
      (reg.turnPage rest).1.sw = (if rest.drop p.pageSize = [] then SW_OK else SW_MORE_DATA) ∧
      (reg.turnPage rest).2 = { reg with listing := rest.drop p.pageSize } := by
  have hlen : (rest.take p.pageSize).length ≤ MAX_REPLY_DATA :=
    (List.length_take_le ..).trans p.pageSize_le
  unfold turnPage
  rw [if_neg hne]
  refine ⟨List.take_of_length_le hlen, ?_, rfl⟩
  show (if decide (rest.drop p.pageSize ≠ []) = true then SW_MORE_DATA else SW_OK) = _
  by_cases hdrop : rest.drop p.pageSize = []
  · simp [hdrop]
  · simp [hdrop]

end Registry

end Scll

import Scll.ContentCalls
import Scll.InventoryLoss

/-! # Listing, at a card that answers in pages

    A card cuts the listing of a scope into pages wherever they end, also in the
    middle of an entry. The host puts them together again: the inventory it
    reports is that of the content, whatever the length of a page, and nothing
    is cut short.
-/

namespace Scll

open Listing Response Tlv Workflow

section inventory

variable {P : Primitives} {ρ : Type} {p : CardProfile P} (session : ScpSession)

/-! ### One scope, page by page -/

/-- The answer to GET STATUS. -/
theorem status_registry {w : World (IdealCard (Registry p)) (IdealBackend P ρ)} {n : ℕ}
    (hroom : w.backend.channel.RoomFor (n + 1)) {p1 p2 : UInt8}
    (hscope : (w.transport.app.scope p1).isSome)
    (hp2 : p2 = Capdu.P2_FIRST_TLV ∨ p2 = Capdu.P2_NEXT_TLV) {reply : AppReply} {reg : Registry p}
    (hturn : w.transport.app.turnPage (w.transport.app.pending p1 p2) = (reply, reg)) :
    ∃ w', transmitInSession session (statusCommand p1 p2) w = (.ok (reply.data, reply.sw), w') ∧
      w'.transport.app = reg ∧ w'.backend.channel.RoomFor n := by
  have hperform := Registry.perform_getStatus hscope hp2 [0x4F, 0x00]
  rw [hturn] at hperform
  have hlen : [(0x4F : UInt8), 0x00].length ≤ LOAD_BLOCK_DATA := by decide
  exact exchange_admitted session hroom 0x80 0xF2 p1 p2 (List.cons_ne_nil _ _) hlen true hperform

/-- A read takes all that is left of a listing, a page at a time. By induction on the
    pages it may still ask for: what is taken and what is left make up the listing. -/
theorem readPages_registry {all : List UInt8} (hparses : Parses all = true)
    (hfits : all.length ≤ MAX_STATUS_SCOPE_BYTES) {p1 p2 : UInt8} {pages n : ℕ} {scope : Scope}
    {w : World (IdealCard (Registry p)) (IdealBackend P ρ)}
    (hscope : (w.transport.app.scope p1).isSome)
    (hp2 : p2 = Capdu.P2_FIRST_TLV ∨ p2 = Capdu.P2_NEXT_TLV)
    (hwhole : scope.truncated = false)
    (hall : scope.buf ++ w.transport.app.pending p1 p2 = all)
    (hne : w.transport.app.pending p1 p2 ≠ [])
    (hfew : (w.transport.app.pending p1 p2).length ≤ pages * p.pageSize)
    (hroom : w.backend.channel.RoomFor (n + pages)) :
    ∃ w', readPages session p1 pages p2 scope w = (.ok (all, false), w') ∧
      w'.transport.app.content = w.transport.app.content ∧ w'.backend.channel.RoomFor n := by
  induction pages generalizing p2 scope w with
  | zero =>
    have hpos := List.length_pos_iff.mpr hne
    omega
  | succ pages ih =>
    obtain ⟨rest, hrest⟩ : ∃ rest, rest = w.transport.app.pending p1 p2 := ⟨_, rfl⟩
    rw [← hrest] at hall hne hfew
    obtain ⟨hdata, hsw, hreg⟩ := Registry.turnPage_eq w.transport.app hne
    cases hturn : w.transport.app.turnPage rest with
    | mk reply reg =>
    rw [hturn] at hdata hsw hreg
    dsimp only at hdata hsw hreg
    have hturned : w.transport.app.turnPage (w.transport.app.pending p1 p2) = (reply, reg) := by
      rw [← hrest, hturn]
    obtain ⟨w₁, hrun, happ, hroom₁⟩ :=
      status_registry session hroom hscope hp2 hturned
    have hlength : scope.buf.length + (rest.take p.pageSize).length ≤ MAX_STATUS_SCOPE_BYTES := by
      have htake := List.length_take_le' p.pageSize rest
      have hsum := congrArg List.length hall
      rw [List.length_append] at hsum
      omega
    unfold readPages
    rw [getStatusP2_eq, Prog.bind_ok (Prog.lift_run _ w), Prog.bind_ok hrun]
    dsimp only
    rw [hdata, hsw]
    by_cases hlast : rest.drop p.pageSize = []
    · -- the page ends the listing
      have htake : rest.take p.pageSize = rest := by
        have hsplit := List.take_append_drop p.pageSize rest
        rwa [hlast, List.append_nil] at hsplit
      rw [htake] at hlength ⊢
      rw [if_pos hlast, page_last hlength, Prog.lift_ok_bind]
      dsimp only [Prog.pure_run]
      rw [hall, hwhole, hparses]
      refine ⟨w₁, ?_, ?_, hroom₁.mono (Nat.le_add_right n pages)⟩
      · simp [finishScope, Scope.absorb, hall, hparses]
      · rw [happ, hreg]
    · -- the page says there is more
      rw [if_neg hlast, page_more hlength, Prog.lift_ok_bind]
      dsimp only
      have hleft : w₁.transport.app.pending p1 Capdu.P2_NEXT_TLV = rest.drop p.pageSize := by
        rw [happ, hreg]
        rfl
      have hscope₁ : (w₁.transport.app.scope p1).isSome := by
        rw [happ, hreg]
        exact hscope
      have hall₁ : (scope.absorb (rest.take p.pageSize)).buf ++
          w₁.transport.app.pending p1 Capdu.P2_NEXT_TLV = all := by
        rw [hleft, Scope.absorb, List.append_assoc, List.take_append_drop, hall]
      have hfew₁ : (w₁.transport.app.pending p1 Capdu.P2_NEXT_TLV).length ≤ pages * p.pageSize := by
        rw [hleft, List.length_drop]
        rw [Nat.succ_mul] at hfew
        omega
      have hwhole₁ : (scope.absorb (rest.take p.pageSize)).truncated = false := hwhole
      obtain ⟨w', hread, hcontent, hroom'⟩ :=
        ih hscope₁ (.inr rfl) hwhole₁ hall₁ (by rwa [hleft]) hfew₁ hroom₁
      refine ⟨w', hread, ?_, hroom'⟩
      rw [hcontent, happ, hreg]

/-- A scope of the card, read whole. -/
theorem readStatusScope_registry {all : List UInt8} (hparses : Parses all = true) {p1 : UInt8}
    {n : ℕ} {w : World (IdealCard (Registry p)) (IdealBackend P ρ)}
    (hscope : w.transport.app.scope p1 = some all)
    (hfew : all.length ≤ MAX_STATUS_PAGES * p.pageSize)
    (hroom : w.backend.channel.RoomFor (n + MAX_STATUS_PAGES)) :
    ∃ w', readStatusScope session p1 w = (.ok (all, false), w') ∧
      w'.transport.app.content = w.transport.app.content ∧ w'.backend.channel.RoomFor n := by
  have hsome : (w.transport.app.scope p1).isSome := Option.isSome_iff_exists.mpr ⟨all, hscope⟩
  have hpending : w.transport.app.pending p1 Capdu.P2_FIRST_TLV = all := by
    unfold Registry.pending
    rw [if_pos rfl, hscope]
    rfl
  by_cases hempty : all = []
  · -- there is nothing to list, and the card says so
    have hturn : w.transport.app.turnPage (w.transport.app.pending p1 Capdu.P2_FIRST_TLV) =
        (.status SW_REF_NOT_FOUND, w.transport.app) := by
      unfold Registry.turnPage
      rw [hpending, if_pos hempty]
    have hroom₁ : w.backend.channel.RoomFor (n + 15 + 1) := hroom
    obtain ⟨w₁, hrun, happ, hroom'⟩ :=
      status_registry session hroom₁ hsome (.inl rfl) hturn
    refine ⟨w₁, ?_, by rw [happ], hroom'.mono (Nat.le_add_right n 15)⟩
    show readPages session p1 (15 + 1) Capdu.P2_FIRST_TLV ⟨[], 0, false⟩ w = _
    unfold readPages
    rw [getStatusP2_eq, Prog.bind_ok (Prog.lift_run _ w), Prog.bind_ok hrun, hempty]
    rfl
  · have hscopeBytes : all.length ≤ MAX_STATUS_SCOPE_BYTES := by
      have hpage := p.pageSize_le
      have hreply : MAX_REPLY_DATA = 239 := rfl
      have hpages : MAX_STATUS_PAGES = 16 := rfl
      have hbytes : MAX_STATUS_SCOPE_BYTES = 16 * 258 := rfl
      rw [hpages] at hfew
      omega
    refine readPages_registry session hparses hscopeBytes hsome (.inl rfl) rfl ?_ ?_ ?_ hroom
    · rw [hpending, List.nil_append]
    · rwa [hpending]
    · rwa [hpending]

/-! ### The entries -/

theorem decodeEntry_isd (isd : Aid) (state : UInt8) (q : Privileges) :
    decodeEntry (isdFields isd state q) =
      { aid := isd.bytes, lifeCycle := state, privileges := q, associatedSdAid := none,
        elfAid := none, modules := [] } := by
  rfl

theorem decodeEntry_installed (i : Installed) :
    decodeEntry (installedFields i) =
      { aid := i.aid.bytes, lifeCycle := SELECTABLE, privileges := i.privileges,
        associatedSdAid := some i.domain.bytes, elfAid := some i.file.bytes, modules := [] } := by
  rfl

/-- A tag that is not a module's is not found among the modules. -/
theorem find_modules {tag : UInt32} (h : tag ≠ TAG_MODULE_AID) (modules : List Aid) :
    find (modules.map (aidField TAG_MODULE_AID)) tag = none := by
  have hnone : ∀ t ∈ modules.map (aidField TAG_MODULE_AID), ¬(t.tag == tag) = true := by
    intro t ht
    obtain ⟨m, -, rfl⟩ := List.mem_map.mp ht
    show ¬(TAG_MODULE_AID == tag) = true
    rw [beq_iff_eq]
    exact Ne.symm h
  unfold find
  rw [List.find?_eq_none.mpr hnone]
  rfl

theorem filter_modules (modules : List Aid) :
    (modules.map (aidField TAG_MODULE_AID)).filter (fun t => t.tag == TAG_MODULE_AID) =
      modules.map (aidField TAG_MODULE_AID) := by
  apply List.filter_eq_self.mpr
  intro t ht
  obtain ⟨m, -, rfl⟩ := List.mem_map.mp ht
  rfl

theorem decodeEntry_file {f : LoadFile} (hfew : f.modules.length ≤ MAX_MODULES_PER_ELF) :
    decodeEntry (fileFields f) =
      { aid := f.aid.bytes, lifeCycle := LOADED, privileges := privilegesTo3 none,
        associatedSdAid := some f.domain.bytes, elfAid := none,
        modules := f.modules.map Aid.bytes } := by
  have hprivileges : find (fileFields f) TAG_PRIVILEGES = none :=
    find_modules (by decide) f.modules
  have helf : find (fileFields f) TAG_ELF_AID = none := find_modules (by decide) f.modules
  have hmodules : (fileFields f).filter (fun t => t.tag == TAG_MODULE_AID) =
      f.modules.map (aidField TAG_MODULE_AID) := filter_modules f.modules
  have hvalues : (f.modules.map (aidField TAG_MODULE_AID)).map Tlv.value =
      f.modules.map Aid.bytes := by
    rw [List.map_map]
    rfl
  have hall : (f.modules.map Aid.bytes).take MAX_MODULES_PER_ELF = f.modules.map Aid.bytes :=
    List.take_of_length_le (by rwa [List.length_map])
  unfold decodeEntry
  rw [hprivileges, helf, hmodules, hvalues, hall]
  rfl

/-! ### The lines -/

theorem filterMap_ofOctets? (modules : List Aid) :
    (modules.map Aid.bytes).filterMap Aid.ofOctets? = modules := by
  rw [List.filterMap_map]
  have hsome : Aid.ofOctets? ∘ Aid.bytes = some := funext ofOctets?_bytes
  rw [hsome, List.filterMap_some]

/-- The line of the ISD. -/
theorem isdItem_isd (isd : Aid) (state : UInt8) (q : Privileges) :
    isdItem isd (decodeEntry (isdFields isd state q)) =
      .securityDomain ⟨isd, state, q, none⟩ := by
  rw [decodeEntry_isd]
  unfold isdItem
  dsimp only
  rw [ofOctets?_bytes]
  rfl

/-- The line of an instance. -/
def installedItem (i : Installed) : Item :=
  if i.privileges.isSecurityDomain then
    .securityDomain ⟨i.aid, SELECTABLE, i.privileges, some i.domain⟩
  else .application ⟨i.aid, SELECTABLE, i.privileges, i.domain, some i.file⟩

theorem applicationItem?_installed {isd : Aid} {i : Installed} (hne : i.aid ≠ isd) :
    applicationItem? isd (decodeEntry (installedFields i)) = some (installedItem i) := by
  have hbytes : ¬i.aid.bytes = isd.bytes := by
    intro heq
    apply hne
    have hsame := congrArg Aid.ofOctets? heq
    rw [ofOctets?_bytes, ofOctets?_bytes] at hsame
    exact Option.some.inj hsame
  rw [decodeEntry_installed]
  unfold applicationItem?
  dsimp only
  rw [if_neg hbytes, ofOctets?_bytes]
  unfold applicationItem installedItem
  simp [RegistryEntry.isSecurityDomain, Privileges.isSecurityDomain, ofOctets?_bytes]

/-- The line of a load file. -/
theorem elfItem?_file (isd : Aid) {f : LoadFile}
    (hfew : f.modules.length ≤ MAX_MODULES_PER_ELF) :
    elfItem? isd (decodeEntry (fileFields f)) =
      some (.elf ⟨f.aid, LOADED, f.domain, f.modules⟩) := by
  have hmodules : collectModules (f.modules.map Aid.bytes) = f.modules := by
    rw [collectModules_eq (by rwa [List.length_map]), filterMap_ofOctets?]
  rw [decodeEntry_file hfew]
  unfold elfItem? elfItem
  dsimp only
  rw [ofOctets?_bytes, hmodules]
  simp [ofOctets?_bytes]

/-! ### The lists -/

/-- The lines of the instances, by kind. By induction on the instances, a domain and
    an applet at a time. -/
theorem filterMap_installed (is : List Installed) :
    (is.map installedItem).filterMap Item.securityDomain? =
        (is.filter fun i => i.privileges.isSecurityDomain).map
          (fun i => ⟨i.aid, SELECTABLE, i.privileges, some i.domain⟩) ∧
      (is.map installedItem).filterMap Item.application? =
        (is.filter fun i => !i.privileges.isSecurityDomain).map
          (fun i => ⟨i.aid, SELECTABLE, i.privileges, i.domain, some i.file⟩) ∧
      (is.map installedItem).filterMap Item.elf? = [] := by
  induction is with
  | nil => exact ⟨rfl, rfl, rfl⟩
  | cons i is ih =>
    obtain ⟨hdomains, happlets, helfs⟩ := ih
    by_cases hdomain : i.privileges.isSecurityDomain = true
    · have hitem : installedItem i =
          .securityDomain ⟨i.aid, SELECTABLE, i.privileges, some i.domain⟩ := if_pos hdomain
      have happlet : ¬(!i.privileges.isSecurityDomain) = true := by simp [hdomain]
      rw [List.map_cons, hitem, List.filter_cons, List.filter_cons, if_pos hdomain, if_neg happlet]
      exact ⟨congrArg (List.cons _) hdomains, happlets, helfs⟩
    · have hitem : installedItem i =
          .application ⟨i.aid, SELECTABLE, i.privileges, i.domain, some i.file⟩ := if_neg hdomain
      have happlet : (!i.privileges.isSecurityDomain) = true := by simp [hdomain]
      rw [List.map_cons, hitem, List.filter_cons, List.filter_cons, if_neg hdomain, if_pos happlet]
      exact ⟨hdomains, congrArg (List.cons _) happlets, helfs⟩

/-- The line of a load file. -/
def fileItem (f : LoadFile) : Item := .elf ⟨f.aid, LOADED, f.domain, f.modules⟩

theorem filterMap_files (fs : List LoadFile) :
    (fs.map fileItem).filterMap Item.securityDomain? = [] ∧
      (fs.map fileItem).filterMap Item.application? = [] ∧
      (fs.map fileItem).filterMap Item.elf? =
        fs.map (fun f => ⟨f.aid, LOADED, f.domain, f.modules⟩) := by
  induction fs with
  | nil => exact ⟨rfl, rfl, rfl⟩
  | cons f fs ih =>
    obtain ⟨hdomains, happlets, helfs⟩ := ih
    exact ⟨hdomains, happlets, congrArg (List.cons _) helfs⟩

/-- The lines of a content. -/
def contentItems (p : CardProfile P) (c : Content p.isd) : List Item :=
  .securityDomain ⟨p.isd, p.state, p.isdPrivileges, none⟩ ::
    (c.instances.map installedItem ++ c.loadFiles.map fileItem)

theorem itemsOf_content {c : Content p.isd} (h : Listable p.pageSize c) :
    itemsOf p.isd ([isdFields p.isd p.state p.isdPrivileges].map decodeEntry)
        ((c.instances.map installedFields).map decodeEntry)
        ((c.loadFiles.map fileFields).map decodeEntry) = contentItems p c := by
  have hinstances : ((c.instances.map installedFields).map decodeEntry).filterMap
      (applicationItem? p.isd) = c.instances.map installedItem := by
    rw [List.map_map, List.filterMap_map, ← List.filterMap_eq_map]
    apply List.filterMap_congr
    intro i hi
    obtain ⟨o, ho, hinstalled⟩ := List.mem_filterMap.mp hi
    cases o with
    | loaded f => cases hinstalled
    | installed j =>
      obtain rfl := Option.some.inj hinstalled
      exact applicationItem?_installed (Content.aid_ne_isd ho)
  have hfiles : ((c.loadFiles.map fileFields).map decodeEntry).filterMap (elfItem? p.isd) =
      c.loadFiles.map fileItem := by
    rw [List.map_map, List.filterMap_map, ← List.filterMap_eq_map]
    apply List.filterMap_congr
    intro f hf
    exact elfItem?_file p.isd (h.modules f hf)
  unfold itemsOf contentItems
  rw [hinstances, hfiles, List.map_singleton, List.map_singleton, isdItem_isd]
  rfl

/-- The lists of the inventory are those of the content, and none overflows. -/
theorem addItems_content {c : Content p.isd} (h : Listable p.pageSize c) :
    addItems noInventory (contentItems p c) = p.inventory c ∧
      overflows noInventory (contentItems p c) = false := by
  obtain ⟨hdomains, happlets, helfs⟩ := filterMap_installed c.instances
  obtain ⟨hdomains', happlets', helfs'⟩ := filterMap_files c.loadFiles
  have hsds : (contentItems p c).filterMap Item.securityDomain? =
      (p.inventory c).securityDomains := by
    unfold contentItems
    rw [List.filterMap_cons, List.filterMap_append, hdomains, hdomains', List.append_nil]
    rfl
  have happs : (contentItems p c).filterMap Item.application? = (p.inventory c).applets := by
    unfold contentItems
    rw [List.filterMap_cons, List.filterMap_append, happlets, happlets', List.append_nil]
    rfl
  have hfiles : (contentItems p c).filterMap Item.elf? = (p.inventory c).elfs := by
    unfold contentItems
    rw [List.filterMap_cons, List.filterMap_append, helfs, helfs', List.nil_append]
    rfl
  have hfew₁ : (p.inventory c).securityDomains.length ≤ MAX_SDS := by
    have hlt := h.domains
    simp only [CardProfile.inventory, List.length_cons, List.length_map]
    omega
  have hfew₂ : (p.inventory c).applets.length ≤ MAX_APPLETS := by
    simpa [CardProfile.inventory] using h.applets
  have hfew₃ : (p.inventory c).elfs.length ≤ MAX_ELFS := by
    simpa [CardProfile.inventory] using h.elfs
  unfold addItems overflows
  rw [hsds, happs, hfiles, List.nil_append, List.nil_append, List.nil_append,
    List.take_of_length_le hfew₁, List.take_of_length_le hfew₂, List.take_of_length_le hfew₃]
  refine ⟨rfl, ?_⟩
  simp [exceeds, hfew₁, hfew₂, hfew₃]

/-! ### The inventory -/

theorem parses_octets {entries : List (List Tlv)}
    (h : Tlv.parse (octets entries) = .ok (entries.map entry)) :
    Parses (octets entries) = true := by
  unfold Parses
  rw [h]
  rfl

/-- The commands of an inventory. -/
def INVENTORY_COMMANDS : ℕ := 48

/-- The entries of the three scopes are read back. -/
theorem readable_content {c : Content p.isd} (h : Listable p.pageSize c) :
    (∀ fields ∈ [isdFields p.isd p.state p.isdPrivileges], Readable fields) ∧
      (∀ fields ∈ c.instances.map installedFields, Readable fields) ∧
      ∀ fields ∈ c.loadFiles.map fileFields, Readable fields := by
  refine ⟨?_, ?_, ?_⟩
  · intro fields hfields
    rw [List.mem_singleton.mp hfields]
    exact readable_of_short (show 3 ≤ 64 by omega) (short_isdFields p.isd p.state p.isdPrivileges)
  · rw [List.forall_mem_map]
    intro i _
    exact readable_installed i
  · rw [List.forall_mem_map]
    intro f hf
    exact h.readable_file hf

theorem length_content {c : Content p.isd} (h : Listable p.pageSize c) :
    (c.instances.map installedFields).length ≤ MAX_TLVS ∧
      (c.loadFiles.map fileFields).length ≤ MAX_TLVS := by
  have helfs := h.elfs
  have hmax : MAX_ELFS ≤ MAX_TLVS := by decide
  rw [List.length_map, List.length_map]
  exact ⟨h.few_instances, helfs.trans hmax⟩

theorem parses_content {c : Content p.isd} (h : Listable p.pageSize c) :
    Parses (octets [isdFields p.isd p.state p.isdPrivileges]) = true ∧
      Parses (installedOctets c.instances) = true ∧ Parses (fileOctets c.loadFiles) = true := by
  obtain ⟨hisd, hinstalled, hfiles⟩ := readable_content h
  obtain ⟨hfew, hfew'⟩ := length_content h
  have hone : [isdFields p.isd p.state p.isdPrivileges].length ≤ MAX_TLVS := show 1 ≤ 64 by omega
  exact ⟨parses_octets (parseStatusRegistry_octets hone hisd).1,
    parses_octets (parseStatusRegistry_octets hfew hinstalled).1,
    parses_octets (parseStatusRegistry_octets hfew' hfiles).1⟩

/-- Three scopes of a content are its inventory. -/
theorem inventoryOf_content {c : Content p.isd} (h : Listable p.pageSize c) :
    inventoryOf p.isd (octets [isdFields p.isd p.state p.isdPrivileges], false)
        (installedOctets c.instances, false) (fileOctets c.loadFiles, false) =
      .ok (inventoryReport p.isd (p.inventory c) false) := by
  obtain ⟨hisd, hinstalled, hfiles⟩ := readable_content h
  obtain ⟨hfew, hfew'⟩ := length_content h
  have hone : [isdFields p.isd p.state p.isdPrivileges].length ≤ MAX_TLVS := show 1 ≤ 64 by omega
  have hread₁ := (parseStatusRegistry_octets hone hisd).2
  have hread₂ : parseStatusRegistry (installedOctets c.instances) = _ :=
    (parseStatusRegistry_octets hfew hinstalled).2
  have hread₃ : parseStatusRegistry (fileOctets c.loadFiles) = _ :=
    (parseStatusRegistry_octets hfew' hfiles).2
  obtain ⟨hinventory, hoverflow⟩ := addItems_content h
  have hofTlv : ∀ es : List RegistryEntry, ofTlv (.ok es) = .ok es := fun _ => rfl
  unfold inventoryOf
  dsimp only
  rw [hread₁, hread₂, hread₃, hofTlv, hofTlv, hofTlv, ok_bind, ok_bind, ok_bind,
    itemsOf_content h, hinventory, hoverflow]
  rfl

/-- The inventory that is reported is the content's. -/
theorem getCardInventory_registry {c : Content p.isd} {n : ℕ}
    {w : World (IdealCard (Registry p)) (IdealBackend P ρ)}
    (hw : Holding p (n + INVENTORY_COMMANDS) w c) :
    ∃ w', getCardInventory session p.isd.bytes w =
        (.ok (inventoryReport p.isd (p.inventory c) false), w') ∧ Holding p n w' c := by
  have hlistable : Listable p.pageSize c := hw.content ▸ w.transport.app.listable
  have hroom : w.backend.channel.RoomFor (n + 16 + 16 + 16) := hw.room
  obtain ⟨hisd, happs, hfiles⟩ := parses_content hlistable
  have hscope₁ : w.transport.app.scope P1_ISD_SCOPE =
      some (octets [isdFields p.isd p.state p.isdPrivileges]) := rfl
  have hfits : (octets [isdFields p.isd p.state p.isdPrivileges]).length ≤
      MAX_STATUS_PAGES * p.pageSize := by
    have hlength := length_isdOctets p.isd p.state p.isdPrivileges
    have hpages : 16 * 16 ≤ MAX_STATUS_PAGES * p.pageSize := Nat.mul_le_mul_left 16 p.pageSize_ge
    omega
  obtain ⟨w₁, hread₁, hcontent₁, hroom₁⟩ := readStatusScope_registry session hisd hscope₁
    hfits hroom
  have hscope₂ : w₁.transport.app.scope P1_APP_SD_SCOPE = some (installedOctets c.instances) := by
    rw [← hw.content, ← hcontent₁]
    rfl
  obtain ⟨w₂, hread₂, hcontent₂, hroom₂⟩ := readStatusScope_registry session happs hscope₂
    hlistable.installed hroom₁
  have hscope₃ : w₂.transport.app.scope P1_ELF_MODULE_SCOPE = some (fileOctets c.loadFiles) := by
    rw [← hw.content, ← hcontent₁, ← hcontent₂]
    rfl
  obtain ⟨w₃, hread₃, hcontent₃, hroom₃⟩ := readStatusScope_registry session hfiles hscope₃
    hlistable.files hroom₂
  have hout := getCardInventory_of_reads (Aid.new_of_valid p.isd.valid) hread₁ hread₂ hread₃
  rw [inventoryOf_content hlistable] at hout
  -- the last read is the last thing that is done
  have hrun : getCardInventory session p.isd.bytes w =
      (.ok (inventoryReport p.isd (p.inventory c) false),
        (getCardInventory session p.isd.bytes w).2) := Prod.ext hout rfl
  obtain ⟨isd, s₁, s₂, s₃, v₁, v₂, -, hr₁, hr₂, hr₃, -⟩ := reads_of_getCardInventory hrun
  obtain ⟨-, rfl⟩ := Prod.mk.inj (hread₁.symm.trans hr₁)
  obtain ⟨-, rfl⟩ := Prod.mk.inj (hread₂.symm.trans hr₂)
  obtain ⟨-, hlast⟩ := Prod.mk.inj (hread₃.symm.trans hr₃)
  rw [← hlast] at hrun
  refine ⟨w₃, hrun, ?_, hroom₃⟩
  rw [hcontent₃, hcontent₂, hcontent₁, hw.content]

end inventory

end Scll

import Scll.Content
import Scll.TlvRoundTrip
import Mathlib.Data.List.Flatten

/-! # How a card lists its content

    One `'E3'` entry for each object, with its fields under their GET STATUS
    tags. A listing fits when the host has room for all of it, in octets and in
    lines; what is left of a content that fits fits as well.
-/

namespace Scll

namespace Listing

open Octets Response Tlv Workflow

/-! ### Fields -/

/-- The longest value of an object. -/
def MAX_VALUE : ℕ := 65535

theorem addressable_of_le {n : ℕ} (h : n ≤ MAX_VALUE) : n < 2 ^ 64 := by
  have hmax : MAX_VALUE = 65535 := rfl
  omega

theorem length_aid_le (aid : Aid) : aid.bytes.length ≤ MAX_VALUE := by
  have hvalid := aid.valid.2
  have hmax : AID_MAX = 16 := rfl
  have hvalue : MAX_VALUE = 65535 := rfl
  omega

theorem length_octet_le (b : UInt8) : [b].length ≤ MAX_VALUE := Nat.succ_le_of_lt (by decide)

theorem length_privileges_le (p : Privileges) : p.toList.length ≤ MAX_VALUE := by
  show 3 ≤ 65535
  omega

def aidField (tag : UInt32) (aid : Aid) : Tlv where
  tag := tag
  value := aid.bytes
  addressable := addressable_of_le (length_aid_le aid)

def octetField (tag : UInt32) (b : UInt8) : Tlv where
  tag := tag
  value := [b]
  addressable := addressable_of_le (length_octet_le b)

def privilegesField (p : Privileges) : Tlv where
  tag := TAG_PRIVILEGES
  value := p.toList
  addressable := addressable_of_le (length_privileges_le p)

/-- The life cycle of a load file. -/
def LOADED : UInt8 := 0x01

/-- The life cycle of an instance that was made selectable. -/
def SELECTABLE : UInt8 := 0x07

def isdFields (isd : Aid) (state : UInt8) (privileges : Privileges) : List Tlv :=
  [aidField TAG_AID isd, octetField TAG_LIFE_CYCLE state, privilegesField privileges]

def installedFields (i : Installed) : List Tlv :=
  [aidField TAG_AID i.aid, octetField TAG_LIFE_CYCLE SELECTABLE, privilegesField i.privileges,
    aidField TAG_ELF_AID i.file, aidField TAG_ASSOC_SD_AID i.domain]

def fileFields (f : LoadFile) : List Tlv :=
  [aidField TAG_AID f.aid, octetField TAG_LIFE_CYCLE LOADED, aidField TAG_ASSOC_SD_AID f.domain] ++
    f.modules.map (aidField TAG_MODULE_AID)

/-! ### Entries -/

/-- An `'E3'` entry. -/
def entry (fields : List Tlv) : Tlv where
  tag := TAG_GP_REGISTRY
  value := (encoding fields).take MAX_VALUE
  addressable := addressable_of_le (List.length_take_le ..)

/-- The octets of a number of entries. -/
def octets (entries : List (List Tlv)) : List UInt8 := encoding (entries.map entry)

/-- The tags of a listing, of one octet or of two. -/
def listingTags : List UInt32 :=
  [TAG_GP_REGISTRY, TAG_AID, TAG_LIFE_CYCLE, TAG_PRIVILEGES, TAG_ELF_AID, TAG_ASSOC_SD_AID,
    TAG_MODULE_AID]

theorem wellFormed_of_listed {tag : UInt32} (h : tag ∈ listingTags) : WellFormedTag tag := by
  simp only [listingTags, List.mem_cons, List.not_mem_nil, or_false] at h
  rcases h with rfl | rfl | rfl | rfl | rfl | rfl | rfl
  · exact ⟨[0xE3], by decide, by decide⟩
  · exact ⟨[0x4F], by decide, by decide⟩
  · exact ⟨[0x9F, 0x70], by decide, by decide⟩
  · exact ⟨[0xC5], by decide, by decide⟩
  · exact ⟨[0xC4], by decide, by decide⟩
  · exact ⟨[0xCC], by decide, by decide⟩
  · exact ⟨[0x84], by decide, by decide⟩

/-- An entry that is read back: its fields are few, are listed and fit. -/
structure Readable (fields : List Tlv) : Prop where
  few : fields.length ≤ MAX_TLVS
  listed : ∀ t ∈ fields, t.tag ∈ listingTags
  fits : (encoding fields).length ≤ MAX_VALUE

theorem parse_entry {fields : List Tlv} (h : Readable fields) :
    Tlv.parse (entry fields).value = .ok fields := by
  have hvalue : (entry fields).value = encoding fields := List.take_of_length_le h.fits
  rw [hvalue]
  apply parse_encoding h.few
  intro t ht
  exact wellFormed_of_listed (h.listed t ht)

theorem decodeEntries_entries {entries : List (List Tlv)} {room : ℕ}
    (hroom : entries.length ≤ room) (h : ∀ fields ∈ entries, Readable fields) :
    decodeEntries room (entries.map entry) = .ok (entries.map decodeEntry) := by
  induction entries generalizing room with
  | nil => cases room <;> rfl
  | cons fields entries ih =>
    rw [List.length_cons] at hroom
    obtain ⟨room, rfl⟩ : ∃ r, room = r + 1 := ⟨room - 1, by omega⟩
    rw [List.forall_mem_cons] at h
    rw [List.map_cons, decodeEntries, parse_entry h.1, ok_bind, ih (by omega) h.2]
    rfl

/-- What is listed is read back as it is. -/
theorem parseStatusRegistry_octets {entries : List (List Tlv)}
    (hfew : entries.length ≤ MAX_TLVS) (h : ∀ fields ∈ entries, Readable fields) :
    Tlv.parse (octets entries) = .ok (entries.map entry) ∧
      parseStatusRegistry (octets entries) = .ok (entries.map decodeEntry) := by
  have hparse : Tlv.parse (octets entries) = .ok (entries.map entry) := by
    apply parse_encoding (by rwa [List.length_map])
    intro t ht
    obtain ⟨fields, -, rfl⟩ := List.mem_map.mp ht
    exact wellFormed_of_listed List.mem_cons_self
  refine ⟨hparse, ?_⟩
  have hfilter : (entries.map entry).filter (fun t => t.tag == TAG_GP_REGISTRY) =
      entries.map entry := by
    apply List.filter_eq_self.mpr
    intro t ht
    obtain ⟨fields, -, rfl⟩ := List.mem_map.mp ht
    rfl
  have hroom : entries.length ≤ MAX_REGISTRY_ENTRIES := hfew
  unfold parseStatusRegistry
  by_cases hempty : (octets entries).isEmpty = true
  · -- no octets, no entries
    rw [if_pos hempty]
    rw [List.isEmpty_iff.mp hempty] at hparse
    have hnone : entries.map entry = [] := (Except.ok.inj hparse).symm
    rw [List.map_eq_nil_iff.mp hnone]
    rfl
  · rw [if_neg hempty, hparse, ok_bind, hfilter]
    exact decodeEntries_entries hroom h

/-! ### What fits -/

/-- The lengths of a number of objects that are each no longer than `k`. -/
theorem length_encoding_le {k : ℕ} {items : List Tlv}
    (h : ∀ item ∈ items, (objectOctets item).length ≤ k) :
    (encoding items).length ≤ items.length * k := by
  induction items with
  | nil => exact Nat.zero_le _
  | cons item items ih =>
    rw [List.forall_mem_cons] at h
    have hitem := h.1
    have hitems := ih h.2
    rw [encoding, List.flatMap_cons, List.length_append, List.length_cons, Nat.succ_mul]
    unfold encoding at hitems
    omega

/-- An object whose value is no longer than an AID. -/
theorem length_objectOctets_le {item : Tlv} (h : item.value.length ≤ AID_MAX) :
    (objectOctets item).length ≤ 21 := by
  have hmax : AID_MAX = 16 := rfl
  have hlong : LEN_LONG.toNat = 128 := rfl
  have htag : (significant (writeBE 4 item.tag.toNat)).length ≤ 4 := by
    rw [significant, List.length_drop, length_writeBE]
    omega
  have hlength : (lengthOctets item.value.length).length = 1 := by
    unfold lengthOctets
    rw [if_pos (by omega)]
    rfl
  rw [objectOctets, List.length_append, List.length_append, hlength]
  omega

/-- A field with a tag of the listing and a value as short as an AID. -/
def Short (t : Tlv) : Prop := t.tag ∈ listingTags ∧ t.value.length ≤ AID_MAX

theorem short_aid {tag : UInt32} (h : tag ∈ listingTags) (aid : Aid) : Short (aidField tag aid) :=
  ⟨h, aid.valid.2⟩

theorem short_octet (b : UInt8) : Short (octetField TAG_LIFE_CYCLE b) := by
  constructor
  · show TAG_LIFE_CYCLE ∈ listingTags
    decide
  · show 1 ≤ 16
    omega

theorem short_privileges (p : Privileges) : Short (privilegesField p) := by
  constructor
  · show TAG_PRIVILEGES ∈ listingTags
    decide
  · show 3 ≤ 16
    omega

theorem readable_of_short {fields : List Tlv} (hfew : fields.length ≤ MAX_TLVS)
    (h : ∀ t ∈ fields, Short t) : Readable fields := by
  refine ⟨hfew, fun t ht => (h t ht).1, ?_⟩
  have hlength := length_encoding_le (k := 21) fun t ht => length_objectOctets_le (h t ht).2
  have hmax : MAX_TLVS = 64 := rfl
  have hvalue : MAX_VALUE = 65535 := rfl
  omega

theorem short_isdFields (isd : Aid) (state : UInt8) (privileges : Privileges) :
    ∀ t ∈ isdFields isd state privileges, Short t := by
  simp only [isdFields, List.forall_mem_cons]
  exact ⟨short_aid (by decide) isd, short_octet state, short_privileges privileges, by simp⟩

theorem short_installedFields (i : Installed) : ∀ t ∈ installedFields i, Short t := by
  simp only [installedFields, List.forall_mem_cons]
  exact ⟨short_aid (by decide) i.aid, short_octet SELECTABLE, short_privileges i.privileges,
    short_aid (by decide) i.file, short_aid (by decide) i.domain, by simp⟩

theorem short_fileFields (f : LoadFile) : ∀ t ∈ fileFields f, Short t := by
  simp only [fileFields, List.forall_mem_append, List.forall_mem_cons, List.forall_mem_map]
  exact ⟨⟨short_aid (by decide) f.aid, short_octet LOADED, short_aid (by decide) f.domain, by simp⟩,
    fun m _ => short_aid (by decide) m⟩

/-- The entry of an ISD fits on one page of most cards. -/
theorem length_isdOctets (isd : Aid) (state : UInt8) (q : Privileges) :
    (octets [isdFields isd state q]).length ≤ 65 := by
  have hvalue : (entry (isdFields isd state q)).value.length ≤ 63 := by
    have hfields := length_encoding_le (k := 21) fun t ht =>
      length_objectOctets_le (short_isdFields isd state q t ht).2
    have hthree : (isdFields isd state q).length = 3 := rfl
    have htake := List.length_take_le' MAX_VALUE (encoding (isdFields isd state q))
    rw [hthree] at hfields
    exact htake.trans hfields
  have hlength : (lengthOctets (entry (isdFields isd state q)).value.length).length = 1 := by
    have hlong : LEN_LONG.toNat = 128 := rfl
    unfold lengthOctets
    rw [if_pos (by omega)]
    rfl
  have htag : (significant (writeBE 4 TAG_GP_REGISTRY.toNat)).length = 1 := by decide
  have hone : octets [isdFields isd state q] = objectOctets (entry (isdFields isd state q)) :=
    List.append_nil _
  rw [hone, objectOctets, List.length_append, List.length_append, hlength]
  change (significant (writeBE 4 TAG_GP_REGISTRY.toNat)).length + 1 + _ ≤ _
  omega

/-! ### What a host has room for -/

/-- A scope as octets. -/
def installedOctets (is : List Installed) : List UInt8 := octets (is.map installedFields)

def fileOctets (fs : List LoadFile) : List UInt8 := octets (fs.map fileFields)

/-- The host has room for the whole listing, when it is cut into pages. -/
structure Listable (pageSize : ℕ) {isd : Aid} (c : Content isd) : Prop where
  installed : (installedOctets c.instances).length ≤ MAX_STATUS_PAGES * pageSize
  files : (fileOctets c.loadFiles).length ≤ MAX_STATUS_PAGES * pageSize
  /-- The ISD is a line of its own. -/
  domains : (c.instances.filter fun i => i.privileges.isSecurityDomain).length < MAX_SDS
  applets : (c.instances.filter fun i => !i.privileges.isSecurityDomain).length ≤ MAX_APPLETS
  elfs : c.loadFiles.length ≤ MAX_ELFS
  modules : ∀ f ∈ c.loadFiles, f.modules.length ≤ MAX_MODULES_PER_ELF

instance (pageSize : ℕ) {isd : Aid} (c : Content isd) : Decidable (Listable pageSize c) :=
  decidable_of_iff
    ((installedOctets c.instances).length ≤ MAX_STATUS_PAGES * pageSize ∧
      (fileOctets c.loadFiles).length ≤ MAX_STATUS_PAGES * pageSize ∧
      (c.instances.filter fun i => i.privileges.isSecurityDomain).length < MAX_SDS ∧
      (c.instances.filter fun i => !i.privileges.isSecurityDomain).length ≤ MAX_APPLETS ∧
      c.loadFiles.length ≤ MAX_ELFS ∧
      ∀ f ∈ c.loadFiles, f.modules.length ≤ MAX_MODULES_PER_ELF)
    ⟨fun h => ⟨h.1, h.2.1, h.2.2.1, h.2.2.2.1, h.2.2.2.2.1, h.2.2.2.2.2⟩,
      fun h => ⟨h.installed, h.files, h.domains, h.applets, h.elfs, h.modules⟩⟩

theorem length_octets_sublist {entries entries' : List (List Tlv)} (h : entries'.Sublist entries) :
    (octets entries').length ≤ (octets entries).length :=
  ((h.map entry).flatMap objectOctets).length_le

/-- What is left of a listing that fits fits as well. -/
theorem Listable.of_sublist {pageSize : ℕ} {isd : Aid} {c c' : Content isd}
    (h : Listable pageSize c) (hsub : c'.objects.Sublist c.objects) : Listable pageSize c' := by
  have hinstances : c'.instances.Sublist c.instances := hsub.filterMap _
  have hfiles : c'.loadFiles.Sublist c.loadFiles := hsub.filterMap _
  refine ⟨?_, ?_, ?_, ?_, ?_, ?_⟩
  · exact (length_octets_sublist (hinstances.map _)).trans h.installed
  · exact (length_octets_sublist (hfiles.map _)).trans h.files
  · exact (hinstances.filter _).length_le.trans_lt h.domains
  · exact (hinstances.filter _).length_le.trans h.applets
  · exact hfiles.length_le.trans h.elfs
  · intro f hf
    exact h.modules f (hfiles.subset hf)

theorem Listable.of_delete {pageSize : ℕ} {isd : Aid} {c c' : Content isd} {aid : Aid}
    {related : Bool} (h : Listable pageSize c) (hdelete : c.delete aid related = .ok c') :
    Listable pageSize c' := by
  apply h.of_sublist
  rw [Content.objects_of_delete hdelete]
  exact List.filter_sublist

section readable

variable {pageSize : ℕ} {isd : Aid} {c : Content isd}

theorem Listable.few_instances (h : Listable pageSize c) : c.instances.length ≤ MAX_TLVS := by
  have hdomains := h.domains
  have happlets := h.applets
  have hsplit := List.length_eq_length_filter_add (l := c.instances)
    fun i => i.privileges.isSecurityDomain
  have hsds : MAX_SDS = 8 := rfl
  have hmax : MAX_APPLETS = 48 := rfl
  have htlvs : MAX_TLVS = 64 := rfl
  omega

theorem readable_installed (i : Installed) : Readable (installedFields i) := by
  apply readable_of_short _ (short_installedFields i)
  show 5 ≤ 64
  omega

theorem Listable.readable_file (h : Listable pageSize c) {f : LoadFile} (hf : f ∈ c.loadFiles) :
    Readable (fileFields f) := by
  apply readable_of_short _ (short_fileFields f)
  have hmodules := h.modules f hf
  have hmax : MAX_MODULES_PER_ELF = 16 := rfl
  have htlvs : MAX_TLVS = 64 := rfl
  rw [fileFields, List.length_append, List.length_map]
  show 3 + _ ≤ _
  omega

end readable

end Listing

end Scll

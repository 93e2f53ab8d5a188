import Scll.Workflow.Paging

/-! # What an inventory holds

    Every entry of a scope is one item of the inventory, or none, and the three
    lists hold the items of their kind up to their capacity. What the card
    answers over the three scopes determines the report, `inventoryOf`.
-/

namespace Scll

namespace Workflow

open Response

/-! ### Items -/

/-- One line of an inventory. -/
inductive Item where
  | securityDomain (e : SecurityDomainEntry)
  | application (e : ApplicationEntry)
  | elf (e : ExecutableLoadFileEntry)

namespace Item

def securityDomain? : Item → Option SecurityDomainEntry
  | securityDomain e => some e
  | _ => none

def application? : Item → Option ApplicationEntry
  | application e => some e
  | _ => none

def elf? : Item → Option ExecutableLoadFileEntry
  | elf e => some e
  | _ => none

end Item

/-- The line of an ISD scope entry. -/
def isdItem (isd : Aid) (e : RegistryEntry) : Item :=
  .securityDomain
    { aid := (Aid.ofOctets? e.aid).getD isd
      lifeCycleState := e.lifeCycle
      privileges := e.privileges
      associatedSdAid := none }

/-- The line of an application or a Supplementary Security Domain. -/
def applicationItem (isd : Aid) (e : RegistryEntry) (aid : Aid) : Item :=
  if RegistryEntry.isSecurityDomain e then
    .securityDomain
      { aid
        lifeCycleState := e.lifeCycle
        privileges := e.privileges
        associatedSdAid := e.associatedSdAid.bind Aid.ofOctets? }
  else
    .application
      { aid
        lifeCycleState := e.lifeCycle
        privileges := e.privileges
        associatedSdAid := (e.associatedSdAid.bind Aid.ofOctets?).getD isd
        associatedElfAid := e.elfAid.bind Aid.ofOctets? }

/-- The line of an Executable Load File. -/
def elfItem (isd : Aid) (e : RegistryEntry) (aid : Aid) : Item :=
  .elf
    { aid
      lifeCycleState := e.lifeCycle
      associatedSdAid := (e.associatedSdAid.bind Aid.ofOctets?).getD isd
      modules := collectModules e.modules }

/-- What becomes of an entry of the application scope: the ISD is not shown again. -/
def applicationItem? (isd : Aid) (e : RegistryEntry) : Option Item :=
  if e.aid = isd.bytes then none else (Aid.ofOctets? e.aid).map (applicationItem isd e)

def elfItem? (isd : Aid) (e : RegistryEntry) : Option Item :=
  (Aid.ofOctets? e.aid).map (elfItem isd e)

/-! ### Filling the lists -/

/-- The lists hold no more than they can. -/
structure Fits (inv : CardInventory) : Prop where
  securityDomains : inv.securityDomains.length ≤ MAX_SDS
  applets : inv.applets.length ≤ MAX_APPLETS
  elfs : inv.elfs.length ≤ MAX_ELFS

/-- The inventory with more lines, of each kind as many as fit. -/
def addItems (inv : CardInventory) (items : List Item) : CardInventory where
  securityDomains := (inv.securityDomains ++ items.filterMap Item.securityDomain?).take MAX_SDS
  applets := (inv.applets ++ items.filterMap Item.application?).take MAX_APPLETS
  elfs := (inv.elfs ++ items.filterMap Item.elf?).take MAX_ELFS

/-- More than a list of capacity `cap` holds. -/
def exceeds {α : Type} (cap : ℕ) (v : List α) : Bool := cap < v.length

/-- Some line does not fit. -/
def overflows (inv : CardInventory) (items : List Item) : Bool :=
  exceeds MAX_SDS (inv.securityDomains ++ items.filterMap Item.securityDomain?) ||
    exceeds MAX_APPLETS (inv.applets ++ items.filterMap Item.application?) ||
    exceeds MAX_ELFS (inv.elfs ++ items.filterMap Item.elf?)

/-- Add one line. -/
def addItem (inv : CardInventory) : Item → CardInventory × Bool
  | .securityDomain e => CardInventory.addSecurityDomain inv e
  | .application e => CardInventory.addApplet inv e
  | .elf e => CardInventory.addElf inv e

/-- A store that adds the line of an entry, if there is one. -/
def AddsItem (store : Store) (item? : RegistryEntry → Option Item) : Prop :=
  ∀ inv e, store inv e = match item? e with
    | none => (inv, true)
    | some item => addItem inv item

theorem storeIsd_addsItem (isd : Aid) : AddsItem (storeIsd isd) fun e => some (isdItem isd e) :=
  fun _ _ => rfl

theorem storeApplication_addsItem (isd : Aid) :
    AddsItem (storeApplication isd) (applicationItem? isd) := by
  intro inv e
  unfold storeApplication applicationItem?
  split
  · rfl
  · cases Aid.ofOctets? e.aid with
    | none => rfl
    | some aid =>
      dsimp only [Option.map_some]
      unfold applicationItem
      split <;> rfl

theorem storeElf_addsItem (isd : Aid) : AddsItem (storeElf isd) (elfItem? isd) := by
  intro inv e
  unfold storeElf elfItem?
  cases Aid.ofOctets? e.aid with
  | none => rfl
  | some aid => rfl

/-- Pushing into a list of bounded length, and what is pushed after that. -/
theorem tryPush_take {α : Type} {cap : ℕ} {v : List α} (hv : v.length ≤ cap) (a : α)
    (rest : List α) :
    ((tryPush cap v a).1 ++ rest).take cap = (v ++ a :: rest).take cap ∧
      (tryPush cap v a).1.length ≤ cap ∧
      (!(tryPush cap v a).2 || exceeds cap ((tryPush cap v a).1 ++ rest)) =
        exceeds cap (v ++ a :: rest) := by
  unfold tryPush
  split
  · next hlt =>
    refine ⟨by simp, by simp; omega, ?_⟩
    simp [exceeds]
  · next hfull =>
    have hcap : v.length = cap := by omega
    refine ⟨?_, hv, ?_⟩
    · dsimp only
      rw [List.take_append_of_le_length hcap.ge, List.take_append_of_le_length hcap.ge]
    · simp [exceeds, hcap]

theorem addItems_nil {inv : CardInventory} (h : Fits inv) :
    addItems inv [] = inv ∧ overflows inv [] = false := by
  have h₁ := h.securityDomains
  have h₂ := h.applets
  have h₃ := h.elfs
  constructor
  · simp [addItems, List.take_of_length_le, h₁, h₂, h₃]
  · simp [overflows, exceeds, h₁, h₂, h₃]

/-- One line, and the lines after it. -/
theorem addItem_addItems {inv : CardInventory} (h : Fits inv) (item : Item)
    (items : List Item) :
    Fits (addItem inv item).1 ∧ addItems (addItem inv item).1 items = addItems inv (item :: items) ∧
      (!(addItem inv item).2 || overflows (addItem inv item).1 items) =
        overflows inv (item :: items) := by
  have h₁ := h.securityDomains
  have h₂ := h.applets
  have h₃ := h.elfs
  cases item with
  | securityDomain e =>
    obtain ⟨htake, hlen, hover⟩ := tryPush_take h₁ e (items.filterMap Item.securityDomain?)
    refine ⟨⟨hlen, h₂, h₃⟩, ?_, ?_⟩
    · simp [addItem, CardInventory.addSecurityDomain, addItems, List.filterMap_cons,
        Item.securityDomain?, Item.application?, Item.elf?, htake]
    · simp only [addItem, CardInventory.addSecurityDomain, overflows, List.filterMap_cons,
        Item.securityDomain?, Item.application?, Item.elf?]
      rw [← hover]
      ac_rfl
  | application e =>
    obtain ⟨htake, hlen, hover⟩ := tryPush_take h₂ e (items.filterMap Item.application?)
    refine ⟨⟨h₁, hlen, h₃⟩, ?_, ?_⟩
    · simp [addItem, CardInventory.addApplet, addItems, List.filterMap_cons,
        Item.securityDomain?, Item.application?, Item.elf?, htake]
    · simp only [addItem, CardInventory.addApplet, overflows, List.filterMap_cons,
        Item.securityDomain?, Item.application?, Item.elf?]
      rw [← hover]
      ac_rfl
  | elf e =>
    obtain ⟨htake, hlen, hover⟩ := tryPush_take h₃ e (items.filterMap Item.elf?)
    refine ⟨⟨h₁, h₂, hlen⟩, ?_, ?_⟩
    · simp [addItem, CardInventory.addElf, addItems, List.filterMap_cons,
        Item.securityDomain?, Item.application?, Item.elf?, htake]
    · simp only [addItem, CardInventory.addElf, overflows, List.filterMap_cons,
        Item.securityDomain?, Item.application?, Item.elf?]
      rw [← hover]
      ac_rfl

/-- The flag is carried along: what it starts from is or-ed to what follows. -/
theorem foldl_store {store : Store} {item? : RegistryEntry → Option Item}
    (hstore : AddsItem store item?) (entries : List RegistryEntry) (inv : CardInventory)
    (flag : Bool) (h : Fits inv) :
    entries.foldl (fun acc e =>
        let (inv, kept) := store acc.1 e
        (inv, acc.2 || !kept)) (inv, flag) =
      (addItems inv (entries.filterMap item?),
        flag || overflows inv (entries.filterMap item?)) := by
  induction entries generalizing inv flag with
  | nil =>
    obtain ⟨hadd, hover⟩ := addItems_nil h
    simp [hadd, hover]
  | cons e entries ih =>
    rw [List.foldl_cons]
    dsimp only
    rw [hstore inv e, List.filterMap_cons]
    cases item? e with
    | none =>
      rw [ih inv _ h]
      simp
    | some item =>
      obtain ⟨hfits, hadd, hover⟩ := addItem_addItems h item (entries.filterMap item?)
      rw [ih _ _ hfits, hadd, ← hover, Bool.or_assoc]

/-- Storing the entries of a scope adds their lines. -/
theorem storeAll_eq {store : Store} {item? : RegistryEntry → Option Item}
    (hstore : AddsItem store item?) {inv : CardInventory} (h : Fits inv)
    (entries : List RegistryEntry) :
    storeAll store inv entries =
      (addItems inv (entries.filterMap item?), overflows inv (entries.filterMap item?)) := by
  have hfold := foldl_store hstore entries inv false h
  rwa [Bool.false_or] at hfold

theorem fits_addItems (inv : CardInventory) (items : List Item) : Fits (addItems inv items) :=
  ⟨List.length_take_le .., List.length_take_le .., List.length_take_le ..⟩

theorem take_append_take {α : Type} (n : ℕ) (xs ys : List α) :
    (xs.take n ++ ys).take n = (xs ++ ys).take n := by
  by_cases h : xs.length ≤ n
  · rw [List.take_of_length_le h]
  · rw [List.take_append_of_le_length (by rw [List.length_take]; omega),
      List.take_append_of_le_length (by omega), List.take_take, Nat.min_self]

theorem exceeds_append {α : Type} (n : ℕ) (xs ys : List α) :
    (exceeds n xs || exceeds n (xs.take n ++ ys)) = exceeds n (xs ++ ys) := by
  unfold exceeds
  by_cases h : xs.length ≤ n
  · rw [List.take_of_length_le h]
    simp [show ¬n < xs.length by omega]
  · simp only [List.length_append]
    simp [show n < xs.length by omega, show n < xs.length + ys.length by omega]

/-- Lines added in two goes. -/
theorem addItems_append (inv : CardInventory) (xs ys : List Item) :
    addItems (addItems inv xs) ys = addItems inv (xs ++ ys) ∧
      (overflows inv xs || overflows (addItems inv xs) ys) = overflows inv (xs ++ ys) := by
  constructor
  · simp only [addItems, take_append_take, List.append_assoc, List.filterMap_append]
  · simp only [overflows, addItems, List.filterMap_append, ← List.append_assoc]
    rw [← exceeds_append MAX_SDS (inv.securityDomains ++ xs.filterMap Item.securityDomain?),
      ← exceeds_append MAX_APPLETS (inv.applets ++ xs.filterMap Item.application?),
      ← exceeds_append MAX_ELFS (inv.elfs ++ xs.filterMap Item.elf?)]
    ac_rfl

/-- What a scope adds, for any store that adds lines. -/
theorem storeScope_eq {store : Store} {item? : RegistryEntry → Option Item}
    (hstore : AddsItem store item?) {inv : CardInventory} (h : Fits inv) (data : List UInt8)
    (truncated : Bool) :
    storeScope store inv data truncated =
      (ofTlv (parseStatusRegistry data) >>= fun entries =>
        .ok (addItems inv (entries.filterMap item?),
          truncated || overflows inv (entries.filterMap item?))) := by
  unfold storeScope
  split
  · next hempty =>
    obtain ⟨hdata, htruncated⟩ := hempty
    obtain rfl := List.isEmpty_iff.mp hdata
    obtain ⟨hadd, hover⟩ := addItems_nil h
    have hentries : ofTlv (parseStatusRegistry []) = .ok [] := rfl
    rw [hentries, ok_bind, List.filterMap_nil, hadd, hover, Bool.eq_false_iff.mpr htruncated]
    rfl
  · congr 1
    funext entries
    rw [storeAll_eq hstore h]

/-! ### The report -/

/-- The lines of an inventory, by the entries of its three scopes. -/
def itemsOf (isd : Aid) (es₁ es₂ es₃ : List RegistryEntry) : List Item :=
  es₁.map (isdItem isd) ++ es₂.filterMap (applicationItem? isd) ++ es₃.filterMap (elfItem? isd)

abbrev noInventory : CardInventory := ⟨[], [], []⟩

/-- What the octets kept of three scopes come to. -/
def inventoryOf (isd : Aid) (s₁ s₂ s₃ : List UInt8 × Bool) :
    Except ScllError GetCardInventoryReport := do
  let es₁ ← ofTlv (parseStatusRegistry s₁.1)
  let es₂ ← ofTlv (parseStatusRegistry s₂.1)
  let es₃ ← ofTlv (parseStatusRegistry s₃.1)
  let items := itemsOf isd es₁ es₂ es₃
  .ok (inventoryReport isd (addItems noInventory items)
    (s₁.2 || s₂.2 || s₃.2 || overflows noInventory items))

section report

variable {τ β : Type} [Transport τ] [Scp03Backend β] [Scp02Backend β]

theorem collectScope_of_read {session : ScpSession} {p1 : UInt8} {w w' : World τ β}
    {s : List UInt8 × Bool} {store : Store} {item? : RegistryEntry → Option Item}
    (hstore : AddsItem store item?) {inv : CardInventory} (h : Fits inv)
    (hread : readStatusScope session p1 w = (.ok s, w')) :
    collectScope session p1 store inv w =
      (ofTlv (parseStatusRegistry s.1) >>= fun entries =>
        .ok (addItems inv (entries.filterMap item?),
          s.2 || overflows inv (entries.filterMap item?)), w') := by
  unfold collectScope
  rw [Prog.bind_ok hread]
  obtain ⟨data, truncated⟩ := s
  dsimp only [Prog.lift_run]
  rw [storeScope_eq hstore h]

/-- The report, from what the three scopes read as. -/
theorem getCardInventory_of_reads {session : ScpSession} {isdAid : List UInt8} {isd : Aid}
    {w w₁ w₂ w₃ : World τ β} {s₁ s₂ s₃ : List UInt8 × Bool} (hisd : Aid.new isdAid = .ok isd)
    (h₁ : readStatusScope session P1_ISD_SCOPE w = (.ok s₁, w₁))
    (h₂ : readStatusScope session P1_APP_SD_SCOPE w₁ = (.ok s₂, w₂))
    (h₃ : readStatusScope session P1_ELF_MODULE_SCOPE w₂ = (.ok s₃, w₃)) :
    (getCardInventory session isdAid w).1 = inventoryOf isd s₁ s₂ s₃ := by
  have hnone : Fits noInventory := ⟨Nat.zero_le _, Nat.zero_le _, Nat.zero_le _⟩
  -- scope by scope, each over the items that the scopes before it left
  have hc₁ := collectScope_of_read (storeIsd_addsItem isd) hnone h₁
  unfold getCardInventory inventoryOf
  rw [hisd, Prog.bind_ok (Prog.lift_run _ w)]
  cases he₁ : ofTlv (parseStatusRegistry s₁.1) with
  | error e =>
    rw [he₁, error_bind] at hc₁
    exact congrArg Prod.fst (Prog.bind_error hc₁)
  | ok es₁ =>
    rw [he₁, ok_bind, List.filterMap_eq_map'] at hc₁
    rw [Prog.bind_ok hc₁, ok_bind]
    dsimp only
    have hc₂ := collectScope_of_read (storeApplication_addsItem isd)
      (fits_addItems noInventory (es₁.map (isdItem isd))) h₂
    cases he₂ : ofTlv (parseStatusRegistry s₂.1) with
    | error e =>
      rw [he₂, error_bind] at hc₂
      exact congrArg Prod.fst (Prog.bind_error hc₂)
    | ok es₂ =>
      rw [he₂, ok_bind] at hc₂
      rw [Prog.bind_ok hc₂, ok_bind]
      dsimp only
      have hc₃ := collectScope_of_read (storeElf_addsItem isd)
        (fits_addItems (addItems noInventory (es₁.map (isdItem isd)))
          (es₂.filterMap (applicationItem? isd))) h₃
      cases he₃ : ofTlv (parseStatusRegistry s₃.1) with
      | error e =>
        rw [he₃, error_bind] at hc₃
        exact congrArg Prod.fst (Prog.bind_error hc₃)
      | ok es₃ =>
        rw [he₃, ok_bind] at hc₃
        rw [Prog.bind_ok hc₃, ok_bind]
        obtain ⟨hadd₂, hover₂⟩ := addItems_append noInventory (es₁.map (isdItem isd))
          (es₂.filterMap (applicationItem? isd))
        obtain ⟨hadd₃, hover₃⟩ := addItems_append noInventory (es₁.map (isdItem isd) ++
          es₂.filterMap (applicationItem? isd)) (es₃.filterMap (elfItem? isd))
        simp only [Prog.pure_run, itemsOf]
        rw [← hover₃, ← hover₂, ← hadd₃, ← hadd₂]
        congr 2
        ac_rfl

/-- A collection that succeeds read its scope. -/
theorem read_of_collectScope {session : ScpSession} {p1 : UInt8} {store : Store}
    {inv inv' : CardInventory} {cut : Bool} {w w' : World τ β}
    (h : collectScope session p1 store inv w = (.ok (inv', cut), w')) :
    ∃ s, readStatusScope session p1 w = (.ok s, w') := by
  obtain ⟨s, w₁, hread, h⟩ := Prog.bind_eq_ok.mp h
  obtain ⟨-, rfl⟩ := Prog.lift_eq_ok.mp h
  exact ⟨s, hread⟩

/-- A report, read backwards: the three scopes it was read from. -/
theorem reads_of_getCardInventory {session : ScpSession} {isdAid : List UInt8}
    {report : GetCardInventoryReport} {w w' : World τ β}
    (h : getCardInventory session isdAid w = (.ok report, w')) :
    ∃ isd s₁ s₂ s₃ w₁ w₂, Aid.new isdAid = .ok isd ∧
      readStatusScope session P1_ISD_SCOPE w = (.ok s₁, w₁) ∧
      readStatusScope session P1_APP_SD_SCOPE w₁ = (.ok s₂, w₂) ∧
      readStatusScope session P1_ELF_MODULE_SCOPE w₂ = (.ok s₃, w') ∧
      inventoryOf isd s₁ s₂ s₃ = .ok report := by
  have hreport := congrArg Prod.fst h
  unfold getCardInventory at h
  obtain ⟨isd, w₀, hlift, h⟩ := Prog.bind_eq_ok.mp h
  obtain ⟨hisd, rfl⟩ := Prog.lift_eq_ok.mp hlift
  obtain ⟨⟨inv₁, cut₁⟩, w₁, hc₁, h⟩ := Prog.bind_eq_ok.mp h
  obtain ⟨⟨inv₂, cut₂⟩, w₂, hc₂, h⟩ := Prog.bind_eq_ok.mp h
  obtain ⟨⟨inv₃, cut₃⟩, w₃, hc₃, h⟩ := Prog.bind_eq_ok.mp h
  obtain ⟨-, rfl⟩ := Prod.mk.inj h
  obtain ⟨s₁, h₁⟩ := read_of_collectScope hc₁
  obtain ⟨s₂, h₂⟩ := read_of_collectScope hc₂
  obtain ⟨s₃, h₃⟩ := read_of_collectScope hc₃
  refine ⟨isd, s₁, s₂, s₃, w₁, w₂, hisd, h₁, h₂, h₃, ?_⟩
  rw [← getCardInventory_of_reads hisd h₁ h₂ h₃]
  exact hreport

end report

end Workflow

end Scll

import Scll.CardStatusLaw
import Scll.RegistryLaw

/-! # The ISD in an inventory

    An inventory is to show the ISD once. The ISD scope reports it, or the
    application scope does, or both. The code drops what carries the AID that
    the caller passed, whatever it has recorded before. When the caller's AID is
    a part of the ISD's, or the ISD scope is empty, this shows the ISD twice, or
    not at all.
-/

namespace Scll

namespace Workflow

open Response Sequence

/-! ### Lists of bounded length -/

/-- A list of bounded length after at most one item in front: it shows one `p`
    when either the item in front is there or a `p` still fits, and then it shows
    everything else. -/
theorem take_shows_one {α : Type} {p : α → Bool} {front back : List α} {n : ℕ}
    (hfront : front.length ≤ 1) (hp : ∀ a ∈ front, p a = true) (hback : back.countP p ≤ 1)
    (hn : 1 + (back.filter fun a => !p a).length ≤ n) :
    (((front ++ back).take n).countP p = 1 ↔
        (front ≠ [] ↔ ¬∃ a ∈ back.take (n - front.length), p a = true)) ∧
      (((front ++ back).take n).countP p = 1 →
        ((front ++ back).take n).filter (fun a => !p a) = back.filter fun a => !p a) := by
  have hsplit : (front ++ back).take n = front ++ back.take (n - front.length) := by
    rw [List.take_append, List.take_of_length_le (by omega)]
  -- the front is made of `p`s only, so everything else is in the back
  have hcount : front.countP p = front.length := List.countP_eq_length.mpr hp
  have hnone : front.filter (fun a => !p a) = [] :=
    List.filter_eq_nil_iff.mpr fun a ha => by simp [hp a ha]
  have hlength : back.countP p + (back.filter fun a => !p a).length = back.length := by
    rw [List.countP_eq_length_filter]
    exact (List.length_eq_length_filter_add _).symm
  have hpart : (back.take (n - front.length)).countP p ≤ back.countP p :=
    (List.take_sublist _ _).countP_le
  have hempty : front ≠ [] ↔ front.length = 1 := by
    rw [← List.length_pos_iff]
    omega
  rw [hsplit, List.countP_append, hcount, List.filter_append, hnone, List.nil_append,
    ← List.countP_pos_iff, hempty]
  constructor
  · omega
  · intro h
    by_cases hlong : back.length ≤ n - front.length
    · rw [List.take_of_length_le hlong]
    · -- the list is full of other items before the `p` comes
      have hzero : (back.take (n - front.length)).countP p = 0 := by omega
      have hall : (back.take (n - front.length)).filter (fun a => !p a) =
          back.take (n - front.length) :=
        List.filter_eq_self.mpr fun a ha => by simpa using List.countP_eq_zero.mp hzero a ha
      have hsub : ((back.take (n - front.length)).filter fun a => !p a).Sublist
          (back.filter fun a => !p a) := (List.take_sublist _ _).filter _
      refine hsub.eq_of_length_le ?_
      rw [hall, List.length_take]
      omega

/-! ### The registries of a card -/

/-- What an answered scope holds, within the bounds of the TLV reader. -/
def StatusAnswer.Registry : StatusAnswer → List RegistryEntry → Prop
  | .data p, es => ∃ top, IsSequence (p.more ++ [p.last]).flatten top ∧ top.length ≤ MAX_TLVS ∧
      List.Forall₂ Holds (registries top) es ∧
      ∀ t ∈ registries top, ∀ fields, IsSequence t.value fields → fields.length ≤ MAX_TLVS
  | .withdrawn _, es => es = []

theorem StatusAnswer.Registry.read {a : StatusAnswer} {es : List RegistryEntry}
    (h : a.Registry es) : parseStatusRegistry a.kept = .ok es ∧ a.cut = false := by
  cases a with
  | withdrawn p =>
    obtain rfl : es = [] := h
    exact ⟨rfl, rfl⟩
  | data p =>
    obtain ⟨top, hsequence, htop, hholds, hfew⟩ := h
    have hparse := parse_iff_isSequence.mpr ⟨hsequence, htop⟩
    have hparses : Parses (p.more ++ [p.last]).flatten = true := by
      rw [Parses, hparse]
      rfl
    constructor
    · show parseStatusRegistry (checkpoint (p.more ++ [p.last])) = _
      rw [checkpoint_of_parses hparses]
      exact parseStatusRegistry_of_holds hsequence htop hholds hfew
    · show (!Parses (p.more ++ [p.last]).flatten) = false
      rw [hparses]
      rfl

/-- Octets that are read as a registry hold it. -/
theorem registry_of_read {p : Pages} {es : List RegistryEntry}
    (h : parseStatusRegistry (p.more ++ [p.last]).flatten = .ok es) :
    (StatusAnswer.data p).Registry es := by
  unfold parseStatusRegistry at h
  split at h
  · next hempty =>
    obtain rfl := Except.ok.inj h
    refine ⟨[], ?_, Nat.zero_le _, .nil, fun t ht => absurd ht List.not_mem_nil⟩
    rw [List.isEmpty_iff.mp hempty]
    exact .nil
  · obtain ⟨top, htop, h⟩ := bind_eq_ok.mp h
    obtain ⟨hsequence, hfew⟩ := parse_iff_isSequence.mp htop
    obtain ⟨hholds, hall⟩ :=
      holds_of_decodeEntries ((List.length_filter_le ..).trans hfew) h
    exact ⟨top, hsequence, hfew, hholds, hall⟩

theorem eq_of_bytes {aid aid' : Aid} (h : aid.bytes = aid'.bytes) : aid = aid' := by
  cases aid
  cases aid'
  cases h
  rfl

/-- An entry carries the AID of the ISD. -/
def isOf (isd : Aid) (e : RegistryEntry) : Bool := e.aid == isd.bytes

/-- The entries of the application scope that are not the ISD's. -/
def others (isd : Aid) (es : List RegistryEntry) : List RegistryEntry :=
  es.filter fun e => !isOf isd e

theorem others_filter (aid aid' : Aid) (p : RegistryEntry → Bool) (es : List RegistryEntry) :
    others aid ((others aid' es).filter p) = others aid' ((others aid es).filter p) := by
  unfold others
  rw [List.filter_comm p, List.filter_comm (fun e => !isOf aid e), List.filter_comm p]

/-- Nothing is left out of a list of which as much is shown. -/
theorem forall_of_map_others {aid : Aid} {es : List RegistryEntry} {γ : Type}
    {f : RegistryEntry → γ} (h : (others aid es).map f = es.map f) :
    ∀ e ∈ es, isOf aid e = false := by
  have hlength : (others aid es).length = es.length := by
    rw [← List.length_map, h, List.length_map]
  intro e he
  simpa using List.length_filter_eq_length_iff.mp hlength e he

theorem others_of_forall {aid : Aid} {es : List RegistryEntry}
    (h : ∀ e ∈ es, isOf aid e = false) : others aid es = es :=
  List.filter_eq_self.mpr fun e he => by
    rw [h e he]
    rfl

/-- The entries of a card's three scopes: its ISD is alone in the ISD scope or
    not there, and at most once in the application scope. -/
structure CardRegistries (isd : Aid) (a₁ a₂ a₃ : StatusAnswer)
    (es₁ es₂ es₃ : List RegistryEntry) : Prop where
  isdScope : a₁.Registry es₁
  applications : a₂.Registry es₂
  loadFiles : a₃.Registry es₃
  own : es₁ = [] ∨ ∃ e, es₁ = [e] ∧ isOf isd e = true
  echo : es₂.countP (isOf isd) ≤ 1
  reported : es₁ ≠ [] ∨ ∃ e ∈ es₂, isOf isd e = true
  valid : ∀ e ∈ es₂, AidLength e.aid
  domainsFit : 1 + ((others isd es₂).filter RegistryEntry.isSecurityDomain).length ≤ MAX_SDS
  appletsFit : (es₂.filter fun e => !RegistryEntry.isSecurityDomain e).length ≤ MAX_APPLETS

/-! ### What is shown -/

/-- AID, life cycle and privileges of an entry. -/
abbrev Shown := List UInt8 × UInt8 × Privileges

def RegistryEntry.shown (e : RegistryEntry) : Shown := (e.aid, e.lifeCycle, e.privileges)

def domainShown (e : SecurityDomainEntry) : Shown := (e.aid.bytes, e.lifeCycleState, e.privileges)

def appletShown (e : ApplicationEntry) : Shown := (e.aid.bytes, e.lifeCycleState, e.privileges)

/-- The inventory shows the ISD once, and every other entry of the application
    scope on the list that its Security Domain privilege says. -/
structure IsdShownOnce (isd : Aid) (es₂ : List RegistryEntry) (inv : CardInventory) : Prop where
  once : (inv.securityDomains.filter fun e => e.aid = isd).length = 1
  domains : (inv.securityDomains.filter fun e => e.aid ≠ isd).map domainShown =
    ((others isd es₂).filter RegistryEntry.isSecurityDomain).map RegistryEntry.shown
  applets : (inv.applets.filter fun e => e.aid ≠ isd).map appletShown =
    ((others isd es₂).filter fun e => !RegistryEntry.isSecurityDomain e).map RegistryEntry.shown

/-- The caller's AID is the ISD's and the ISD scope reports it; or it is not,
    nothing in the application scope has it, and either the ISD scope reports
    the ISD or the application scope does, as a Security Domain that still fits. -/
def ReportedOnce (isdAid isd : Aid) (es₁ es₂ : List RegistryEntry) : Prop :=
  (isdAid = isd ∧ es₁ ≠ []) ∨
  (isdAid ≠ isd ∧ (∀ e ∈ es₂, isOf isdAid e = false) ∧
    (es₁ ≠ [] ↔ ¬∃ e ∈ (es₂.filter RegistryEntry.isSecurityDomain).take (MAX_SDS - es₁.length),
      isOf isd e = true))

/-! ### The lists of the inventory -/

/-- What an entry of the application scope adds to the Security Domains. -/
theorem domain_of_application {isdAid : Aid} {e : RegistryEntry} (h : AidLength e.aid) :
    ((applicationItem? isdAid e).bind Item.securityDomain?).map domainShown =
      if RegistryEntry.isSecurityDomain e && !isOf isdAid e then some (RegistryEntry.shown e)
      else none := by
  unfold applicationItem? isOf
  by_cases heq : e.aid = isdAid.bytes
  · rw [if_pos heq, heq]
    simp
  · rw [if_neg heq, ofOctets?_of_valid h, beq_false_of_ne heq]
    cases hsd : RegistryEntry.isSecurityDomain e with
    | false => simp [applicationItem, hsd, Item.securityDomain?]
    | true => simp [applicationItem, hsd, Item.securityDomain?, domainShown, RegistryEntry.shown]

/-- What it adds to the applets. -/
theorem applet_of_application {isdAid : Aid} {e : RegistryEntry} (h : AidLength e.aid) :
    ((applicationItem? isdAid e).bind Item.application?).map appletShown =
      if !RegistryEntry.isSecurityDomain e && !isOf isdAid e then some (RegistryEntry.shown e)
      else none := by
  unfold applicationItem? isOf
  by_cases heq : e.aid = isdAid.bytes
  · rw [if_pos heq, heq]
    simp
  · rw [if_neg heq, ofOctets?_of_valid h, beq_false_of_ne heq]
    cases hsd : RegistryEntry.isSecurityDomain e with
    | false => simp [applicationItem, hsd, Item.application?, appletShown, RegistryEntry.shown]
    | true => simp [applicationItem, hsd, Item.application?]

/-- Entries that become an item of one kind, or none. -/
theorem map_filterMap_items {γ : Type} {item? : RegistryEntry → Option Item}
    {kind? : Item → Option γ} {show? : γ → Shown} {p : RegistryEntry → Bool}
    {es : List RegistryEntry} (h : ∀ e ∈ es, ((item? e).bind kind?).map show? =
      if p e then some (RegistryEntry.shown e) else none) :
    ((es.filterMap item?).filterMap kind?).map show? = (es.filter p).map RegistryEntry.shown := by
  rw [List.filterMap_filterMap, List.map_filterMap, List.filterMap_congr h,
    ← List.filterMap_eq_map, List.filterMap_filter]
  rfl

section lists

variable {isdAid isd : Aid} {a₁ a₂ a₃ : StatusAnswer} {es₁ es₂ es₃ : List RegistryEntry}

/-- The entries of the ISD scope are shown as they are. -/
theorem domains_of_own (h : ∀ e ∈ es₁, isOf isd e = true) :
    ((es₁.map (isdItem isdAid)).filterMap Item.securityDomain?).map domainShown =
      es₁.map RegistryEntry.shown := by
  rw [List.filterMap_map, List.map_filterMap, ← List.filterMap_eq_map]
  refine List.filterMap_congr fun e he => ?_
  have haid : e.aid = isd.bytes := by simpa [isOf] using h e he
  have hisd : Aid.ofOctets? isd.bytes = some isd := ofOctets?_of_valid isd.valid
  simp [isdItem, Item.securityDomain?, hisd, domainShown, RegistryEntry.shown, haid]

/-- The Security Domains of an inventory, as they are shown. -/
theorem securityDomains_shown (hown : ∀ e ∈ es₁, isOf isd e = true)
    (hvalid : ∀ e ∈ es₂, AidLength e.aid) :
    (addItems noInventory (itemsOf isdAid es₁ es₂ es₃)).securityDomains.map domainShown =
      ((es₁ ++ (others isdAid es₂).filter RegistryEntry.isSecurityDomain).take MAX_SDS).map
        RegistryEntry.shown := by
  have hnone : (es₃.filterMap (elfItem? isdAid)).filterMap Item.securityDomain? = [] := by
    rw [List.filterMap_filterMap, List.filterMap_eq_nil_iff]
    intro e _
    unfold elfItem?
    cases Aid.ofOctets? e.aid <;> rfl
  have happlications : ((es₂.filterMap (applicationItem? isdAid)).filterMap
      Item.securityDomain?).map domainShown =
        ((others isdAid es₂).filter RegistryEntry.isSecurityDomain).map RegistryEntry.shown := by
    rw [map_filterMap_items fun e he => domain_of_application (hvalid e he), others,
      List.filter_filter]
  simp only [addItems, itemsOf, List.filterMap_append, hnone, List.append_nil, List.nil_append,
    List.map_take, List.map_append, domains_of_own hown, happlications]

/-- The applets of an inventory, as they are shown. -/
theorem applets_shown (hvalid : ∀ e ∈ es₂, AidLength e.aid)
    (hfit : (es₂.filter fun e => !RegistryEntry.isSecurityDomain e).length ≤ MAX_APPLETS) :
    (addItems noInventory (itemsOf isdAid es₁ es₂ es₃)).applets.map appletShown =
      ((others isdAid es₂).filter fun e => !RegistryEntry.isSecurityDomain e).map
        RegistryEntry.shown := by
  -- neither the ISD nor a Load File is shown as an applet
  have hown : (es₁.map (isdItem isdAid)).filterMap Item.application? = [] := by
    rw [List.filterMap_map, List.filterMap_eq_nil_iff]
    intro e _
    rfl
  have hnone : (es₃.filterMap (elfItem? isdAid)).filterMap Item.application? = [] := by
    rw [List.filterMap_filterMap, List.filterMap_eq_nil_iff]
    intro e _
    unfold elfItem?
    cases Aid.ofOctets? e.aid <;> rfl
  have happlications : ((es₂.filterMap (applicationItem? isdAid)).filterMap
      Item.application?).map appletShown =
        ((others isdAid es₂).filter fun e => !RegistryEntry.isSecurityDomain e).map
          RegistryEntry.shown := by
    rw [map_filterMap_items fun e he => applet_of_application (hvalid e he), others,
      List.filter_filter]
  have hshort : ((others isdAid es₂).filter fun e => !RegistryEntry.isSecurityDomain e).length ≤
      MAX_APPLETS := by
    refine le_trans ?_ hfit
    exact ((List.filter_sublist (p := fun e => !isOf isdAid e)).filter _).length_le
  simp only [addItems, itemsOf, List.filterMap_append, hown, hnone, List.append_nil,
    List.nil_append, List.map_take, happlications]
  exact List.take_of_length_le (by rwa [List.length_map])

/-- Being shown once, over lists of entries that are shown the same. -/
theorem isdShownOnce_iff {inv : CardInventory} {domains applets : List RegistryEntry}
    (hdomains : inv.securityDomains.map domainShown = domains.map RegistryEntry.shown)
    (happlets : inv.applets.map appletShown = applets.map RegistryEntry.shown) :
    IsdShownOnce isd es₂ inv ↔ domains.countP (isOf isd) = 1 ∧
      (others isd domains).map RegistryEntry.shown =
        ((others isd es₂).filter RegistryEntry.isSecurityDomain).map RegistryEntry.shown ∧
      (others isd applets).map RegistryEntry.shown =
        ((others isd es₂).filter fun e => !RegistryEntry.isSecurityDomain e).map
          RegistryEntry.shown := by
  -- the AID is part of what is shown
  let own : Shown → Bool := fun t => t.1 == isd.bytes
  have hentries : ∀ es : List RegistryEntry, (others isd es).map RegistryEntry.shown =
      (es.map RegistryEntry.shown).filter fun t => !own t := by
    intro es
    rw [List.filter_map]
    rfl
  have haid : ∀ aid : Aid, (aid.bytes == isd.bytes) = decide (aid = isd) := by
    intro aid
    rw [Bool.eq_iff_iff, beq_iff_eq, decide_eq_true_eq]
    exact ⟨eq_of_bytes, congrArg Aid.bytes⟩
  have honce : (inv.securityDomains.filter fun e => e.aid = isd).length =
      domains.countP (isOf isd) := by
    have hcount : (domains.map RegistryEntry.shown).countP own = domains.countP (isOf isd) :=
      List.countP_map
    rw [← hcount, ← hdomains, List.countP_map, ← List.countP_eq_length_filter]
    refine List.countP_congr fun e _ => ?_
    rw [← haid]
    rfl
  have hd : (inv.securityDomains.filter fun e => e.aid ≠ isd).map domainShown =
      (others isd domains).map RegistryEntry.shown := by
    rw [hentries, ← hdomains, List.filter_map]
    congr 1
    refine List.filter_congr fun e _ => ?_
    rw [decide_not, ← haid]
    rfl
  have ha : (inv.applets.filter fun e => e.aid ≠ isd).map appletShown =
      (others isd applets).map RegistryEntry.shown := by
    rw [hentries, ← happlets, List.filter_map]
    congr 1
    refine List.filter_congr fun e _ => ?_
    rw [decide_not, ← haid]
    rfl
  rw [← honce, ← hd, ← ha]
  exact ⟨fun h => ⟨h.once, h.domains, h.applets⟩, fun h => ⟨h.1, h.2.1, h.2.2⟩⟩

/-- Being shown once, in terms of the entries. -/
theorem shownOnce_iff (h : CardRegistries isd a₁ a₂ a₃ es₁ es₂ es₃) :
    IsdShownOnce isd es₂ (addItems noInventory (itemsOf isdAid es₁ es₂ es₃)) ↔
      ReportedOnce isdAid isd es₁ es₂ := by
  have hown : ∀ e ∈ es₁, isOf isd e = true := by
    rcases h.own with rfl | ⟨e, rfl, he⟩
    · exact fun e he => absurd he List.not_mem_nil
    · intro e' he'
      rwa [List.mem_singleton.mp he']
  have hfront : es₁.length ≤ 1 := by
    rcases h.own with rfl | ⟨e, rfl, -⟩
    · exact Nat.zero_le _
    · exact le_rfl
  -- the entries that are not dropped for having the caller's AID
  have hkept : (others isdAid es₂).Sublist es₂ := List.filter_sublist
  have hcount : ((others isdAid es₂).filter RegistryEntry.isSecurityDomain).countP (isOf isd) ≤ 1 :=
    ((List.filter_sublist.trans hkept).countP_le).trans h.echo
  have hfit : 1 + (others isd
      ((others isdAid es₂).filter RegistryEntry.isSecurityDomain)).length ≤ MAX_SDS := by
    rw [others_filter]
    exact (Nat.add_le_add_left List.filter_sublist.length_le 1).trans h.domainsFit
  obtain ⟨honce, hothers⟩ := take_shows_one hfront hown hcount hfit
  rw [isdShownOnce_iff (securityDomains_shown hown h.valid)
    (applets_shown h.valid h.appletsFit)]
  by_cases hsame : isdAid = isd
  · -- the caller named the ISD itself: every echo of it is dropped
    subst hsame
    have hnone : ∀ p, ∀ e ∈ (others isdAid es₂).filter p, isOf isdAid e = false := by
      intro p e he
      simpa using (List.mem_filter.mp (List.mem_filter.mp he).1).2
    have hno : ¬∃ e ∈ ((others isdAid es₂).filter RegistryEntry.isSecurityDomain).take
        (MAX_SDS - es₁.length), isOf isdAid e = true := by
      intro ⟨e, he, heq⟩
      rw [hnone _ e (List.mem_of_mem_take he)] at heq
      cases heq
    rw [iff_true_right hno] at honce
    constructor
    · intro hshown
      exact .inl ⟨rfl, honce.mp hshown.1⟩
    · intro hcase
      obtain ⟨-, hne⟩ := hcase.resolve_right fun hdiff => hdiff.1 rfl
      have hcountD := honce.mpr hne
      have hothers := (hothers hcountD).trans (others_of_forall (hnone _))
      refine ⟨hcountD, congrArg (List.map RegistryEntry.shown) hothers, ?_⟩
      rw [others_of_forall (hnone _)]
  · constructor
    · -- with another AID nothing may be dropped, or what is shown would lack it
      intro ⟨hcountD, hdomains, happlets⟩
      rw [show others isd _ = _ from hothers hcountD] at hdomains
      change (others isd _).map _ = _ at hdomains
      rw [others_filter] at hdomains happlets
      have hdomains := forall_of_map_others hdomains
      have happlets := forall_of_map_others happlets
      have hno : ∀ e ∈ es₂, isOf isdAid e = false := by
        intro e he
        cases hisd : isOf isd e with
        | true =>
          have haid : e.aid = isd.bytes := by simpa [isOf] using hisd
          rw [isOf, haid]
          exact beq_false_of_ne fun heq => hsame (eq_of_bytes heq.symm)
        | false =>
          have hother : e ∈ others isd es₂ := List.mem_filter.mpr ⟨he, by rw [hisd]; rfl⟩
          cases hsd : RegistryEntry.isSecurityDomain e with
          | true => exact hdomains e (List.mem_filter.mpr ⟨hother, hsd⟩)
          | false => exact happlets e (List.mem_filter.mpr ⟨hother, by rw [hsd]; rfl⟩)
      have hone := honce.mp hcountD
      rw [others_of_forall hno] at hone
      exact .inr ⟨hsame, hno, hone⟩
    · intro hcase
      obtain ⟨-, hno, hone⟩ := hcase.resolve_left fun hs => hsame hs.1
      have hall : ∀ p, ∀ e ∈ (others isd es₂).filter p, isOf isdAid e = false := by
        intro p e he
        exact hno e (List.mem_filter.mp (List.mem_filter.mp he).1).1
      have hkeeps := others_of_forall hno
      have hcountD := honce.mpr (by rwa [hkeeps])
      refine ⟨hcountD, congrArg (List.map RegistryEntry.shown) ((hothers hcountD).trans ?_), ?_⟩
      · exact (others_filter isd isdAid _ es₂).trans (others_of_forall (hall _))
      · rw [others_filter, others_of_forall (hall _)]

end lists

/-! ### The inventory of a card -/

section

variable {τ β : Type} [Transport τ] [Scp03Backend β] [Scp02Backend β]

/-- The answers of three scopes, by the `P1` that selects each. -/
def statusScopes (a₁ a₂ a₃ : StatusAnswer) : List (UInt8 × List Answer) :=
  [(P1_ISD_SCOPE, a₁.answers), (P1_APP_SD_SCOPE, a₂.answers), (P1_ELF_MODULE_SCOPE, a₃.answers)]

/-- The ISD is shown once, and every other entry as it should be, exactly when
    the ISD is reported once to the code's eyes. -/
theorem isd_shown_once_iff {session : ScpSession} (isdAid : Aid) {isd : Aid}
    {a₁ a₂ a₃ : StatusAnswer} {es₁ es₂ es₃ : List RegistryEntry}
    (h : CardRegistries isd a₁ a₂ a₃ es₁ es₂ es₃) {w : World τ β}
    (hanswers : Answers session (statusScopes a₁ a₂ a₃) w) :
    (∃ report, (getCardInventory session isdAid.bytes w).1 = .ok report ∧
        IsdShownOnce isd es₂ report.inventory) ↔
      ReportedOnce isdAid isd es₁ es₂ := by
  obtain ⟨w₁, hread₁, hanswers⟩ := readStatusScope_of_status hanswers
  obtain ⟨w₂, hread₂, hanswers⟩ := readStatusScope_of_status hanswers
  obtain ⟨w₃, hread₃, -⟩ := readStatusScope_of_status hanswers
  rw [getCardInventory_of_reads (Aid.new_of_valid isdAid.valid) hread₁ hread₂ hread₃]
  unfold inventoryOf
  rw [h.isdScope.read.1, h.applications.read.1, h.loadFiles.read.1]
  rw [← shownOnce_iff h]
  constructor
  · intro ⟨report, hreport, hshown⟩
    obtain rfl := Except.ok.inj hreport
    exact hshown
  · intro hshown
    exact ⟨_, rfl, hshown⟩

end

/-! ### A partial AID -/

/-- An ISD with a longer AID than the one that selects it. -/
def longIsd : Aid := ⟨[0xA0, 0x00, 0x00, 0x01, 0x51, 0x00, 0x00, 0x00], ⟨by decide, by decide⟩⟩

/-- The registry of such an ISD: its AID, and the Security Domain privilege. -/
def longIsdEntry : List UInt8 :=
  [0xE3, 0x0D, 0x4F, 0x08, 0xA0, 0x00, 0x00, 0x01, 0x51, 0x00, 0x00, 0x00, 0xC5, 0x01, 0x80]

def longIsdRegistry : RegistryEntry := ⟨longIsd.bytes, 0, ⟨0x80, 0, 0⟩, none, none, []⟩

def noneFound : StatusAnswer := .withdrawn ⟨[], [], few_nil⟩

/-- The scopes of a card that has the ISD alone, in both scopes, and no Load Files. -/
def echoScopes : List (UInt8 × List Answer) :=
  statusScopes (onePageStatus longIsdEntry) (onePageStatus longIsdEntry) noneFound

def echoCard : World Lister StubBackend := listing echoScopes

theorem answers_echoCard : Answers stubSession echoScopes echoCard :=
  answers_listing stubSession (by decide) (by decide)

theorem registry_longIsdEntry : (onePageStatus longIsdEntry).Registry [longIsdRegistry] :=
  registry_of_read rfl

theorem cardRegistries_echoCard : CardRegistries longIsd (onePageStatus longIsdEntry)
    (onePageStatus longIsdEntry) noneFound [longIsdRegistry] [longIsdRegistry] [] where
  isdScope := registry_longIsdEntry
  applications := registry_longIsdEntry
  loadFiles := rfl
  own := .inr ⟨longIsdRegistry, rfl, by decide⟩
  echo := by decide
  reported := .inl (by decide)
  valid := by decide
  domainsFit := by decide
  appletsFit := by decide

theorem isd_shown_once_iff_echo :
    (∃ report, (getCardInventory stubSession longIsd.bytes echoCard).1 = .ok report ∧
        IsdShownOnce longIsd [longIsdRegistry] report.inventory) ↔
      ReportedOnce longIsd longIsd [longIsdRegistry] [longIsdRegistry] :=
  isd_shown_once_iff longIsd cardRegistries_echoCard answers_echoCard

/-- A partial AID shows the ISD twice. -/
theorem isd_shown_twice_for_partial_aid :
    ¬∀ (isdAid isd : Aid) (a₁ a₂ a₃ : StatusAnswer) (es₁ es₂ es₃ : List RegistryEntry)
      (w : World Lister StubBackend), isdAid.bytes <+: isd.bytes →
      CardRegistries isd a₁ a₂ a₃ es₁ es₂ es₃ →
      Answers stubSession (statusScopes a₁ a₂ a₃) w →
      ∃ report, (getCardInventory stubSession isdAid.bytes w).1 = .ok report ∧
        IsdShownOnce isd es₂ report.inventory := by
  intro hlaw
  obtain ⟨report, hreport, hshown⟩ := hlaw sampleIsd longIsd _ _ _ _ _ _ _ (by decide)
    cardRegistries_echoCard answers_echoCard
  have htwice : ((getCardInventory stubSession sampleIsd.bytes echoCard).1.toOption.map fun r =>
      (r.inventory.securityDomains.filter fun e => e.aid = longIsd).length) = some 2 := by
    decide +kernel
  rw [hreport] at htwice
  have htwo : (report.inventory.securityDomains.filter fun e => e.aid = longIsd).length = 2 :=
    Option.some.inj htwice
  rw [hshown.once] at htwo
  cases htwo

end Workflow

end Scll

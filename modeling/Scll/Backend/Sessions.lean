import Scll.Framework.Run
import Scll.Backend.Scp03Spec
import Scll.Backend.Scp02Spec

/-! # The session tables as a machine

    The operations a caller has on sessions of either protocol, as the steps of
    one machine over the backend state, and what each can do to a slot. A handle
    reaches its slot by number alone, so what a handle means changes when its
    slot is freed and derived into again.
-/

namespace Scll

open BlockMode

variable (P : Primitives) {ρ : Type}

/-! ### Derivation -/

/-- A derivation fails and changes nothing, or fills the first free slot. -/
theorem scp03DeriveSession_cases (st : BackendState ρ) (staticEnc staticMac : KeyHandle)
    (mode : ScpMode) (hostChallenge cardChallenge : List UInt8) :
    (∃ e, scp03DeriveSession P staticEnc staticMac mode hostChallenge cardChallenge st =
      (.error e, st)) ∨
    (∃ sEnc sMac sRmac idx,
      scp03SessionKeys P st staticEnc staticMac mode hostChallenge cardChallenge =
        .ok (sEnc, sMac, sRmac) ∧
      st.sessions.firstFree = some idx ∧
      scp03DeriveSession P staticEnc staticMac mode hostChallenge cardChallenge st =
        (.ok ⟨UInt16.ofNat idx⟩,
          { st with
            sessions := st.sessions.set idx (some (.fresh sEnc sMac sRmac mode)) })) := by
  unfold scp03DeriveSession
  split
  · exact .inl ⟨_, rfl⟩
  · next sEnc sMac sRmac hkeys =>
    split
    · exact .inl ⟨_, rfl⟩
    · next idx hfree => exact .inr ⟨sEnc, sMac, sRmac, idx, hkeys, hfree, rfl⟩

/-- With the keys and a free slot, a derivation succeeds. -/
theorem scp03DeriveSession_of_free {st : BackendState ρ} {staticEnc staticMac : KeyHandle}
    {mode : ScpMode} {hostChallenge cardChallenge : List UInt8} {sEnc sMac sRmac : AesKey}
    {i : Fin MAX_SESSION_SLOTS}
    (hkeys : scp03SessionKeys P st staticEnc staticMac mode hostChallenge cardChallenge =
      .ok (sEnc, sMac, sRmac))
    (hfree : st.sessions.get i = none) :
    ∃ s st', scp03DeriveSession P staticEnc staticMac mode hostChallenge cardChallenge st =
      (.ok s, st') := by
  cases hfirst : st.sessions.firstFree with
  | none =>
    obtain ⟨slot, hslot⟩ := SlotTable.firstFree_eq_none hfirst i
    rw [hfree] at hslot
    cases hslot
  | some idx =>
    have hrun : scp03DeriveSession P staticEnc staticMac mode hostChallenge cardChallenge st =
        (.ok ⟨UInt16.ofNat idx⟩,
          { st with
            sessions := st.sessions.set idx (some (.fresh sEnc sMac sRmac mode)) }) := by
      unfold scp03DeriveSession
      simp only [hkeys, hfirst]
    exact ⟨_, _, hrun⟩

/-- A derivation fails and changes nothing, or fills the first free slot. -/
theorem scp02DeriveSession_cases (st : BackendState ρ) (baseEnc baseMac baseDek : KeyHandle)
    (seqCounter : Block 2) :
    (∃ e, scp02DeriveSession P baseEnc baseMac baseDek seqCounter st = (.error e, st)) ∨
    (∃ sEnc sMac sRmac sDek idx,
      scp02SessionKeys P st baseEnc baseMac baseDek seqCounter = .ok (sEnc, sMac, sRmac, sDek) ∧
      st.scp02Sessions.firstFree = some idx ∧
      scp02DeriveSession P baseEnc baseMac baseDek seqCounter st =
        (.ok ⟨UInt16.ofNat idx⟩,
          { st with
            scp02Sessions := st.scp02Sessions.set idx
              (some (Scp02.fresh sEnc sMac sRmac sDek)) })) := by
  unfold scp02DeriveSession
  split
  · exact .inl ⟨_, rfl⟩
  · next sEnc sMac sRmac sDek hkeys =>
    split
    · exact .inl ⟨_, rfl⟩
    · next idx hfree => exact .inr ⟨sEnc, sMac, sRmac, sDek, idx, hkeys, hfree, rfl⟩

/-- With the keys and a free slot, a derivation succeeds. -/
theorem scp02DeriveSession_of_free {st : BackendState ρ} {baseEnc baseMac baseDek : KeyHandle}
    {seqCounter : Block 2} {sEnc sMac sRmac sDek : TdesKey} {i : Fin MAX_SESSION_SLOTS}
    (hkeys : scp02SessionKeys P st baseEnc baseMac baseDek seqCounter =
      .ok (sEnc, sMac, sRmac, sDek))
    (hfree : st.scp02Sessions.get i = none) :
    ∃ s st', scp02DeriveSession P baseEnc baseMac baseDek seqCounter st = (.ok s, st') := by
  cases hfirst : st.scp02Sessions.firstFree with
  | none =>
    obtain ⟨slot, hslot⟩ := SlotTable.firstFree_eq_none hfirst i
    rw [hfree] at hslot
    cases hslot
  | some idx =>
    have hrun : scp02DeriveSession P baseEnc baseMac baseDek seqCounter st =
        (.ok ⟨UInt16.ofNat idx⟩,
          { st with
            scp02Sessions := st.scp02Sessions.set idx
              (some (Scp02.fresh sEnc sMac sRmac sDek)) }) := by
      unfold scp02DeriveSession
      simp only [hkeys, hfirst]
    exact ⟨_, _, hrun⟩

/-! ### The machine -/

/-- A session handle of either protocol. -/
inductive SessionHandle where
  | scp03 (s : Scp03Session)
  | scp02 (s : Scp02Session)
  deriving DecidableEq, Repr

/-- The keys of a session. -/
inductive SessionKeys where
  | scp03 (sEnc sMac sRmac : AesKey)
  | scp02 (sEnc sMac sRmac sDek : TdesKey)

/-- The calls a backend takes on its session tables. -/
inductive SessionOp where
  | derive03 (staticEnc staticMac : KeyHandle) (mode : ScpMode)
      (hostChallenge cardChallenge : List UInt8)
  | derive02 (baseEnc baseMac baseDek : KeyHandle) (seqCounter : Block 2)
  | wrap (h : SessionHandle) (capdu : List UInt8)
  | unwrap (h : SessionHandle) (rapdu : List UInt8)
  | close (h : SessionHandle)

/-- What a call returned. -/
inductive SessionResult where
  | opened (h : SessionHandle)
  | octets (out : List UInt8)
  | closed
  | failed (e : BackendError)
  deriving DecidableEq, Repr

def SessionResult.isOctets : SessionResult → Bool
  | .octets _ => true
  | _ => false

theorem SessionResult.exists_octets {r : SessionResult} (h : r.isOctets = true) :
    ∃ out, r = .octets out := by
  cases r with
  | octets out => exact ⟨out, rfl⟩
  | _ => cases h

def SessionResult.ofExcept {α : Type} (f : α → SessionResult) :
    Except BackendError α → SessionResult
  | .ok a => f a
  | .error e => .failed e

/-- One call. -/
def sessionStep : SessionOp → BackendState ρ → SessionResult × BackendState ρ
  | .derive03 enc mac mode hostCh cardCh, st =>
      let (r, st) := scp03DeriveSession P enc mac mode hostCh cardCh st
      (.ofExcept (fun s => .opened (.scp03 s)) r, st)
  | .derive02 enc mac dek seq, st =>
      let (r, st) := scp02DeriveSession P enc mac dek seq st
      (.ofExcept (fun s => .opened (.scp02 s)) r, st)
  | .wrap (.scp03 s) capdu, st =>
      let (r, st) := scp03WrapCommand P s capdu st
      (.ofExcept .octets r, st)
  | .wrap (.scp02 s) capdu, st =>
      let (r, st) := scp02WrapCommand P s capdu st
      (.ofExcept .octets r, st)
  | .unwrap (.scp03 s) rapdu, st =>
      let (r, st) := scp03UnwrapResponse P s rapdu st
      (.ofExcept .octets r, st)
  | .unwrap (.scp02 s) rapdu, st =>
      let (r, st) := scp02UnwrapResponse P s rapdu st
      (.ofExcept .octets r, st)
  | .close (.scp03 s), st => (.closed, (scp03CloseSession (ε := BackendError) s st).2)
  | .close (.scp02 s), st => (.closed, (scp02CloseSession (ε := BackendError) s st).2)

/-! ### What a handle means -/

/-- The keys in a slot. -/
def Scp03SessionSlot.keys (slot : Scp03SessionSlot) : SessionKeys :=
  .scp03 slot.sEnc slot.sMac slot.sRmac

def Scp02SessionSlot.keys (slot : Scp02SessionSlot) : SessionKeys :=
  .scp02 slot.sEnc slot.sMac slot.sRmac slot.sDek

/-- The keys a handle reaches; none when its slot is empty. -/
def keysAt (st : BackendState ρ) : SessionHandle → Option SessionKeys
  | .scp03 s => (st.sessions.get s.index.toNat).map Scp03SessionSlot.keys
  | .scp02 s => (st.scp02Sessions.get s.index.toNat).map Scp02SessionSlot.keys

/-- Handles with different numbers are different handles. -/
theorem Scp03Session.index_ne {s s' : Scp03Session} (h : s ≠ s') :
    s.index.toNat ≠ s'.index.toNat := by
  intro hindex
  obtain ⟨i⟩ := s
  obtain ⟨j⟩ := s'
  have hij : i = j := UInt16.toNat_inj.mp hindex
  exact h (by rw [hij])

theorem Scp02Session.index_ne {s s' : Scp02Session} (h : s ≠ s') :
    s.index.toNat ≠ s'.index.toNat := by
  intro hindex
  obtain ⟨i⟩ := s
  obtain ⟨j⟩ := s'
  have hij : i = j := UInt16.toNat_inj.mp hindex
  exact h (by rw [hij])

/-- A slot number survives the trip through a handle. -/
theorem slotIndex_toNat (idx : Fin MAX_SESSION_SLOTS) : (UInt16.ofNat idx).toNat = idx := by
  have := idx.isLt
  have hmax : MAX_SESSION_SLOTS = 16 := rfl
  rw [UInt16.toNat_ofNat']
  omega

/-- Writing an SCP03 slot, as every handle sees it. -/
theorem keysAt_set03 (st : BackendState ρ) (s : Scp03Session) (v : Option Scp03SessionSlot)
    (hlt : s.index.toNat < MAX_SESSION_SLOTS ∨ v = none) (h : SessionHandle) :
    keysAt { st with sessions := st.sessions.set s.index.toNat v } h =
      if h = .scp03 s then v.map Scp03SessionSlot.keys else keysAt st h := by
  cases h with
  | scp02 s' => rw [if_neg (by simp)]; rfl
  | scp03 s' =>
    by_cases heq : s' = s
    · subst heq
      rw [if_pos rfl]
      rcases hlt with hlt | rfl
      · simp only [keysAt, SlotTable.get_set_self hlt]
      · simp only [keysAt, SlotTable.get_set_none]
    · rw [if_neg (by simpa using heq)]
      simp only [keysAt, SlotTable.get_set_of_ne _ (Scp03Session.index_ne heq)]

/-- Writing an SCP02 slot, as every handle sees it. -/
theorem keysAt_set02 (st : BackendState ρ) (s : Scp02Session) (v : Option Scp02SessionSlot)
    (hlt : s.index.toNat < MAX_SESSION_SLOTS ∨ v = none) (h : SessionHandle) :
    keysAt { st with scp02Sessions := st.scp02Sessions.set s.index.toNat v } h =
      if h = .scp02 s then v.map Scp02SessionSlot.keys else keysAt st h := by
  cases h with
  | scp03 s' => rw [if_neg (by simp)]; rfl
  | scp02 s' =>
    by_cases heq : s' = s
    · subst heq
      rw [if_pos rfl]
      rcases hlt with hlt | rfl
      · simp only [keysAt, SlotTable.get_set_self hlt]
      · simp only [keysAt, SlotTable.get_set_none]
    · rw [if_neg (by simpa using heq)]
      simp only [keysAt, SlotTable.get_set_of_ne _ (Scp02Session.index_ne heq)]

/-- A derived session holds the derived keys, and its backend nothing else new. -/
theorem scp03DeriveSession_slot {staticEnc staticMac : KeyHandle} {mode : ScpMode}
    {hostChallenge cardChallenge : List UInt8} {st st' : BackendState ρ} {s : Scp03Session}
    (h : scp03DeriveSession P staticEnc staticMac mode hostChallenge cardChallenge st =
      (.ok s, st')) :
    st'.keys = st.keys ∧ ∃ sEnc sMac sRmac,
      scp03SessionKeys P st staticEnc staticMac mode hostChallenge cardChallenge =
        .ok (sEnc, sMac, sRmac) ∧
      st'.sessions.get s.index.toNat = some (.fresh sEnc sMac sRmac mode) := by
  rcases scp03DeriveSession_cases P st staticEnc staticMac mode hostChallenge cardChallenge with
    ⟨e, he⟩ | ⟨sEnc, sMac, sRmac, idx, hkeys, -, hok⟩
  · rw [h] at he
    cases he
  · rw [h] at hok
    obtain ⟨hs, rfl⟩ := Prod.mk.inj hok
    obtain rfl := Except.ok.inj hs
    refine ⟨rfl, sEnc, sMac, sRmac, hkeys, ?_⟩
    simp only [slotIndex_toNat]
    exact SlotTable.get_set_self idx.isLt _

theorem scp02DeriveSession_slot {baseEnc baseMac baseDek : KeyHandle} {seq : Block 2}
    {st st' : BackendState ρ} {s : Scp02Session}
    (h : scp02DeriveSession P baseEnc baseMac baseDek seq st = (.ok s, st')) :
    st'.keys = st.keys ∧ ∃ sEnc sMac sRmac sDek,
      scp02SessionKeys P st baseEnc baseMac baseDek seq = .ok (sEnc, sMac, sRmac, sDek) ∧
      st'.scp02Sessions.get s.index.toNat = some (Scp02.fresh sEnc sMac sRmac sDek) := by
  rcases scp02DeriveSession_cases P st baseEnc baseMac baseDek seq with
    ⟨e, he⟩ | ⟨sEnc, sMac, sRmac, sDek, idx, hkeys, -, hok⟩
  · rw [h] at he
    cases he
  · rw [h] at hok
    obtain ⟨hs, rfl⟩ := Prod.mk.inj hok
    obtain rfl := Except.ok.inj hs
    refine ⟨rfl, sEnc, sMac, sRmac, sDek, hkeys, ?_⟩
    simp only [slotIndex_toNat]
    exact SlotTable.get_set_self idx.isLt _

/-- A wrap that succeeds, on the slot it used and the one it left. -/
theorem scp03WrapCommand_ok {s : Scp03Session} {capdu out : List UInt8} {st st' : BackendState ρ}
    (h : scp03WrapCommand P s capdu st = (.ok out, st')) :
    ∃ cla ins p1 p2 rest slot slot', capdu = cla :: ins :: p1 :: p2 :: rest ∧
      st.sessions.get s.index.toNat = some slot ∧
      wrapSlot P slot cla ins p1 p2 rest = .ok (out, slot') ∧
      st'.sessions.get s.index.toNat = some slot' := by
  rcases scp03WrapCommand_cases P s capdu st with
    ⟨e, he⟩ | ⟨cla, ins, p1, p2, rest, slot, out', slot', hcapdu, hslot, hwrap, hok⟩
  · rw [h] at he
    cases he
  · rw [h] at hok
    obtain ⟨hout, rfl⟩ := Prod.mk.inj hok
    obtain rfl := Except.ok.inj hout
    exact ⟨cla, ins, p1, p2, rest, slot, slot', hcapdu, hslot, hwrap,
      SlotTable.get_set_self (SlotTable.lt_of_get hslot) _⟩

/-! ### What a call does to a handle -/

/-- The keys a derivation computes from the key table. -/
def derivedKeys (st : BackendState ρ) : SessionOp → Except BackendError SessionKeys
  | .derive03 enc mac mode hostCh cardCh => do
      let (sEnc, sMac, sRmac) ← scp03SessionKeys P st enc mac mode hostCh cardCh
      .ok (.scp03 sEnc sMac sRmac)
  | .derive02 enc mac dek seq => do
      let (sEnc, sMac, sRmac, sDek) ← scp02SessionKeys P st enc mac dek seq
      .ok (.scp02 sEnc sMac sRmac sDek)
  | _ => .error (cryptoErr "not a derivation")

/-- The call goes through the handle `h`. -/
def SessionOp.Through (op : SessionOp) (h : SessionHandle) : Prop :=
  (∃ capdu, op = .wrap h capdu) ∨ ∃ rapdu, op = .unwrap h rapdu

/-- A call goes through one handle. -/
theorem SessionOp.Through.unique {op : SessionOp} {h h' : SessionHandle} (hop : op.Through h)
    (hop' : op.Through h') : h' = h := by
  rcases hop with ⟨_, rfl⟩ | ⟨_, rfl⟩
  · rcases hop' with ⟨_, heq⟩ | ⟨_, heq⟩
    · exact (SessionOp.wrap.inj heq).1.symm
    · cases heq
  · rcases hop' with ⟨_, heq⟩ | ⟨_, heq⟩
    · cases heq
    · exact (SessionOp.unwrap.inj heq).1.symm

/-- The one failed unwrap that leaves its session alive: SCP02 without R-MAC
    refuses a response that is longer than any card sends. -/
def RefusedAt (st : BackendState ρ) (rapdu : List UInt8) : SessionHandle → Prop
  | .scp03 _ => False
  | .scp02 s => ∃ slot, st.scp02Sessions.get s.index.toNat = some slot ∧ Scp02.Refuses slot rapdu

/-- The call closes the session of `h`, or tears it down by a failed unwrap. -/
def Ends (st : BackendState ρ) (op : SessionOp) (result : SessionResult) (h : SessionHandle) :
    Prop :=
  op = .close h ∨
    ∃ rapdu e, op = .unwrap h rapdu ∧ result = .failed e ∧ ¬RefusedAt st rapdu h

/-- `out` is computed from the slot behind the handle in the state `st`, and the
    keys in that slot are `k`. -/
def UsesKeys (st : BackendState ρ) (k : SessionKeys) : SessionOp → List UInt8 → Prop
  | .wrap (.scp03 s) capdu, out =>
      ∃ slot slot' cla ins p1 p2 rest, st.sessions.get s.index.toNat = some slot ∧
        slot.keys = k ∧ capdu = cla :: ins :: p1 :: p2 :: rest ∧
        wrapSlot P slot cla ins p1 p2 rest = .ok (out, slot')
  | .wrap (.scp02 s) capdu, out =>
      ∃ slot slot' cla ins p1 p2 rest, st.scp02Sessions.get s.index.toNat = some slot ∧
        slot.keys = k ∧ capdu = cla :: ins :: p1 :: p2 :: rest ∧
        Scp02.wrapSlot P slot cla ins p1 p2 rest = .ok (out, slot')
  | .unwrap (.scp03 s) rapdu, out =>
      ∃ slot, st.sessions.get s.index.toNat = some slot ∧ slot.keys = k ∧
        unwrapSlot P slot rapdu = .ok out
  | .unwrap (.scp02 s) rapdu, out =>
      ∃ slot ricv, st.scp02Sessions.get s.index.toNat = some slot ∧ slot.keys = k ∧
        Scp02.unwrapSlot P slot rapdu = .deliver out ricv
  | _, _ => False

/-- Everything a call can do to the keys behind a handle `g`, by the kind of call. -/
inductive StepEffect (st st' : BackendState ρ) (op : SessionOp) : SessionResult → Prop where
  /-- A failed call that touches no slot. -/
  | refused (e : BackendError) (same : st' = st)
      (live : ∀ h rapdu, op = .unwrap h rapdu → keysAt st h = none ∨ RefusedAt st rapdu h) :
      StepEffect st st' op (.failed e)
  /-- A derivation into a slot that was empty. -/
  | opened (h : SessionHandle) (k : SessionKeys) (derived : derivedKeys P st op = .ok k)
      (empty : keysAt st h = none)
      (keys : ∀ g, keysAt st' g = if g = h then some k else keysAt st g) :
      StepEffect st st' op (.opened h)
  /-- A wrap or unwrap that succeeds through the keys of its handle. -/
  | used (h : SessionHandle) (k : SessionKeys) (out : List UInt8) (through : op.Through h)
      (live : keysAt st h = some k) (uses : UsesKeys P st k op out)
      (keys : ∀ g, keysAt st' g = keysAt st g) : StepEffect st st' op (.octets out)
  /-- A failed unwrap that frees its slot. -/
  | tornDown (h : SessionHandle) (rapdu : List UInt8) (e : BackendError)
      (unwrap : op = .unwrap h rapdu) (refused : ¬RefusedAt st rapdu h)
      (keys : ∀ g, keysAt st' g = if g = h then none else keysAt st g) :
      StepEffect st st' op (.failed e)
  | closed (h : SessionHandle) (close : op = .close h)
      (keys : ∀ g, keysAt st' g = if g = h then none else keysAt st g) :
      StepEffect st st' op .closed

/-! ### The effect of each call -/

theorem derive03_effect (st : BackendState ρ) (enc mac : KeyHandle) (mode : ScpMode)
    (hostCh cardCh : List UInt8) :
    StepEffect P st (sessionStep P (.derive03 enc mac mode hostCh cardCh) st).2
      (.derive03 enc mac mode hostCh cardCh)
      (sessionStep P (.derive03 enc mac mode hostCh cardCh) st).1 := by
  rcases scp03DeriveSession_cases P st enc mac mode hostCh cardCh with
    ⟨e, he⟩ | ⟨sEnc, sMac, sRmac, idx, hkeys, hfree, hok⟩
  · simp only [sessionStep, he, SessionResult.ofExcept]
    exact .refused e rfl (fun h rapdu hop => by cases hop)
  · simp only [sessionStep, hok, SessionResult.ofExcept]
    have hidx := slotIndex_toNat idx
    refine .opened _ (.scp03 sEnc sMac sRmac) ?_ ?_ ?_
    · simp only [derivedKeys, hkeys, ok_bind]
    · simp only [keysAt, hidx, SlotTable.firstFree_get hfree, Option.map_none]
    · intro g
      have := keysAt_set03 st ⟨UInt16.ofNat idx⟩ (some (.fresh sEnc sMac sRmac mode))
        (.inl (by rw [hidx]; exact idx.isLt)) g
      rwa [hidx] at this

theorem derive02_effect (st : BackendState ρ) (enc mac dek : KeyHandle) (seq : Block 2) :
    StepEffect P st (sessionStep P (.derive02 enc mac dek seq) st).2 (.derive02 enc mac dek seq)
      (sessionStep P (.derive02 enc mac dek seq) st).1 := by
  rcases scp02DeriveSession_cases P st enc mac dek seq with
    ⟨e, he⟩ | ⟨sEnc, sMac, sRmac, sDek, idx, hkeys, hfree, hok⟩
  · simp only [sessionStep, he, SessionResult.ofExcept]
    exact .refused e rfl (fun h rapdu hop => by cases hop)
  · simp only [sessionStep, hok, SessionResult.ofExcept]
    have hidx := slotIndex_toNat idx
    refine .opened _ (.scp02 sEnc sMac sRmac sDek) ?_ ?_ ?_
    · simp only [derivedKeys, hkeys, ok_bind]
    · simp only [keysAt, hidx, SlotTable.firstFree_get hfree, Option.map_none]
    · intro g
      have := keysAt_set02 st ⟨UInt16.ofNat idx⟩ (some (Scp02.fresh sEnc sMac sRmac sDek))
        (.inl (by rw [hidx]; exact idx.isLt)) g
      rwa [hidx] at this

/-- Rewriting a slot with the keys it had changes no handle's keys. -/
theorem keysAt_rewrite03 {st : BackendState ρ} {s : Scp03Session} {slot slot' : Scp03SessionSlot}
    (hslot : st.sessions.get s.index.toNat = some slot) (hkeys : slot'.keys = slot.keys)
    (g : SessionHandle) :
    keysAt { st with sessions := st.sessions.set s.index.toNat (some slot') } g = keysAt st g := by
  rw [keysAt_set03 st s _ (.inl (SlotTable.lt_of_get hslot))]
  split
  · next hg => rw [hg, keysAt, hslot, Option.map_some, Option.map_some, hkeys]
  · rfl

theorem keysAt_rewrite02 {st : BackendState ρ} {s : Scp02Session} {slot slot' : Scp02SessionSlot}
    (hslot : st.scp02Sessions.get s.index.toNat = some slot) (hkeys : slot'.keys = slot.keys)
    (g : SessionHandle) :
    keysAt { st with scp02Sessions := st.scp02Sessions.set s.index.toNat (some slot') } g =
      keysAt st g := by
  rw [keysAt_set02 st s _ (.inl (SlotTable.lt_of_get hslot))]
  split
  · next hg => rw [hg, keysAt, hslot, Option.map_some, Option.map_some, hkeys]
  · rfl

theorem wrap03_effect (st : BackendState ρ) (s : Scp03Session) (capdu : List UInt8) :
    StepEffect P st (sessionStep P (.wrap (.scp03 s) capdu) st).2 (.wrap (.scp03 s) capdu)
      (sessionStep P (.wrap (.scp03 s) capdu) st).1 := by
  rcases scp03WrapCommand_cases P s capdu st with
    ⟨e, he⟩ | ⟨cla, ins, p1, p2, rest, slot, out, slot', hcapdu, hslot, hwrap, hok⟩
  · simp only [sessionStep, he, SessionResult.ofExcept]
    exact .refused e rfl (fun h rapdu hop => by cases hop)
  · simp only [sessionStep, hok, SessionResult.ofExcept]
    have hkeys : slot'.keys = slot.keys := by
      obtain ⟨_, _, _, _, _, _, -, -, -, -, -, hslot'⟩ := wrapSlot_ok P hwrap
      rw [hslot']
      rfl
    exact .used (.scp03 s) slot.keys out (.inl ⟨capdu, rfl⟩) (by rw [keysAt, hslot]; rfl)
      ⟨slot, _, cla, ins, p1, p2, rest, hslot, rfl, hcapdu, hwrap⟩ (keysAt_rewrite03 hslot hkeys)

theorem wrap02_effect (st : BackendState ρ) (s : Scp02Session) (capdu : List UInt8) :
    StepEffect P st (sessionStep P (.wrap (.scp02 s) capdu) st).2 (.wrap (.scp02 s) capdu)
      (sessionStep P (.wrap (.scp02 s) capdu) st).1 := by
  rcases scp02WrapCommand_cases P s capdu st with
    ⟨e, he⟩ | ⟨cla, ins, p1, p2, rest, slot, out, slot', hcapdu, hslot, hwrap, hok⟩
  · simp only [sessionStep, he, SessionResult.ofExcept]
    exact .refused e rfl (fun h rapdu hop => by cases hop)
  · simp only [sessionStep, hok, SessionResult.ofExcept]
    have hkeys : slot'.keys = slot.keys := by
      obtain ⟨_, _, _, -, -, -, -, -, hslot'⟩ := Scp02.wrapSlot_ok P hwrap
      rw [hslot']
      rfl
    exact .used (.scp02 s) slot.keys out (.inl ⟨capdu, rfl⟩) (by rw [keysAt, hslot]; rfl)
      ⟨slot, _, cla, ins, p1, p2, rest, hslot, rfl, hcapdu, hwrap⟩ (keysAt_rewrite02 hslot hkeys)

theorem unwrap03_effect (st : BackendState ρ) (s : Scp03Session) (rapdu : List UInt8) :
    StepEffect P st (sessionStep P (.unwrap (.scp03 s) rapdu) st).2 (.unwrap (.scp03 s) rapdu)
      (sessionStep P (.unwrap (.scp03 s) rapdu) st).1 := by
  rcases scp03UnwrapResponse_cases P s rapdu st with
    ⟨hnone, e, he⟩ | ⟨slot, e, hslot, -, he⟩ | ⟨slot, out, hslot, hout, hok⟩
  · simp only [sessionStep, he, SessionResult.ofExcept]
    refine .refused e rfl (fun h rapdu' hop => .inl ?_)
    obtain ⟨rfl, rfl⟩ := SessionOp.unwrap.inj hop
    rw [keysAt, hnone, Option.map_none]
  · simp only [sessionStep, he, SessionResult.ofExcept]
    exact .tornDown (.scp03 s) rapdu e rfl id (keysAt_set03 st s none (.inr rfl))
  · simp only [sessionStep, hok, SessionResult.ofExcept]
    exact .used (.scp03 s) slot.keys out (.inr ⟨rapdu, rfl⟩) (by rw [keysAt, hslot]; rfl)
      ⟨slot, hslot, rfl, hout⟩ (fun _ => rfl)

theorem unwrap02_effect (st : BackendState ρ) (s : Scp02Session) (rapdu : List UInt8) :
    StepEffect P st (sessionStep P (.unwrap (.scp02 s) rapdu) st).2 (.unwrap (.scp02 s) rapdu)
      (sessionStep P (.unwrap (.scp02 s) rapdu) st).1 := by
  rcases scp02UnwrapResponse_cases P s rapdu st with
    ⟨hnone, e, he⟩ | ⟨slot, out, ricv, hslot, hdeliver, hok⟩ | ⟨slot, e, hslot, hdown, he⟩ |
      ⟨slot, e, hslot, hrefuse, he⟩
  · simp only [sessionStep, he, SessionResult.ofExcept]
    refine .refused e rfl (fun h rapdu' hop => .inl ?_)
    obtain ⟨rfl, rfl⟩ := SessionOp.unwrap.inj hop
    rw [keysAt, hnone, Option.map_none]
  · simp only [sessionStep, hok, SessionResult.ofExcept]
    exact .used (.scp02 s) slot.keys out (.inr ⟨rapdu, rfl⟩) (by rw [keysAt, hslot]; rfl)
      ⟨slot, ricv, hslot, rfl, hdeliver⟩ (keysAt_rewrite02 hslot rfl)
  · simp only [sessionStep, he, SessionResult.ofExcept]
    refine .tornDown (.scp02 s) rapdu e rfl ?_ (keysAt_set02 st s none (.inr rfl))
    intro ⟨slot', hslot', hrefuses⟩
    obtain rfl := Option.some.inj (hslot.symm.trans hslot')
    obtain ⟨e', he'⟩ := (Scp02.unwrapSlot_refuse_iff P).mpr hrefuses
    rw [hdown] at he'
    cases he'
  · simp only [sessionStep, he, SessionResult.ofExcept]
    refine .refused e rfl (fun h rapdu' hop => .inr ?_)
    obtain ⟨rfl, rfl⟩ := SessionOp.unwrap.inj hop
    exact ⟨slot, hslot, (Scp02.unwrapSlot_refuse_iff P).mp ⟨e, hrefuse⟩⟩

theorem close_effect (st : BackendState ρ) (h : SessionHandle) :
    StepEffect P st (sessionStep P (.close h) st).2 (.close h)
      (sessionStep P (.close h) st).1 := by
  cases h with
  | scp03 s => exact .closed (.scp03 s) rfl (keysAt_set03 st s none (.inr rfl))
  | scp02 s => exact .closed (.scp02 s) rfl (keysAt_set02 st s none (.inr rfl))

/-- Every call has one of the five effects. -/
theorem sessionStep_effect (st : BackendState ρ) (op : SessionOp) :
    StepEffect P st (sessionStep P op st).2 op (sessionStep P op st).1 := by
  cases op with
  | derive03 enc mac mode hostCh cardCh => exact derive03_effect P st enc mac mode hostCh cardCh
  | derive02 enc mac dek seq => exact derive02_effect P st enc mac dek seq
  | wrap h capdu =>
    cases h with
    | scp03 s => exact wrap03_effect P st s capdu
    | scp02 s => exact wrap02_effect P st s capdu
  | unwrap h rapdu =>
    cases h with
    | scp03 s => exact unwrap03_effect P st s rapdu
    | scp02 s => exact unwrap02_effect P st s rapdu
  | close h => exact close_effect P st h

end Scll

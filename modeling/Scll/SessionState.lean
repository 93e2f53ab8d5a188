import Scll.Backend.Machine
import Scll.Command
import Scll.Handles

/-! # What a session slot remembers

    Along any run of backend calls a live slot is a function of the commands
    wrapped in it so far: its level is the `P1` of the first, its counter their
    number after the first, its chaining value the full C-MAC of the last over
    the chain before it. No other call moves any of these, and no call on
    another session does.
-/

namespace Scll

open BlockMode Run

variable (P : Primitives) {ρ : Type}

namespace SessionState

/-- A command that was wrapped, and what went on the wire for it. -/
structure Wrapped where
  plain : Capdu
  wire : List UInt8

/-- The events of a run of backend calls. -/
abbrev BackendEvent (ρ : Type) := Event (BackendState ρ) BackendOp BackendResult

/-- The command an event wraps through `h`, when it succeeds. -/
def wrapOf (h : SessionHandle) (op : BackendOp) (out : BackendResult) : Option Wrapped :=
  match op, out with
  | .session (.wrap h' capdu), .session (.octets wire) =>
      if h' = h then some ⟨capdu, wire⟩ else none
  | _, _ => none

/-- The wraps through `h` that succeeded, in order. -/
def wraps (h : SessionHandle) (es : List (BackendEvent ρ)) : List Wrapped :=
  es.filterMap fun e => wrapOf h e.op e.out

/-! ### SCP03 -/

/-- The octets between the header and the MAC of a wire command. -/
def wireBody (macLen : ℕ) (wire : List UInt8) : List UInt8 :=
  (wire.drop 5).take ((wire.getD 4 0).toNat - macLen)

/-- The MAC of a wire command. -/
def wireMac (macLen : ℕ) (wire : List UInt8) : List UInt8 :=
  (wire.drop (5 + ((wire.getD 4 0).toNat - macLen))).take macLen

/-- The full C-MAC of a wrapped command, after the chaining value `chain`. -/
def fullCmac03 (sMac : AesKey) (mode : ScpMode) (chain : Block 16) (w : Wrapped) : Block 16 :=
  P.aesCmac sMac.val (chain.val ++ w.wire.take 5 ++ wireBody mode.macLen w.wire)

/-- The chaining value the wrapped commands leave. -/
def chain03 (sMac : AesKey) (mode : ScpMode) (ws : List Wrapped) : Block 16 :=
  ws.foldl (fullCmac03 P sMac mode) (Block.zero 16)

/-- An SCP03 slot after the wrapped commands `ws`. -/
structure Tracks03 (slot : Scp03SessionSlot) (ws : List Wrapped) : Prop where
  authed : slot.authed = !ws.isEmpty
  /-- The first wrapped command is EXTERNAL AUTHENTICATE. -/
  first : ∀ w ∈ ws.head?, w.plain.ins = EXTERNAL_AUTHENTICATE
  /-- The level is the `P1` of the first. -/
  level : slot.level = (ws.head?.map fun w => w.plain.p1).getD 0
  /-- The counter counts the wraps after the first. -/
  counter : slot.counter.toNat = ws.length - 1
  chain : slot.chain = chain03 P slot.sMac slot.mode ws
  /-- Every command carries its own C-MAC, cut to the mode. -/
  carried : ∀ as w bs, ws = as ++ w :: bs → wireMac slot.mode.macLen w.wire =
    (chain03 P slot.sMac slot.mode (as ++ [w])).val.take slot.mode.macLen

theorem Tracks03.fresh (sEnc sMac sRmac : AesKey) (mode : ScpMode) :
    Tracks03 P (.fresh sEnc sMac sRmac mode) [] where
  authed := rfl
  first := by simp
  level := rfl
  counter := rfl
  chain := rfl
  carried := by simp

/-- One wrap more. -/
theorem Tracks03.wrap {slot slot' : Scp03SessionSlot} {ws : List Wrapped}
    {cla ins p1 p2 : UInt8} {rest out : List UInt8} (h : Tracks03 P slot ws)
    (hwrap : wrapSlot P slot cla ins p1 p2 rest = .ok (out, slot')) :
    Tracks03 P slot' (ws ++ [⟨cla :: ins :: p1 :: p2 :: rest, out⟩]) := by
  obtain ⟨data, le, body, counter, level, lc, hdata, hbody, hmax, hlc, hout, rfl⟩ :=
    wrapSlot_ok P hwrap
  have hmac : (commandMac P slot [secureCla cla, ins, p1, p2, lc] body).val.length = 16 :=
    (commandMac P slot _ body).property
  have hmacLen := slot.mode.macLen_le
  have hlen : lc.toNat - slot.mode.macLen = body.length := by omega
  have hheader : out.take 5 = [secureCla cla, ins, p1, p2, lc] := by rw [hout]; rfl
  have hlcAt : out.getD 4 0 = lc := by rw [hout]; rfl
  -- the fields are found again on the wire by the length octet
  have hwire : wireBody slot.mode.macLen out = body := by
    rw [wireBody, hlcAt, hlen, hout]
    simp
  have htail : wireMac slot.mode.macLen out =
      (commandMac P slot [secureCla cla, ins, p1, p2, lc] body).val.take slot.mode.macLen := by
    rw [wireMac, hlcAt, hlen, hout]
    have hdrop : (([secureCla cla, ins, p1, p2, lc] ++ body ++
        (commandMac P slot [secureCla cla, ins, p1, p2, lc] body).val.take slot.mode.macLen ++
        le).drop (5 + body.length)) =
        (commandMac P slot [secureCla cla, ins, p1, p2, lc] body).val.take slot.mode.macLen ++
          le := by
      rw [List.append_assoc]
      exact List.drop_left' (by simp; omega)
    rw [hdrop]
    exact List.take_left' (by rw [List.length_take, hmac]; omega)
  have hchain : chain03 P slot.sMac slot.mode (ws ++ [⟨cla :: ins :: p1 :: p2 :: rest, out⟩]) =
      commandMac P slot [secureCla cla, ins, p1, p2, lc] body := by
    rw [chain03, List.foldl_append]
    show fullCmac03 P slot.sMac slot.mode (chain03 P slot.sMac slot.mode ws) _ = _
    rw [← h.chain, fullCmac03, hheader, hwire]
    rfl
  have hcarried := forall_concat h.carried (x := ⟨cla :: ins :: p1 :: p2 :: rest, out⟩)
    (by rw [hchain, htail])
  rcases commandBody_ok P (length_commandData hdata) hbody with
    ⟨hauth, hea, -, hcount, hlevel⟩ | ⟨hauth, hcount, hlevel, -⟩
  · obtain rfl : ws = [] := by
      have := h.authed
      rw [hauth] at this
      simpa using this.symm
    refine ⟨rfl, ?_, ?_, ?_, hchain.symm, hcarried⟩
    · intro w hw
      obtain rfl := Option.some.inj hw
      exact hea
    · rw [hlevel]
      rfl
    · rw [hcount]
      exact h.counter
  · obtain ⟨w, ws, rfl⟩ : ∃ w ws', ws = w :: ws' := by
      have := h.authed
      rw [hauth] at this
      exact List.exists_cons_of_ne_nil (by simpa using this.symm)
    refine ⟨rfl, h.first, ?_, ?_, hchain.symm, hcarried⟩
    · rw [hlevel]
      exact h.level
    · rw [hcount, h.counter]
      simp

/-! ### SCP02 -/

/-- The ICV of the next C-MAC: zero at first, then the last C-MAC under single DES. -/
def icv02 (sMac : TdesKey) : Option (Block 8) → Block 8
  | none => Block.zero 8
  | some cmac => P.des (sMac.val.take 8) cmac

/-- The full C-MAC of a wrapped command, over its modified header and plaintext data. -/
def fullCmac02 (sMac : TdesKey) (last : Option (Block 8)) (w : Wrapped) : Block 8 :=
  macAlgorithm3 P sMac.val (icv02 P sMac last)
    ([secureCla (w.plain.getD 0 0), w.plain.ins, w.plain.p1, w.plain.p2,
      UInt8.ofNat (w.plain.data.length + 8)] ++ w.plain.data)

/-- The C-MAC of the last wrapped command, if there is one. -/
def chain02 (sMac : TdesKey) (ws : List Wrapped) : Option (Block 8) :=
  ws.foldl (fun last w => some (fullCmac02 P sMac last w)) none

/-- An SCP02 slot after the wrapped commands `ws`. -/
structure Tracks02 (slot : Scp02SessionSlot) (ws : List Wrapped) : Prop where
  authed : slot.authed = !ws.isEmpty
  first : ∀ w ∈ ws.head?, w.plain.ins = EXTERNAL_AUTHENTICATE
  level : slot.level = (ws.head?.map fun w => w.plain.p1).getD 0
  valid : slot.icvValid = !ws.isEmpty
  chain : slot.icv = (chain02 P slot.sMac ws).getD (Block.zero 8)
  /-- Every command ends in its own C-MAC. -/
  carried : ∀ as w bs, ws = as ++ w :: bs → ∃ cmac,
    chain02 P slot.sMac (as ++ [w]) = some cmac ∧ w.wire.drop (w.wire.length - 8) = cmac.val

theorem Tracks02.fresh (sEnc sMac sRmac sDek : TdesKey) :
    Tracks02 P (Scp02.fresh sEnc sMac sRmac sDek) [] where
  authed := rfl
  first := by simp
  level := rfl
  valid := rfl
  chain := rfl
  carried := by simp

/-- The response chain is not part of it. -/
theorem Tracks02.unwrap {slot : Scp02SessionSlot} {ws : List Wrapped} (h : Tracks02 P slot ws)
    (ricv : Block 8) : Tracks02 P { slot with ricv := ricv, rmacBuf := [] } ws :=
  ⟨h.authed, h.first, h.level, h.valid, h.chain, h.carried⟩

theorem data_of_commandData {cla ins p1 p2 : UInt8} {rest data le : List UInt8}
    (h : commandData rest = .ok (data, le)) :
    Capdu.data (cla :: ins :: p1 :: p2 :: rest) = data := by
  rcases commandData_eq_ok h with ⟨rfl, rfl, -⟩ | ⟨rfl, hlt⟩
  · rfl
  · have hlc : (UInt8.ofNat data.length).toNat = data.length := by
      rw [UInt8.toNat_ofNat']
      omega
    simp [Capdu.data, hlc]

/-- One wrap more. -/
theorem Tracks02.wrap {slot slot' : Scp02SessionSlot} {ws : List Wrapped}
    {cla ins p1 p2 : UInt8} {rest out : List UInt8} (h : Tracks02 P slot ws)
    (hwrap : Scp02.wrapSlot P slot cla ins p1 p2 rest = .ok (out, slot')) :
    Tracks02 P slot' (ws ++ [⟨cla :: ins :: p1 :: p2 :: rest, out⟩]) := by
  obtain ⟨data, le, lc, hdata, hfirst, hmax, hlc, hout, rfl⟩ := Scp02.wrapSlot_ok P hwrap
  set w : Wrapped := ⟨cla :: ins :: p1 :: p2 :: rest, out⟩ with hw
  have hmac : (Scp02.commandMac P slot cla ins p1 p2 data).val.length = 8 :=
    (Scp02.commandMac P slot cla ins p1 p2 data).property
  have hicv : icv02 P slot.sMac (chain02 P slot.sMac ws) = Scp02.icvBlock P slot := by
    unfold Scp02.icvBlock
    rw [h.valid, h.chain]
    rcases List.eq_nil_or_concat ws with rfl | ⟨ws, v, rfl⟩
    · rfl
    · simp [chain02, List.foldl_append, icv02]
  have hchain : chain02 P slot.sMac (ws ++ [w]) =
      some (Scp02.commandMac P slot cla ins p1 p2 data) := by
    rw [chain02, List.foldl_append]
    show some (fullCmac02 P slot.sMac (chain02 P slot.sMac ws) w) = _
    rw [fullCmac02, hicv, data_of_commandData hdata]
    rfl
  have htail : out.drop (out.length - 8) =
      (Scp02.commandMac P slot cla ins p1 p2 data).val := by
    rw [hout]
    exact List.drop_left' (by simp only [List.length_append, hmac]; omega)
  have hcarried := forall_concat h.carried (x := w) ⟨_, hchain, htail⟩
  have hlast : (Scp02.commit slot cla ins p1 p2 data
      (Scp02.commandMac P slot cla ins p1 p2 data)).icv =
      (chain02 P slot.sMac (ws ++ [w])).getD (Block.zero 8) := by
    rw [hchain]
    rfl
  by_cases hauth : slot.authed = true
  · obtain ⟨v, ws, rfl⟩ : ∃ v ws', ws = v :: ws' := by
      have := h.authed
      rw [hauth] at this
      exact List.exists_cons_of_ne_nil (by simpa using this.symm)
    refine ⟨rfl, h.first, ?_, rfl, hlast, hcarried⟩
    simp only [Scp02.commit, hauth, if_true]
    exact h.level
  · have hfalse := Bool.eq_false_iff.mpr hauth
    obtain rfl : ws = [] := by
      have := h.authed
      rw [hfalse] at this
      simpa using this.symm
    refine ⟨rfl, ?_, ?_, rfl, hlast, hcarried⟩
    · intro v hv
      obtain rfl := Option.some.inj hv
      exact hfirst hfalse
    · simp only [Scp02.commit, hfalse]
      rfl

/-! ### Along a run -/

/-- The slot behind `h` is alive and is what the wrapped commands make it. -/
def SlotTracks (st : BackendState ρ) (h : SessionHandle) (ws : List Wrapped) : Prop :=
  match slotAt st h with
  | none => False
  | some (.scp03 slot) => Tracks03 P slot ws
  | some (.scp02 slot) => Tracks02 P slot ws

theorem slotTracks_scp03 {st : BackendState ρ} {s : Scp03Session} {ws : List Wrapped} :
    SlotTracks P st (.scp03 s) ws ↔
      ∃ slot, st.sessions.get s.index.toNat = some slot ∧ Tracks03 P slot ws := by
  cases hslot : st.sessions.get s.index.toNat <;> simp [SlotTracks, slotAt, hslot]

theorem slotTracks_scp02 {st : BackendState ρ} {s : Scp02Session} {ws : List Wrapped} :
    SlotTracks P st (.scp02 s) ws ↔
      ∃ slot, st.scp02Sessions.get s.index.toNat = some slot ∧ Tracks02 P slot ws := by
  cases hslot : st.scp02Sessions.get s.index.toNat <;> simp [SlotTracks, slotAt, hslot]

/-- Only a derivation opens, and it opens an empty slot. -/
theorem opened_cases {op : SessionOp} {st : BackendState ρ} {h : SessionHandle}
    (hopen : (sessionStep P op st).1 = .opened h) :
    slotAt st h = none ∧ ((∃ enc mac mode hostCh cardCh, op = .derive03 enc mac mode hostCh cardCh) ∨
      ∃ enc mac dek seq, op = .derive02 enc mac dek seq) := by
  have heffect := sessionStep_effect P st op
  rw [hopen] at heffect
  cases heffect with
  | opened _ k derived empty _ =>
    refine ⟨keysAt_eq_none.mp empty, ?_⟩
    cases op with
    | derive03 enc mac mode hostCh cardCh => exact .inl ⟨_, _, _, _, _, rfl⟩
    | derive02 enc mac dek seq => exact .inr ⟨_, _, _, _, rfl⟩
    | _ => cases derived

/-- A derivation leaves a slot nothing was wrapped in. -/
theorem slotTracks_of_opened {op : SessionOp} {st : BackendState ρ} {h : SessionHandle}
    (hopen : (sessionStep P op st).1 = .opened h) :
    SlotTracks P (sessionStep P op st).2 h [] := by
  rcases (opened_cases P hopen).2 with
    ⟨enc, mac, mode, hostCh, cardCh, rfl⟩ | ⟨enc, mac, dek, seq, rfl⟩
  · rcases hderive : scp03DeriveSession P enc mac mode hostCh cardCh st with ⟨r, st'⟩
    simp only [sessionStep, hderive] at hopen ⊢
    cases r with
    | error e => cases hopen
    | ok s =>
      obtain rfl := SessionResult.opened.inj hopen
      obtain ⟨-, sEnc, sMac, sRmac, -, hslot⟩ := scp03DeriveSession_slot P hderive
      exact (slotTracks_scp03 P).mpr ⟨_, hslot, Tracks03.fresh P sEnc sMac sRmac mode⟩
  · rcases hderive : scp02DeriveSession P enc mac dek seq st with ⟨r, st'⟩
    simp only [sessionStep, hderive] at hopen ⊢
    cases r with
    | error e => cases hopen
    | ok s =>
      obtain rfl := SessionResult.opened.inj hopen
      obtain ⟨-, sEnc, sMac, sRmac, sDek, -, hslot⟩ := scp02DeriveSession_slot P hderive
      exact (slotTracks_scp02 P).mpr ⟨_, hslot, Tracks02.fresh P sEnc sMac sRmac sDek⟩

/-- A wrap through the handle, whether it succeeds or not. -/
theorem SlotTracks.wrap {st : BackendState ρ} {h : SessionHandle} {ws : List Wrapped}
    (htracks : SlotTracks P st h ws) (capdu : List UInt8) :
    SlotTracks P (sessionStep P (.wrap h capdu) st).2 h
      (ws ++ (wrapOf h (.session (.wrap h capdu))
        (.session (sessionStep P (.wrap h capdu) st).1)).toList) := by
  cases h with
  | scp03 s =>
    rcases scp03WrapCommand_cases P s capdu st with
      ⟨e, he⟩ | ⟨cla, ins, p1, p2, rest, slot, out, slot', rfl, hslot, hwrap, hok⟩
    · simp only [sessionStep, he, SessionResult.ofExcept, wrapOf, Option.toList_none,
        List.append_nil]
      exact htracks
    · obtain ⟨slot₀, hslot₀, htracks₀⟩ := (slotTracks_scp03 P).mp htracks
      obtain rfl := Option.some.inj (hslot.symm.trans hslot₀)
      simp only [sessionStep, hok, SessionResult.ofExcept, wrapOf, if_true, Option.toList_some]
      exact (slotTracks_scp03 P).mpr
        ⟨slot', SlotTable.get_set_self (SlotTable.lt_of_get hslot) _, htracks₀.wrap P hwrap⟩
  | scp02 s =>
    rcases scp02WrapCommand_cases P s capdu st with
      ⟨e, he⟩ | ⟨cla, ins, p1, p2, rest, slot, out, slot', rfl, hslot, hwrap, hok⟩
    · simp only [sessionStep, he, SessionResult.ofExcept, wrapOf, Option.toList_none,
        List.append_nil]
      exact htracks
    · obtain ⟨slot₀, hslot₀, htracks₀⟩ := (slotTracks_scp02 P).mp htracks
      obtain rfl := Option.some.inj (hslot.symm.trans hslot₀)
      simp only [sessionStep, hok, SessionResult.ofExcept, wrapOf, if_true, Option.toList_some]
      exact (slotTracks_scp02 P).mpr
        ⟨slot', SlotTable.get_set_self (SlotTable.lt_of_get hslot) _, htracks₀.wrap P hwrap⟩

/-- An unwrap through the handle that leaves its slot alive. -/
theorem SlotTracks.unwrap {st : BackendState ρ} {h : SessionHandle} {ws : List Wrapped}
    (htracks : SlotTracks P st h ws) {rapdu : List UInt8}
    (hlive : (slotAt (sessionStep P (.unwrap h rapdu) st).2 h).isSome) :
    SlotTracks P (sessionStep P (.unwrap h rapdu) st).2 h ws := by
  cases h with
  | scp03 s =>
    rcases scp03UnwrapResponse_cases P s rapdu st with
      ⟨-, e, he⟩ | ⟨slot, e, -, -, he⟩ | ⟨slot, out, -, -, hok⟩
    · simp only [sessionStep, he]
      exact htracks
    · simp [sessionStep, he, slotAt] at hlive
    · simp only [sessionStep, hok]
      exact htracks
  | scp02 s =>
    rcases scp02UnwrapResponse_cases P s rapdu st with
      ⟨-, e, he⟩ | ⟨slot, out, ricv, hslot, -, hok⟩ | ⟨slot, e, -, -, he⟩ | ⟨slot, e, -, -, he⟩
    · simp only [sessionStep, he]
      exact htracks
    · obtain ⟨slot₀, hslot₀, htracks₀⟩ := (slotTracks_scp02 P).mp htracks
      obtain rfl := Option.some.inj (hslot.symm.trans hslot₀)
      simp only [sessionStep, hok]
      exact (slotTracks_scp02 P).mpr
        ⟨_, SlotTable.get_set_self (SlotTable.lt_of_get hslot) _, htracks₀.unwrap P ricv⟩
    · simp [sessionStep, he, slotAt] at hlive
    · simp only [sessionStep, he]
      exact htracks

theorem slotAt_close (st : BackendState ρ) (h : SessionHandle) :
    slotAt (sessionStep P (.close h) st).2 h = none := by
  cases h <;> simp [sessionStep, slotAt, scp03CloseSession, scp02CloseSession]

/-- A call on another session, or on none, wraps nothing through `h`. -/
theorem wrapOf_of_target_ne {op : BackendOp} {out : BackendResult} {h : SessionHandle}
    (hne : op.target out ≠ some h) : wrapOf h op out = none := by
  unfold wrapOf
  split
  · next h' capdu wire =>
    exact if_neg (fun heq => hne (by rw [heq]; rfl))
  · rfl

/-- One call, as the slot behind `h` sees it while it is alive. -/
theorem SlotTracks.step [RngCore ρ] {op : BackendOp} {st : BackendState ρ} {h : SessionHandle}
    {ws : List Wrapped} (htracks : SlotTracks P st h ws)
    (hlive : (slotAt (backendStep P op st).2 h).isSome) :
    SlotTracks P (backendStep P op st).2 h
      (ws ++ (wrapOf h op (backendStep P op st).1).toList) := by
  by_cases htarget : op.target (backendStep P op st).1 = some h
  · cases op with
    | session op =>
      cases op with
      | wrap h' capdu =>
        obtain rfl := Option.some.inj htarget
        exact htracks.wrap P capdu
      | unwrap h' rapdu =>
        obtain rfl := Option.some.inj htarget
        simp only [wrapOf, Option.toList_none, List.append_nil]
        exact htracks.unwrap P hlive
      | close h' =>
        obtain rfl := Option.some.inj htarget
        rw [backendStep, slotAt_close] at hlive
        cases hlive
      | derive03 | derive02 =>
        simp only [BackendOp.target, backendStep, SessionOp.target] at htarget
        split at htarget
        · next h' hopen =>
          obtain rfl := Option.some.inj htarget
          unfold SlotTracks at htracks
          rw [(opened_cases P hopen).1] at htracks
          exact htracks.elim
        · cases htarget
    | _ => cases htarget
  · rw [wrapOf_of_target_ne htarget, Option.toList_none, List.append_nil]
    unfold SlotTracks
    rw [(backendStep_frame P op st).1 h htarget]
    exact htracks

/-- A stretch of a run, as the slot behind `h` sees it while it is alive. -/
theorem SlotTracks.run [RngCore ρ] {ops : List BackendOp} {st : BackendState ρ}
    {h : SessionHandle} {ws : List Wrapped} (htracks : SlotTracks P st h ws)
    (hlive : ∀ e ∈ Run.run (backendStep P) ops st, (slotAt e.after h).isSome) :
    SlotTracks P (final st (Run.run (backendStep P) ops st)) h
      (ws ++ wraps h (Run.run (backendStep P) ops st)) := by
  induction ops generalizing st ws with
  | nil =>
    simp only [Run.run, wraps, List.filterMap_nil, List.append_nil, final_nil]
    exact htracks
  | cons op ops ih =>
    simp only [Run.run, List.forall_mem_cons] at hlive
    have := ih (htracks.step P hlive.1) hlive.2
    rw [List.append_assoc] at this
    have hwraps : ∀ (e : BackendEvent ρ) es, wraps h (e :: es) =
        (wrapOf h e.op e.out).toList ++ wraps h es := by
      intro e es
      simp only [wraps, List.filterMap_cons]
      cases wrapOf h e.op e.out <;> rfl
    rw [Run.run, hwraps]
    exact this

/-! ### The invariant -/

/-- What every call leaves alone: all slots but the one of its target, the key
    table unless it stores a key, and everything when it is a wrap that fails. -/
structure Isolated (e : BackendEvent ρ) : Prop where
  failedWrap : ∀ h capdu err, e.op = .session (.wrap h capdu) →
    e.out = .session (.failed err) → e.after = e.before
  slots : ∀ g, e.op.target e.out ≠ some g → slotAt e.after g = slotAt e.before g
  keys : e.op.storesKey = false → e.after.keys = e.before.keys

theorem isolated_of_isStep [RngCore ρ] {e : BackendEvent ρ}
    (hstep : IsStep (backendStep P) e) : Isolated e := by
  obtain ⟨op, st, out, st'⟩ := e
  obtain rfl : (backendStep P op st).1 = out := congrArg Prod.fst hstep
  obtain rfl : (backendStep P op st).2 = st' := congrArg Prod.snd hstep
  refine ⟨?_, (backendStep_frame P op st).1, (backendStep_frame P op st).2⟩
  intro h capdu err hop hout
  simp only at hop hout ⊢
  subst hop
  exact wrap_failed P (BackendResult.session.inj hout)

/-- From the derivation that opens a session to any later point it is still
    alive at, its slot is what the commands wrapped in between make it. -/
theorem slotTracks_since_open [RngCore ρ] {ops : List BackendOp} {st : BackendState ρ}
    {es bs fs : List (BackendEvent ρ)} {d : BackendEvent ρ} {h : SessionHandle}
    (hrun : run (backendStep P) ops st = es ++ d :: (bs ++ fs))
    (hopen : d.out = .session (.opened h)) (hlive : ∀ e ∈ bs, (slotAt e.after h).isSome) :
    SlotTracks P (final d.after bs) h (wraps h bs) := by
  obtain ⟨-, hstep⟩ := before_eq_final _ hrun
  obtain ⟨_, _, -, -, hrest⟩ := run_eq_append _ hrun
  obtain ⟨-, -, ops', hrest⟩ := run_eq_cons _ hrest.symm
  obtain ⟨ops₁, _, -, hbs, -⟩ := run_eq_append _ hrest.symm
  obtain ⟨op, before, out, after⟩ := d
  have hopened : SlotTracks P after h [] := by
    obtain rfl : (backendStep P op before).1 = out := congrArg Prod.fst hstep
    obtain rfl : (backendStep P op before).2 = after := congrArg Prod.snd hstep
    cases op with
    | session op => exact slotTracks_of_opened P (BackendResult.session.inj hopen)
    | _ => cases hopen
  rw [hbs] at hlive ⊢
  exact hopened.run P hlive

/-- In every run of backend calls: from the derivation that opens a session to
    any later point it is still alive at, its slot is what the commands wrapped
    in between make it; and every call leaves everything else alone. -/
theorem session_state_invariant [RngCore ρ] {ops : List BackendOp} {st : BackendState ρ}
    {es bs fs : List (BackendEvent ρ)} {d : BackendEvent ρ} {h : SessionHandle}
    (hrun : run (backendStep P) ops st = es ++ d :: (bs ++ fs))
    (hopen : d.out = .session (.opened h)) (hlive : ∀ e ∈ bs, (slotAt e.after h).isSome) :
    SlotTracks P (final d.after bs) h (wraps h bs) ∧
      ∀ e ∈ run (backendStep P) ops st, Isolated e := by
  refine ⟨slotTracks_since_open P hrun hopen hlive, fun e he => ?_⟩
  obtain ⟨as, bs', hsplit⟩ := List.append_of_mem he
  exact isolated_of_isStep P (before_eq_final _ hsplit).2

/-- Derive, authenticate, and wrap one command more. -/
def openAndWrap : List BackendOp :=
  [.session (Handles.deriveOp 1), .session Handles.authenticateOp,
    .session (.wrap Handles.firstHandle [0x80, 0xCA, 0x00, 0x66])]

theorem session_state_invariant_open_and_wrap :
    ∃ d e e', run (backendStep Primitives.xorCipher) openAndWrap Handles.keyedBackend =
      [d, e, e'] ∧ SlotTracks Primitives.xorCipher e'.after Handles.firstHandle
        (wraps Handles.firstHandle [e, e']) := by
  have hopen : (sessionStep Primitives.xorCipher (Handles.deriveOp 1) Handles.keyedBackend).1 =
      .opened Handles.firstHandle := by decide +kernel
  refine ⟨_, _, _, rfl, ?_⟩
  exact (@session_state_invariant Primitives.xorCipher Unit _ openAndWrap Handles.keyedBackend
    [] [_, _] [] _ Handles.firstHandle rfl (congrArg BackendResult.session hopen)
    (by
      simp only [List.forall_mem_cons, List.not_mem_nil, false_implies, implies_true, and_true]
      constructor <;> decide +kernel)).1

end SessionState

end Scll

import Scll.ChannelRoom
import Scll.CardStatusLaw
import Scll.Refusals
import Scll.ValidPrefix

/-! # When SET STATUS goes out

    A change of the card's life cycle cannot be taken back, so it hangs on what
    the card has just said of itself. Whatever pages a card answers, SET STATUS
    follows them at most once, and only if what is kept of them names a state
    from which the matrix leads to the target. A state that cannot be read leads
    nowhere.
-/

namespace Scll

namespace Workflow

open Response

/-! ### The decision -/

/-- The first `'9F70'` of the first `'E3'` starts with `b`. -/
def NamesState (octets : List UInt8) (b : UInt8) : Prop :=
  ∃ top registry fields rest, Tlv.parse octets = .ok top ∧
    find top TAG_GP_REGISTRY = some registry ∧ Tlv.parse registry = .ok fields ∧
    find fields TAG_LIFE_CYCLE = some (b :: rest)

/-- SET STATUS is due after a read: the state that was read is another one than the
    target, and the matrix has a move from it to the target. -/
def Due (args : SetCardStatusArgs) (read : Except ScllError (List UInt8 × Bool)) : Prop :=
  ∃ kept cut b, read = .ok (kept, cut) ∧ NamesState kept b ∧
    decodeLifeCycle b ≠ args.targetState ∧
    Allows (decodeLifeCycle b) args.targetState args.force

/-- SET STATUS for the card, with the coding of the target in `P2` and no `Le`. -/
def setStatusCommand (target : CardLifeCycle) (isd : Aid) : Capdu :=
  0x84 :: 0xF0 :: 0x80 :: rawByte target :: UInt8.ofNat isd.bytes.length :: isd.bytes

theorem parseStatusE3_eq_some {octets : List UInt8} {s : CardLifeCycle} :
    parseStatusE3 octets = .ok (some s) ↔ ∃ b, NamesState octets b ∧ decodeLifeCycle b = s := by
  constructor
  · intro h
    unfold parseStatusE3 at h
    split at h
    · cases h
    · obtain ⟨top, htop, h⟩ := bind_eq_ok.mp h
      split at h
      · cases h
      · next registry hregistry =>
        obtain ⟨fields, hfields, h⟩ := bind_eq_ok.mp h
        obtain ⟨b, hb, hs⟩ := Option.map_eq_some_iff.mp (Except.ok.inj h)
        obtain ⟨value, hvalue, hhead⟩ := Option.bind_eq_some_iff.mp hb
        obtain ⟨rest, rfl⟩ := List.head?_eq_some_iff.mp hhead
        exact ⟨b, ⟨top, registry, fields, rest, htop, hregistry, hfields, hvalue⟩, hs⟩
  · intro ⟨b, ⟨top, registry, fields, rest, htop, hregistry, hfields, hlife⟩, hs⟩
    rw [parseStatusE3_eq htop hregistry hfields, hlife, ← hs]
    rfl

theorem Aid.ne_nil (aid : Aid) : aid.bytes ≠ [] := by
  have hmin : 5 ≤ aid.bytes.length := aid.valid.1
  rw [← List.length_pos_iff]
  omega

theorem setStatusCommand_eq (target : CardLifeCycle) (isd : Aid) :
    setStatusCommand target isd =
      0x84 :: 0xF0 :: 0x80 :: rawByte target :: Capdu.tailOctets isd.bytes false := by
  unfold setStatusCommand Capdu.tailOctets
  rw [if_neg (by simpa using Aid.ne_nil isd)]
  simp

theorem setCardStatus_eq (target : CardLifeCycle) (isd : Aid) :
    ofBuild (Capdu.setCardStatus (rawByte target) isd.bytes) =
      .ok (setStatusCommand target isd) := by
  have hmax : isd.bytes.length ≤ 16 := isd.valid.2
  rw [ofBuild_eq_ok, setStatusCommand_eq]
  apply Capdu.build_eq_ok.mpr
  exact ⟨by omega, rfl⟩

section law

variable {τ β : Type} [Transport τ] [Scp03Backend β] [Scp02Backend β]

/-- What the pages from `w` to `w₁` come to decides what is on the line after them:
    `read` is what is kept of the pages, `w₂` the world after the call. -/
structure SetStatusLaw (session : ScpSession) (args : SetCardStatusArgs) (isd : Aid)
    (w : World τ β) (read : Except ScllError (List UInt8 × Bool)) (w₁ w₂ : World τ β) : Prop where
  /-- What is kept is the front of the pages, and parses. -/
  kept : ∀ kept cut, read = .ok (kept, cut) →
    ∃ as, Reads session P1_ISD_SCOPE Capdu.P2_FIRST_TLV as w w₁ ∧
      kept <+: dataOf as ∧ Parses kept = true
  /-- The read sends no SET STATUS. -/
  reading : ∃ cmds, w₁.sent = w.sent ++ cmds ∧ ∀ c ∈ cmds, Capdu.ins c ≠ Capdu.INS_SET_STATUS
  /-- Behind it there is nothing, or one SET STATUS. -/
  once : w₂.sent = w₁.sent ∨ w₂.sent = w₁.sent ++ [setStatusCommand args.targetState isd]
  /-- There is one exactly when it is due, on a channel that protects it. -/
  sent : w₂.sent = w₁.sent ++ [setStatusCommand args.targetState isd] ↔
    Due args read ∧ Wraps session (setStatusCommand args.targetState isd) w₁.backend
  /-- When it is due, the session is asked to transmit it and nothing else. -/
  due : Due args read →
    w₂ = (transmitInSession session (setStatusCommand args.targetState isd) w₁).2
  /-- When it is not, nothing happens after the read. -/
  idle : ¬Due args read → w₂ = w₁
  /-- A read that fails leads to nothing. -/
  failed : ∀ e, read = .error e → w₂ = w₁
  /-- Nor does one without a state, with an unknown one, or with the target itself. -/
  silent : ∀ kept cut, read = .ok (kept, cut) →
    (∀ b, NamesState kept b →
      decodeLifeCycle b = .unknown b ∨ decodeLifeCycle b = args.targetState) → w₂ = w₁
  /-- `P2` is never `FF`. -/
  coding : Due args read → rawByte args.targetState ∈ [0x07, 0x0F, 0x7F]

/-! ### The run -/

/-- What comes after the exchange of SET STATUS leaves the world alone. -/
theorem applyTransition_state {session : ScpSession} {isd : Aid} {target : CardLifeCycle}
    (w : World τ β) :
    (applyTransition session isd.bytes (.apply (rawByte target)) w).2 =
      (transmitInSession session (setStatusCommand target isd) w).2 := by
  unfold applyTransition
  dsimp only
  rw [setCardStatus_eq, Prog.lift_ok_bind, Prog.bind_run]
  cases transmitInSession session (setStatusCommand target isd) w with
  | mk r w' =>
    cases r with
    | error e => rfl
    | ok a => rfl

/-- From the state that was found, the matrix decides. -/
theorem setCardStatus_of_current {session : ScpSession} {args : SetCardStatusArgs} {isd : Aid}
    {current : CardLifeCycle} {w w₁ : World τ β} (hisd : args.isdAid = isd.bytes)
    (h : currentState session args w = (.ok current, w₁)) :
    (Allows current args.targetState args.force → (setCardStatus session args w).2 =
      (transmitInSession session (setStatusCommand args.targetState isd) w₁).2) ∧
    (¬Allows current args.targetState args.force → (setCardStatus session args w).2 = w₁) := by
  unfold setCardStatus
  rw [Prog.bind_ok h]
  constructor
  · intro hallows
    rw [checkTransition_apply_iff.mpr ⟨hallows, rfl⟩, Prog.lift_ok_bind, hisd, Prog.bind_run,
      ← applyTransition_state]
    cases applyTransition session isd.bytes (.apply (rawByte args.targetState)) w₁ with
    | mk r w' =>
      cases r with
      | error e => rfl
      | ok u => rfl
  · intro hnot
    cases hplan : checkTransition current args.targetState args.force with
    | error e => rfl
    -- a move that is not allowed is refused or nothing to do
    | ok plan =>
      cases plan with
      | noOp => rfl
      | apply p2 => exact absurd (checkTransition_apply_iff.mp hplan).1 hnot

/-- A read that succeeds leads to the state that its octets name, or to one that
    the matrix does not have. -/
theorem currentState_of_read {session : ScpSession} {args : SetCardStatusArgs} {isd : Aid}
    {w w₁ : World τ β} {kept : List UInt8} {cut : Bool} (hcurrent : args.currentState = none)
    (hisd : args.isdAid = isd.bytes)
    (hread : readStatusScope session P1_ISD_SCOPE w = (.ok (kept, cut), w₁)) :
    currentState session args w =
      ((parseStatusE3 kept).mapError .malformedResponse |>.map (·.getD (.unknown 0)), w₁) := by
  have hstatus : getCardStatus session args.isdAid w =
      (cardStatusReport isd.bytes kept cut, w₁) := by
    unfold getCardStatus
    rw [Prog.bind_ok hread, hisd]
    rfl
  unfold currentState
  rw [hcurrent]
  dsimp only
  rw [Prog.bind_run, hstatus]
  unfold cardStatusReport ofTlv
  cases parseStatusE3 kept with
  | error e => rfl
  | ok decoded =>
    rw [Aid.new_of_valid isd.valid]
    rfl

/-- The matrix does not have the state of a read that found none. -/
theorem not_allows_unknown {b : UInt8} {target : CardLifeCycle} {force : Bool} :
    ¬Allows (.unknown b) target force := by
  intro h
  cases h

/-- SET STATUS is due when the matrix allows the move from the state that was decoded. -/
theorem due_ok_iff {args : SetCardStatusArgs} {kept : List UInt8} {cut : Bool}
    {decoded : Option CardLifeCycle} (hparse : parseStatusE3 kept = .ok decoded) :
    Due args (.ok (kept, cut)) ↔
      Allows (decoded.getD (.unknown 0)) args.targetState args.force := by
  constructor
  · intro ⟨kept', cut', b, hkept, hnames, _, hallows⟩
    obtain ⟨rfl, rfl⟩ := Prod.mk.inj (Except.ok.inj hkept)
    have hdecoded := hparse.symm.trans (parseStatusE3_eq_some.mpr ⟨b, hnames, rfl⟩)
    rw [Except.ok.inj hdecoded]
    exact hallows
  · intro hallows
    cases hdecoded : decoded with
    | none =>
      rw [hdecoded] at hallows
      exact absurd hallows not_allows_unknown
    | some s =>
      rw [hdecoded] at hallows hparse
      obtain ⟨b, hnames, rfl⟩ := parseStatusE3_eq_some.mp hparse
      exact ⟨kept, cut, b, rfl, hnames, hallows.ne, hallows⟩

/-- After a read, SET STATUS is what is due. -/
theorem setCardStatus_of_read {session : ScpSession} {args : SetCardStatusArgs} {isd : Aid}
    {w w₁ : World τ β} {read : Except ScllError (List UInt8 × Bool)}
    (hcurrent : args.currentState = none) (hisd : args.isdAid = isd.bytes)
    (hread : readStatusScope session P1_ISD_SCOPE w = (read, w₁)) :
    (Due args read → (setCardStatus session args w).2 =
      (transmitInSession session (setStatusCommand args.targetState isd) w₁).2) ∧
    (¬Due args read → (setCardStatus session args w).2 = w₁) := by
  cases read with
  | error e =>
    -- the read failed: there is no state to start from
    have herror : currentState session args w = (.error e, w₁) := by
      unfold currentState
      rw [hcurrent]
      dsimp only
      unfold getCardStatus
      rw [Prog.bind_error (Prog.bind_error hread)]
    constructor
    · intro ⟨kept, cut, b, hkept, _⟩
      cases hkept
    · intro _
      unfold setCardStatus
      rw [Prog.bind_error herror]
  | ok p =>
    obtain ⟨kept, cut⟩ := p
    have hstate := currentState_of_read hcurrent hisd hread
    cases hparse : parseStatusE3 kept with
    | error e =>
      -- the octets do not decode, so they name no state
      rw [hparse] at hstate
      constructor
      · intro ⟨kept', cut', b, hkept, hnames, _⟩
        obtain ⟨rfl, rfl⟩ := Prod.mk.inj (Except.ok.inj hkept)
        rw [parseStatusE3_eq_some.mpr ⟨b, hnames, rfl⟩] at hparse
        cases hparse
      · intro _
        unfold setCardStatus
        rw [Prog.bind_error hstate]
    | ok decoded =>
      rw [hparse] at hstate
      obtain ⟨hsent, hidle⟩ := setCardStatus_of_current hisd hstate
      rw [due_ok_iff hparse]
      exact ⟨hsent, hidle⟩

/-- The read sends no SET STATUS. -/
theorem readStatusScope_reading (session : ScpSession) (w : World τ β) :
    ∃ cmds, (readStatusScope session P1_ISD_SCOPE w).2.sent = w.sent ++ cmds ∧
      ∀ c ∈ cmds, Capdu.ins c ≠ Capdu.INS_SET_STATUS := by
  have hkeeps : (readStatusScope session P1_ISD_SCOPE : Prog (World τ β) ScllError _).Keeps
      harmless := readPages_keeps_harmless
  obtain ⟨cmds, hsent, hharmless⟩ := hkeeps w
  refine ⟨cmds, hsent, fun c hc hins => ?_⟩
  have hchanging : Capdu.stateChanging c = true := by
    unfold Capdu.stateChanging
    rw [hins]
    decide
  rw [hharmless c hc] at hchanging
  cases hchanging

/-- What is kept is the front of the pages of the read. -/
theorem readStatusScope_kept {session : ScpSession} {w w₁ : World τ β} {kept : List UInt8}
    {cut : Bool} (h : readStatusScope session P1_ISD_SCOPE w = (.ok (kept, cut), w₁)) :
    ∃ as, Reads session P1_ISD_SCOPE Capdu.P2_FIRST_TLV as w w₁ ∧ as ≠ [] ∧
      kept <+: dataOf as ∧ Parses kept = true := by
  obtain ⟨as, hreads, htaken, hscan⟩ := reads_of_readPages h
  have hempty : Checked ⟨[], 0, false⟩ := ⟨Nat.le_refl 0, rfl⟩
  obtain ⟨hfront, hparses, -⟩ := validPrefix_of_scan hempty htaken hscan
  refine ⟨as, hreads, ?_, hfront, hparses⟩
  intro hnil
  rw [hnil] at htaken
  exact htaken

/-- The law of one call, from any world and over any card. -/
theorem setStatusLaw_of_read {session : ScpSession} {args : SetCardStatusArgs} {isd : Aid}
    {w w₁ : World τ β} {read : Except ScllError (List UInt8 × Bool)}
    (hcurrent : args.currentState = none) (hisd : args.isdAid = isd.bytes)
    (hread : readStatusScope session P1_ISD_SCOPE w = (read, w₁)) :
    SetStatusLaw session args isd w read w₁ (setCardStatus session args w).2 := by
  obtain ⟨hdue, hidle⟩ := setCardStatus_of_read hcurrent hisd hread
  have hreading := readStatusScope_reading session w
  rw [hread] at hreading
  have hgrows : w₁.sent ≠ w₁.sent ++ [setStatusCommand args.targetState isd] := by simp
  -- what is on the line after the call, by whether it is due and protected
  have hsent : Due args read → Wraps session (setStatusCommand args.targetState isd) w₁.backend →
      (setCardStatus session args w).2.sent =
        w₁.sent ++ [setStatusCommand args.targetState isd] := by
    intro h hwraps
    rw [hdue h]
    exact sent_of_wraps hwraps
  have hunsent : ¬(Due args read ∧
      Wraps session (setStatusCommand args.targetState isd) w₁.backend) →
      (setCardStatus session args w).2.sent = w₁.sent := by
    intro hnot
    by_cases h : Due args read
    · rw [hdue h]
      exact sent_of_not_wraps fun hwraps => hnot ⟨h, hwraps⟩
    · rw [hidle h]
  refine ⟨?_, hreading, ?_, ⟨?_, fun h => hsent h.1 h.2⟩, hdue, hidle, ?_, ?_, ?_⟩
  · intro kept cut hok
    rw [hok] at hread
    obtain ⟨as, hreads, -, hfront, hparses⟩ := readStatusScope_kept hread
    exact ⟨as, hreads, hfront, hparses⟩
  · by_cases h : Due args read ∧ Wraps session (setStatusCommand args.targetState isd) w₁.backend
    · exact .inr (hsent h.1 h.2)
    · exact .inl (hunsent h)
  · intro hline
    by_contra hnot
    rw [hunsent hnot] at hline
    exact hgrows hline
  · intro e herror
    apply hidle
    intro ⟨kept, cut, b, hkept, _⟩
    rw [herror] at hkept
    cases hkept
  · intro kept cut hok hnone
    apply hidle
    intro ⟨kept', cut', b, hkept, hnames, hne, hallows⟩
    obtain ⟨rfl, rfl⟩ := Prod.mk.inj (Except.ok.inj (hok.symm.trans hkept))
    rcases hnone b hnames with hunknown | htarget
    · rw [hunknown] at hallows
      exact not_allows_unknown hallows
    · exact hne htarget
  · intro ⟨_, _, _, _, _, _, hallows⟩
    rcases hallows.coding with h | h | h
    · rw [h]
      decide
    · rw [h]
      decide
    · rw [h]
      decide

end law

/-! ### The channel after a read -/

section software

variable (P : Primitives) {ρ τ : Type} [Transport τ]

theorem isOpen_of_reads {session : ScpSession} {p1 p2 : UInt8} {as : List Answer}
    {w w' : World τ (RustCryptoBackend P ρ)} (h : Reads session p1 p2 as w w') (hne : as ≠ []) :
    IsOpen session w'.backend := by
  induction h with
  | done => exact absurd rfl hne
  | @next p2 a as w w₁ w' hexchanged hrest ih =>
    cases as with
    | nil =>
      cases hrest
      exact isOpen_of_exchange P hexchanged
    | cons b as => exact ih (List.cons_ne_nil b as)

/-- After a read the software backend protects SET STATUS, unless an SCP03 counter is
    at its last value. -/
theorem wraps_setStatus_iff {session : ScpSession} {w w₁ : World τ (RustCryptoBackend P ρ)}
    {kept : List UInt8} {cut : Bool} (target : CardLifeCycle) (isd : Aid)
    (h : readStatusScope session P1_ISD_SCOPE w = (.ok (kept, cut), w₁)) :
    Wraps session (setStatusCommand target isd) w₁.backend ↔ ¬Exhausted session w₁.backend := by
  obtain ⟨as, hreads, hne, -⟩ := readStatusScope_kept h
  have hmax : isd.bytes.length ≤ 16 := isd.valid.2
  have hroom : isd.bytes.length ≤ MAX_WRAPPED_DATA := le_trans hmax (by decide)
  rw [setStatusCommand_eq]
  exact wraps_iff_of_isOpen P (isOpen_of_reads P hreads hne) _ _ _ _ (Aid.ne_nil isd) hroom _

end software

/-- SET STATUS goes out only for a move of the matrix from the state the card has
    reported, at most once, and with the coding of the target. Over the software
    backend it does go out then, unless the counter of an SCP03 channel is used up. -/
theorem set_status_only_when_due {τ β : Type} [Transport τ] [Scp03Backend β] [Scp02Backend β]
    (session : ScpSession) (args : SetCardStatusArgs) (isd : Aid)
    (hcurrent : args.currentState = none) (hisd : args.isdAid = isd.bytes) :
    (∀ w : World τ β, SetStatusLaw session args isd w
      (readStatusScope session P1_ISD_SCOPE w).1 (readStatusScope session P1_ISD_SCOPE w).2
      (setCardStatus session args w).2) ∧
    ∀ (P : Primitives) (ρ : Type) (w : World τ (RustCryptoBackend P ρ)),
      (setCardStatus session args w).2.sent = (readStatusScope session P1_ISD_SCOPE w).2.sent ++
          [setStatusCommand args.targetState isd] ↔
        Due args (readStatusScope session P1_ISD_SCOPE w).1 ∧
          ¬Exhausted session (readStatusScope session P1_ISD_SCOPE w).2.backend := by
  refine ⟨fun w => setStatusLaw_of_read hcurrent hisd rfl, ?_⟩
  intro P ρ w
  cases hread : readStatusScope session P1_ISD_SCOPE w with
  | mk read w₁ =>
    rw [(setStatusLaw_of_read hcurrent hisd hread).sent]
    refine and_congr_right fun hdue => ?_
    obtain ⟨kept, cut, b, hkept, -⟩ := hdue
    rw [hkept] at hread
    exact wraps_setStatus_iff P args.targetState isd hread

/-! ### A card that may be locked -/

/-- Lock the card, from whatever state it reports. -/
def lockArgs : SetCardStatusArgs where
  targetState := .cardLocked
  currentState := none
  force := false
  isdAid := sampleIsd.bytes

/-- A card that reports SECURED and accepts the command after that. -/
def securedCard : World Script StubBackend :=
  ⟨Script.ofAnswers [(P1_ISD_SCOPE, isdEntry, SW_OK), (P1_ISD_SCOPE, [], SW_OK)],
    StubBackend.new, []⟩

theorem set_status_only_when_due_lock :
    SetStatusLaw stubSession lockArgs sampleIsd securedCard
        (readStatusScope stubSession P1_ISD_SCOPE securedCard).1
        (readStatusScope stubSession P1_ISD_SCOPE securedCard).2
        (setCardStatus stubSession lockArgs securedCard).2 ∧
      (setCardStatus stubSession lockArgs securedCard).2.sent =
        [statusCommand P1_ISD_SCOPE Capdu.P2_FIRST_TLV, setStatusCommand .cardLocked sampleIsd] :=
  ⟨(set_status_only_when_due stubSession lockArgs sampleIsd rfl rfl).1 securedCard,
    by decide +kernel⟩

end Workflow

end Scll

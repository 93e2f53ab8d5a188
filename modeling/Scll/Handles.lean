import Scll.Backend.Sessions

/-! # What a session handle stands for

    A handle is the number of a slot. While its session lives, and until the
    slot is derived into again after that, the handle behaves as a name should:
    dead handles fail, and live ones use the keys of their own derivation. A
    later derivation that lands in the freed slot returns the same handle, and
    from there on it stands for the new session.
-/

namespace Scll

open Run

variable (P : Primitives) {ρ : Type}

namespace Handles

/-- The events of a run of session calls. -/
abbrev SessionEvent (ρ : Type) := Event (BackendState ρ) SessionOp SessionResult

/-- The event ends the session of `h`. -/
def EndsAt (e : SessionEvent ρ) (h : SessionHandle) : Prop := Ends e.before e.op e.out h

theorem effect_of_isStep {e : SessionEvent ρ} (h : IsStep (sessionStep P) e) :
    StepEffect P e.before e.after e.op e.out := by
  have := sessionStep_effect P e.before e.op
  unfold IsStep at h
  rwa [h] at this

/-- An ended session leaves nothing behind its handle. -/
theorem keysAt_of_ends {e : SessionEvent ρ} {h : SessionHandle} (hstep : IsStep (sessionStep P) e)
    (hends : EndsAt e h) : keysAt e.after h = none := by
  obtain ⟨op, st, out, st'⟩ := e
  have heffect := effect_of_isStep P hstep
  -- closed by the caller, or torn down by a response that was refused
  rcases hends with hclose | ⟨rapdu, err, hunwrap, hout, hrefused⟩
  · simp only at hclose heffect ⊢
    subst hclose
    have hclosed : out = .closed := by
      have := congrArg Prod.fst hstep
      simp only at this
      rw [← this]
      cases h <;> rfl
    subst hclosed
    cases heffect with
    | closed h' hop keys =>
      rw [keys, if_pos (SessionOp.close.inj hop)]
  · simp only at hunwrap hout hrefused heffect ⊢
    subst hunwrap hout
    cases heffect with
    -- a refused response tears down a live slot, so this one was empty already
    | refused _ same live =>
      rw [same]
      exact (live h rapdu rfl).resolve_right hrefused
    | tornDown h' rapdu' _ hop _ keys =>
      rw [keys, if_pos (SessionOp.unwrap.inj hop).1]

/-- Every other call than a derivation of `h` and the end of its session leaves
    what is behind `h`. -/
theorem keysAt_of_idle {e : SessionEvent ρ} {h : SessionHandle} (hstep : IsStep (sessionStep P) e)
    (hopens : ¬e.out = .opened h) (hends : ¬EndsAt e h) :
    keysAt e.after h = keysAt e.before h := by
  obtain ⟨op, st, out, st'⟩ := e
  have heffect := effect_of_isStep P hstep
  simp only at hopens heffect ⊢
  cases heffect with
  | refused _ same _ => rw [same]
  | opened h' k _ _ keys =>
    rw [keys, if_neg (fun heq => hopens (by rw [heq]))]
  | used h' k out _ _ _ keys => exact keys h
  | tornDown h' rapdu err hop hrefused keys =>
    rw [keys, if_neg]
    rintro rfl
    exact hends (.inr ⟨rapdu, err, hop, rfl, hrefused⟩)
  | closed h' hop keys =>
    rw [keys, if_neg]
    rintro rfl
    exact hends (.inl hop)

/-- The slot behind a handle, through a run. -/
def slotLine (h : SessionHandle) : Lifeline (sessionStep (ρ := ρ) P) SessionKeys where
  cell st := keysAt st h
  fills e := e.out = .opened h
  clears e := EndsAt e h
  clear_step := keysAt_of_ends P
  idle_step := keysAt_of_idle P

/-- A call through a handle with nothing behind it fails. -/
theorem failed_of_dead {e : SessionEvent ρ} {h : SessionHandle} (hstep : IsStep (sessionStep P) e)
    (hthrough : e.op.Through h) (hdead : keysAt e.before h = none) :
    ∃ err, e.out = .failed err := by
  obtain ⟨op, st, out, st'⟩ := e
  have heffect := effect_of_isStep P hstep
  simp only at hthrough hdead heffect ⊢
  cases heffect with
  | refused err _ _ => exact ⟨err, rfl⟩
  | tornDown _ _ err _ _ _ => exact ⟨err, rfl⟩
  | used h' k out hthrough' hlive _ _ =>
    rw [hthrough.unique hthrough', hdead] at hlive
    cases hlive
  | opened h' k derived _ _ =>
    rcases hthrough with ⟨_, rfl⟩ | ⟨_, rfl⟩ <;> cases derived
  | closed h' hop _ =>
    rcases hthrough with ⟨_, rfl⟩ | ⟨_, rfl⟩ <;> cases hop

/-- A call that succeeds uses what is behind its handle. -/
theorem uses_of_octets {e : SessionEvent ρ} {h : SessionHandle} {out : List UInt8}
    (hstep : IsStep (sessionStep P) e) (hthrough : e.op.Through h) (hout : e.out = .octets out) :
    ∃ k, keysAt e.before h = some k ∧ UsesKeys P e.before k e.op out := by
  obtain ⟨op, st, out', st'⟩ := e
  have heffect := effect_of_isStep P hstep
  simp only at hthrough hout heffect ⊢
  subst hout
  cases heffect with
  | used h' k _ hthrough' hlive huses _ =>
    exact ⟨k, hthrough.unique hthrough' ▸ hlive, huses⟩

/-- A handle that was filled was filled by a derivation of the keys behind it. -/
theorem derived_of_opened {e : SessionEvent ρ} {h : SessionHandle} {k : SessionKeys}
    (hstep : IsStep (sessionStep P) e) (hout : e.out = .opened h)
    (hcell : keysAt e.after h = some k) : derivedKeys P e.before e.op = .ok k := by
  obtain ⟨op, st, out, st'⟩ := e
  have heffect := effect_of_isStep P hstep
  simp only at hout hcell heffect ⊢
  subst hout
  cases heffect with
  | opened _ k' hderived _ keys =>
    rw [keys, if_pos rfl] at hcell
    rw [hderived, Option.some.inj hcell]

/-- Dead until derived again: in every run of backend calls, after an event that
    closes or tears down the session of `h` every wrap and unwrap through `h`
    fails, as long as no derivation has returned `h` again; and a wrap or unwrap
    through `h` that succeeds is computed from the slot behind `h`, which holds
    exactly the keys of the last derivation that returned `h`, whose session has
    not ended since. -/
theorem dead_until_derived_again (st : BackendState ρ) (ops : List SessionOp) (h : SessionHandle) :
    (∀ pre e mid e' post, run (sessionStep P) ops st = pre ++ e :: (mid ++ e' :: post) →
      EndsAt e h → (∀ x ∈ mid, ¬x.out = .opened h) → e'.op.Through h →
      ∃ err, e'.out = .failed err) ∧
    (∀ pre e post out, run (sessionStep P) ops st = pre ++ e :: post → keysAt st h = none →
      e.op.Through h → e.out = .octets out →
      ∃ before d since k, pre = before ++ d :: since ∧ d.out = .opened h ∧
        derivedKeys P d.before d.op = .ok k ∧
        (∀ x ∈ since, ¬x.out = .opened h ∧ ¬EndsAt x h) ∧
        keysAt e.before h = some k ∧ UsesKeys P e.before k e.op out) := by
  constructor
  · intro pre e mid e' post hrun hends hmid hthrough
    have hsplit : run (sessionStep P) ops st = (pre ++ e :: mid) ++ e' :: post := by
      rw [hrun, List.append_assoc, List.cons_append]
    exact failed_of_dead P (before_eq_final _ hsplit).2 hthrough
      ((slotLine P h).empty_of_clears hrun hends hmid)
  -- the slot is filled now and was empty at first: some derivation filled it last
  · intro pre e post out hrun hstart hthrough hout
    obtain ⟨hbefore, hstep⟩ := before_eq_final _ hrun
    obtain ⟨k, hlive, huses⟩ := uses_of_octets P hstep hthrough hout
    obtain ⟨ops₁, _, -, hpre, -⟩ := run_eq_append _ hrun
    obtain ⟨before, d, since, rfl, hopened, hcell, hsince⟩ :=
      (slotLine P h).exists_fills hstart pre hpre (hbefore ▸ hlive)
    rw [List.append_assoc, List.cons_append] at hrun
    exact ⟨before, d, since, k, rfl, hopened,
      derived_of_opened P (before_eq_final _ hrun).2 hopened hcell, hsince, hlive, huses⟩

/-! ### Two runs -/

/-- A backend with one AES-128 key. -/
def keyedBackend : BackendState Unit :=
  { BackendState.new () with
    keys := (SlotTable.empty MAX_KEY_SLOTS KeySlot).set 0
      (some ⟨.aes128, List.replicate 16 0x40, rfl⟩) }

def firstHandle : SessionHandle := .scp03 ⟨0⟩

/-- Derive a session with a given card challenge. -/
def deriveOp (cardCh : UInt8) : SessionOp :=
  .derive03 ⟨0⟩ ⟨0⟩ .s8 (List.replicate 8 0) (List.replicate 8 cardCh)

/-- EXTERNAL AUTHENTICATE through the first handle. -/
def authenticateOp : SessionOp :=
  .wrap firstHandle [0x84, 0x82, 0x01, 0x00, 0x08, 1, 2, 3, 4, 5, 6, 7, 8]

/-- Derive, wrap, close, and wrap once more. -/
def useAfterClose : List SessionOp :=
  [deriveOp 1, authenticateOp, .close firstHandle, authenticateOp]

/-- The wrap before the close uses the derived keys, the wrap after it fails. -/
theorem dead_until_derived_again_use_after_close :
    ∃ d e c e', run (sessionStep Primitives.xorCipher) useAfterClose keyedBackend = [d, e, c, e'] ∧
      (∃ err, e'.out = .failed err) ∧
      ∃ k out, e.out = .octets out ∧ derivedKeys Primitives.xorCipher d.before d.op = .ok k ∧
        keysAt e.before firstHandle = some k ∧
        UsesKeys Primitives.xorCipher e.before k e.op out := by
  refine ⟨_, _, _, _, rfl, ?_, ?_⟩
  · exact (dead_until_derived_again Primitives.xorCipher keyedBackend useAfterClose
      firstHandle).1 [_, _] _ [] _ [] rfl (.inl rfl) (by simp) (.inl ⟨_, rfl⟩)
  · obtain ⟨out, hout⟩ := SessionResult.exists_octets (r := (sessionStep Primitives.xorCipher
      authenticateOp (sessionStep Primitives.xorCipher (deriveOp 1) keyedBackend).2).1)
      (by decide +kernel)
    obtain ⟨before, d, since, k, hpre, -, hk, -, hlive, huses⟩ :=
      (dead_until_derived_again Primitives.xorCipher keyedBackend useAfterClose firstHandle).2
        [_] _ _ out rfl (by decide +kernel) (.inl ⟨_, rfl⟩) hout
    cases before with
    | nil =>
      obtain ⟨rfl, -⟩ := List.cons.inj hpre
      exact ⟨k, out, hout, hk, hlive, huses⟩
    | cons x before => simp at hpre

/-- Derive, close, derive again, wrap through the handle of the first session. -/
def comeBack : List SessionOp := [deriveOp 1, .close firstHandle, deriveOp 2, authenticateOp]

/-- A closed handle does not stay dead: the second derivation lands in the freed
    slot, and the handle of the first session wraps for the second. -/
theorem closed_handle_wraps_again :
    ¬∀ (ops : List SessionOp) (h : SessionHandle) (pre mid post : List (SessionEvent Unit))
      (e e' : SessionEvent Unit),
      run (sessionStep Primitives.xorCipher) ops keyedBackend = pre ++ e :: (mid ++ e' :: post) →
      EndsAt e h → e'.op.Through h → ∃ err, e'.out = .failed err := by
  intro hdead
  obtain ⟨err, hfailed⟩ := hdead comeBack firstHandle [_] [_] [] _ _ rfl (.inl rfl) (.inl ⟨_, rfl⟩)
  have hresults : (run (sessionStep Primitives.xorCipher) comeBack keyedBackend).map
      (fun e => e.out.isOctets) = [false, false, false, true] := by
    decide +kernel
  have hlast := congrArg (·[3]?) hresults
  simp only [comeBack, run, List.map_cons, List.getElem?_cons_succ,
    List.getElem?_cons_zero] at hlast
  simp only at hfailed
  rw [hfailed] at hlast
  cases hlast

end Handles

end Scll

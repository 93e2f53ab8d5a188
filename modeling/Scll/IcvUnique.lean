import Scll.SessionState

/-! # The ICVs of an SCP03 session

    Command data are encrypted in CBC mode under an ICV that is the encryption
    of a counter block. The counter goes up with every command after the first
    and stays where it is when a wrap fails, so the block of a command is that
    of its number: no two commands share one, and those of responses have a
    marker that those of commands do not.
-/

namespace Scll

open Octets BlockMode Run SessionState

variable (P : Primitives) {ρ : Type}

namespace IcvUnique

/-! ### Counter blocks -/

/-- A block says what its counter is, and which way it is for. -/
theorem counterBlock_inj {c c' : UInt32} {r r' : Bool}
    (h : counterBlock c r = counterBlock c' r') : c = c' ∧ r = r' := by
  have hval : (if r then (0x80 : UInt8) else 0x00) ::
      (List.replicate 11 0 ++ writeBE 4 c.toNat) =
      (if r' then (0x80 : UInt8) else 0x00) :: (List.replicate 11 0 ++ writeBE 4 c'.toNat) :=
    congrArg Subtype.val h
  -- the first octet is the mark, the last four are the counter
  obtain ⟨hmark, hrest⟩ := List.cons.inj hval
  constructor
  · have hoctets := List.append_cancel_left hrest
    exact UInt32.toNat_inj.mp (writeBE_inj c.toNat_lt c'.toNat_lt hoctets)
  · revert hmark
    cases r <;> cases r' <;> decide

theorem checkedSucc_eq_some {c c' : UInt32} (h : checkedSucc c = some c') :
    c'.toNat = c.toNat + 1 := by
  unfold checkedSucc at h
  split at h
  · next hlt =>
    obtain rfl := Option.some.inj h
    rw [UInt32.toNat_add]
    exact Nat.mod_eq_of_lt hlt
  · cases h

/-! ### The blocks of a run -/

/-- The block that the ICV of a command is derived from: that of the counter it
    moves to, if its data are encrypted. -/
def commandIcv (s : Scp03Session) (e : BackendEvent ρ) : Option (Block 16) :=
  match e.op, e.out, e.before.sessions.get s.index.toNat with
  | .session (.wrap h capdu), .session (.octets _), some slot =>
      if h = .scp03 s ∧ slot.authed ∧ slot.level &&& SL_CENC ≠ 0 ∧ Capdu.data capdu ≠ [] then
        (checkedSucc slot.counter).map fun counter => counterBlock counter false
      else none
  | _, _, _ => none

/-- The block that the ICV of a response is derived from, if its data are
    encrypted. -/
def responseIcv (s : Scp03Session) (e : BackendEvent ρ) : Option (Block 16) :=
  match e.op, e.before.sessions.get s.index.toNat with
  | .session (.unwrap h _), some slot =>
      if h = .scp03 s then some (counterBlock slot.counter true) else none
  | _, _ => none

/-- A command went out through the session. -/
def Sends (s : Scp03Session) (e : BackendEvent ρ) : Prop :=
  (wrapOf (.scp03 s) e.op e.out).isSome

/-- The number of commands that went out, the EXTERNAL AUTHENTICATE being the
    zeroth. -/
def sent (s : Scp03Session) (es : List (BackendEvent ρ)) : ℕ := (wraps (.scp03 s) es).length

theorem sent_append (s : Scp03Session) (as bs : List (BackendEvent ρ)) :
    sent s (as ++ bs) = sent s as + sent s bs := by
  simp only [sent, wraps, List.filterMap_append, List.length_append]

theorem sent_cons_of_sends {s : Scp03Session} {e : BackendEvent ρ} (h : Sends s e)
    (es : List (BackendEvent ρ)) : sent s (e :: es) = sent s es + 1 := by
  obtain ⟨w, hw⟩ := Option.isSome_iff_exists.mp h
  simp only [sent, wraps, List.filterMap_cons, hw, List.length_cons]

theorem sent_eq_zero {s : Scp03Session} {es : List (BackendEvent ρ)}
    (h : ∀ e ∈ es, ¬ Sends s e) : sent s es = 0 := by
  unfold sent wraps
  rw [List.length_eq_zero_iff, List.filterMap_eq_nil_iff]
  intro e he
  exact Option.not_isSome_iff_eq_none.mp (h e he)

theorem commandIcv_eq_some {s : Scp03Session} {e : BackendEvent ρ} {b : Block 16}
    (h : commandIcv s e = some b) :
    ∃ capdu wire slot counter, e.op = .session (.wrap (.scp03 s) capdu) ∧
      e.out = .session (.octets wire) ∧ e.before.sessions.get s.index.toNat = some slot ∧
      slot.authed = true ∧ slot.level &&& SL_CENC ≠ 0 ∧ Capdu.data capdu ≠ [] ∧
      checkedSucc slot.counter = some counter ∧ b = counterBlock counter false := by
  unfold commandIcv at h
  split at h
  · next h' capdu wire slot hop hout hslot =>
    split at h
    · next hcond =>
      obtain ⟨rfl, hauth, hlevel, hdata⟩ := hcond
      obtain ⟨counter, hcounter, rfl⟩ := Option.map_eq_some_iff.mp h
      exact ⟨capdu, wire, slot, counter, hop, hout, hslot, hauth, hlevel, hdata, hcounter, rfl⟩
    · cases h
  · cases h

theorem responseIcv_eq_some {s : Scp03Session} {e : BackendEvent ρ} {b : Block 16}
    (h : responseIcv s e = some b) :
    ∃ slot, e.before.sessions.get s.index.toNat = some slot ∧
      b = counterBlock slot.counter true := by
  unfold responseIcv at h
  split at h
  · next h' rapdu slot hop hslot =>
    split at h
    · exact ⟨slot, hslot, (Option.some.inj h).symm⟩
    · cases h
  · cases h

theorem sends_of_commandIcv {s : Scp03Session} {e : BackendEvent ρ} {b : Block 16}
    (h : commandIcv s e = some b) : Sends s e := by
  obtain ⟨capdu, wire, -, -, hop, hout, -⟩ := commandIcv_eq_some h
  unfold Sends
  rw [hop, hout]
  simp [wrapOf]

/-! ### A session from its derivation on -/

/-- A stretch of a run that starts with the derivation of a session, and before
    each event of which the session is alive. -/
structure Lives [RngCore ρ] (s : Scp03Session) (bs : List (BackendEvent ρ)) : Prop where
  inRun : ∃ (ops : List BackendOp) (st : BackendState ρ) (es fs : List (BackendEvent ρ))
    (d : BackendEvent ρ), run (backendStep P) ops st = es ++ d :: (bs ++ fs) ∧
      d.out = .session (.opened (.scp03 s))
  alive : ∀ e ∈ bs, (slotAt e.before (.scp03 s)).isSome

variable {P}

theorem Lives.isStep [RngCore ρ] {s : Scp03Session} {bs : List (BackendEvent ρ)}
    (h : Lives P s bs) {e : BackendEvent ρ} (he : e ∈ bs) : IsStep (backendStep P) e := by
  obtain ⟨ops, st, es, fs, d, hrun, -⟩ := h.inRun
  obtain ⟨as, rest, rfl⟩ := List.append_of_mem he
  have hsplit : run (backendStep P) ops st = (es ++ d :: as) ++ e :: (rest ++ fs) := by
    rw [hrun]
    simp
  exact (before_eq_final _ hsplit).2

/-- Before every event the slot is what the commands wrapped until then make it. -/
theorem Lives.tracks [RngCore ρ] {s : Scp03Session} {as rest : List (BackendEvent ρ)}
    {e : BackendEvent ρ} (h : Lives P s (as ++ e :: rest)) :
    ∃ slot, e.before.sessions.get s.index.toNat = some slot ∧
      Tracks03 P slot (wraps (.scp03 s) as) := by
  obtain ⟨ops, st, es, fs, d, hrun, hopen⟩ := h.inRun
  have hsplit : run (backendStep P) ops st = (es ++ d :: as) ++ e :: (rest ++ fs) := by
    rw [hrun]
    simp
  have hfrom : run (backendStep P) ops st = es ++ d :: (as ++ (e :: (rest ++ fs))) := by
    rw [hrun]
    simp
  -- what an event of `as` leaves is what a later event of the stretch finds
  obtain ⟨_, _, -, -, hrest⟩ := run_eq_append _ hfrom
  obtain ⟨-, -, ops', hrest⟩ := run_eq_cons _ hrest.symm
  have hlive : ∀ x ∈ as, (slotAt x.after (.scp03 s)).isSome := by
    intro x hx
    obtain ⟨y, hy, heq⟩ := after_eq_before _ hrest.symm x hx
    rw [heq]
    refine h.alive y ?_
    rcases List.mem_append.mp hy with hy | hy
    · exact List.mem_append_left _ hy
    · rw [List.mem_singleton.mp hy]
      exact List.mem_append_right _ List.mem_cons_self
  have htracks := slotTracks_since_open P hfrom hopen hlive
  have hbefore := (before_eq_final _ hsplit).1
  rw [final_append] at hbefore
  obtain ⟨slot, hslot, htracks⟩ := (slotTracks_scp03 P).mp htracks
  refine ⟨slot, ?_, htracks⟩
  rw [hbefore]
  exact hslot

/-- The counter before an event: the number of commands after the first. -/
theorem Lives.counter [RngCore ρ] {s : Scp03Session} {as rest : List (BackendEvent ρ)}
    {e : BackendEvent ρ} (h : Lives P s (as ++ e :: rest)) {slot : Scp03SessionSlot}
    (hslot : e.before.sessions.get s.index.toNat = some slot) :
    slot.counter.toNat = sent s as - 1 ∧ (slot.authed = true → 0 < sent s as) := by
  obtain ⟨slot', hslot', htracks⟩ := h.tracks
  obtain rfl := Option.some.inj (hslot.symm.trans hslot')
  refine ⟨htracks.counter, fun hauth => ?_⟩
  rw [htracks.authed] at hauth
  exact List.length_pos_iff.mpr (by simpa using hauth)

/-- The block of a command is that of its number. -/
theorem Lives.commandIcv [RngCore ρ] {s : Scp03Session} {as rest : List (BackendEvent ρ)}
    {e : BackendEvent ρ} (h : Lives P s (as ++ e :: rest)) {b : Block 16}
    (hb : commandIcv s e = some b) :
    ∃ counter : UInt32, counter.toNat = sent s as ∧ b = counterBlock counter false := by
  obtain ⟨-, -, slot, counter, -, -, hslot, hauth, -, -, hcounter, rfl⟩ := commandIcv_eq_some hb
  obtain ⟨hcount, hpos⟩ := h.counter hslot
  have := hpos hauth
  have := checkedSucc_eq_some hcounter
  exact ⟨counter, by omega, rfl⟩

/-- The block of a response is that of the number of commands after the first. -/
theorem Lives.responseIcv [RngCore ρ] {s : Scp03Session} {as rest : List (BackendEvent ρ)}
    {e : BackendEvent ρ} (h : Lives P s (as ++ e :: rest)) {b : Block 16}
    (hb : responseIcv s e = some b) :
    ∃ counter : UInt32, counter.toNat = sent s as - 1 ∧ b = counterBlock counter true := by
  obtain ⟨slot, hslot, rfl⟩ := responseIcv_eq_some hb
  exact ⟨slot.counter, (h.counter hslot).1, rfl⟩

/-- Blocks of commands with other commands in between differ: more have gone
    out before the second. -/
theorem Lives.commandIcv_ne [RngCore ρ] {s : Scp03Session} {as mid rest : List (BackendEvent ρ)}
    {e e' : BackendEvent ρ} (h : Lives P s (as ++ e :: (mid ++ e' :: rest))) {b b' : Block 16}
    (hb : IcvUnique.commandIcv s e = some b) (hb' : IcvUnique.commandIcv s e' = some b') :
    b ≠ b' := by
  have h' : Lives P s ((as ++ e :: mid) ++ e' :: rest) := by
    rw [List.append_assoc]
    exact h
  obtain ⟨c, hc, rfl⟩ := h.commandIcv hb
  obtain ⟨c', hc', rfl⟩ := h'.commandIcv hb'
  rw [sent_append, sent_cons_of_sends (sends_of_commandIcv hb)] at hc'
  intro heq
  obtain ⟨rfl, -⟩ := counterBlock_inj heq
  omega

/-! ### One wrap -/

/-- What a command that went out says about the call. -/
theorem op_of_sends {s : Scp03Session} {e : BackendEvent ρ} (h : Sends s e) :
    ∃ capdu wire, e.op = .session (.wrap (.scp03 s) capdu) ∧ e.out = .session (.octets wire) := by
  unfold Sends wrapOf at h
  split at h
  · next h' capdu wire hop hout =>
    split at h
    · next heq =>
      subst heq
      exact ⟨capdu, wire, hop, hout⟩
    · cases h
  · cases h

/-- The body of a command that goes out is the encryption of the data under the
    ICV of its block, or the data themselves when it has none. -/
theorem wire_of_sends [RngCore ρ] {s : Scp03Session} {e : BackendEvent ρ}
    (hstep : IsStep (backendStep P) e) (h : Sends s e) :
    ∃ capdu wire slot header tail, e.op = .session (.wrap (.scp03 s) capdu) ∧
      e.out = .session (.octets wire) ∧ e.before.sessions.get s.index.toNat = some slot ∧
      header.length = 5 ∧
      wire = header ++ (match IcvUnique.commandIcv s e with
        | some b => encryptOctets (P.aes slot.sEnc.val) (P.aes slot.sEnc.val b)
            (pad 16 (Capdu.data capdu))
        | none => Capdu.data capdu) ++ tail := by
  obtain ⟨op, st, out, st'⟩ := e
  obtain ⟨capdu, wire, rfl, rfl⟩ : ∃ capdu wire, op = .session (.wrap (.scp03 s) capdu) ∧
      out = .session (.octets wire) := op_of_sends h
  have hout : (sessionStep P (.wrap (.scp03 s) capdu) st).1 = .octets wire :=
    BackendResult.session.inj (congrArg Prod.fst hstep)
  rcases scp03WrapCommand_cases P s capdu st with
    ⟨e, he⟩ | ⟨cla, ins, p1, p2, rest, slot, wire', slot', rfl, hslot, hwrap, hok⟩
  · simp only [sessionStep, he, SessionResult.ofExcept] at hout
    cases hout
  · simp only [sessionStep, hok, SessionResult.ofExcept] at hout
    obtain rfl := SessionResult.octets.inj hout
    obtain ⟨data, le, body, counter, level, lc, hdata, hbody, -, -, hwire, -⟩ :=
      wrapSlot_ok P hwrap
    have hcapdu : Capdu.data (cla :: ins :: p1 :: p2 :: rest) = data := data_of_commandData hdata
    refine ⟨_, _, slot, [secureCla cla, ins, p1, p2, lc],
      (commandMac P slot [secureCla cla, ins, p1, p2, lc] body).val.take slot.mode.macLen ++ le,
      rfl, rfl, hslot, rfl, ?_⟩
    rw [hwire, List.append_assoc]
    refine congrArg (· ++ _) (congrArg ([secureCla cla, ins, p1, p2, lc] ++ ·) ?_)
    unfold IcvUnique.commandIcv
    simp only [hslot, hcapdu, true_and]
    rcases commandBody_ok P (length_commandData hdata) hbody with
      ⟨hauth, -, rfl, -⟩ | ⟨hauth, hcount, -, rfl⟩
    · -- EXTERNAL AUTHENTICATE goes out as it is
      simp [hauth]
    · -- past the authentication the counter moves first, and the block is that of
      -- the new value
      have hsucc : checkedSucc slot.counter = some counter := by
        have hlt := counter.toNat_lt
        unfold checkedSucc
        rw [if_pos (by omega)]
        refine congrArg some (UInt32.toNat_inj.mp ?_)
        rw [UInt32.toNat_add, hcount]
        exact Nat.mod_eq_of_lt (by rw [UInt32.toNat_one]; omega)
      by_cases henc : slot.level &&& SL_CENC ≠ 0 ∧ data ≠ []
      · rw [if_pos henc, if_pos ⟨hauth, henc⟩, hsucc]
        rfl
      · rw [if_neg henc, if_neg (fun hall => henc hall.2)]

/-- With the counter at its end no command goes out. -/
theorem failed_of_exhausted [RngCore ρ] {s : Scp03Session} {e : BackendEvent ρ}
    (hstep : IsStep (backendStep P) e) {capdu : List UInt8} {slot : Scp03SessionSlot}
    (hop : e.op = .session (.wrap (.scp03 s) capdu))
    (hslot : e.before.sessions.get s.index.toNat = some slot) (hauth : slot.authed = true)
    (hend : slot.counter.toNat + 1 = 2 ^ 32) : ∃ err, e.out = .session (.failed err) := by
  obtain ⟨op, st, out, st'⟩ := e
  obtain rfl : (backendStep P op st).1 = out := congrArg Prod.fst hstep
  dsimp only at hop hslot
  subst hop
  rcases scp03WrapCommand_cases P s capdu st with
    ⟨e, he⟩ | ⟨cla, ins, p1, p2, rest, slot', wire, after, rfl, hslot', hwrap, -⟩
  · refine ⟨e, ?_⟩
    simp only [backendStep, sessionStep, he, SessionResult.ofExcept]
  · obtain rfl := Option.some.inj (hslot.symm.trans hslot')
    obtain ⟨data, le, body, counter, level, lc, hdata, hbody, -⟩ := wrapSlot_ok P hwrap
    rcases commandBody_ok P (length_commandData hdata) hbody with ⟨hno, -⟩ | ⟨-, hcount, -⟩
    · rw [hauth] at hno
      cases hno
    · -- a wrap that succeeds has moved the counter past its end
      have := counter.toNat_lt
      omega

/-! ### The law -/

variable (P)

/-- The counter blocks of a stretch of a session. -/
structure IcvLaw (s : Scp03Session) (bs : List (BackendEvent ρ)) : Prop where
  /-- No two commands share a block. -/
  commands : (bs.filterMap (commandIcv s)).Nodup
  /-- No block of a command is one of a response. -/
  directions : ∀ b ∈ bs.filterMap (commandIcv s), b ∉ bs.filterMap (responseIcv s)
  /-- A response has the counter of the last command before it. -/
  paired : ∀ as c mid u rest b, bs = as ++ c :: (mid ++ u :: rest) → Sends s c →
    (∀ e ∈ mid, ¬ Sends s e) → responseIcv s u = some b →
    ∃ counter : UInt32, counter.toNat = sent s as ∧ b = counterBlock counter true ∧
      ∀ b', commandIcv s c = some b' → b' = counterBlock counter false
  /-- The blocks are the ones the ICVs of the commands that go out come from. -/
  encrypted : ∀ e ∈ bs, Sends s e →
    ∃ capdu wire slot header tail, e.op = .session (.wrap (.scp03 s) capdu) ∧
      e.out = .session (.octets wire) ∧ e.before.sessions.get s.index.toNat = some slot ∧
      header.length = 5 ∧
      wire = header ++ (match commandIcv s e with
        | some b => encryptOctets (P.aes slot.sEnc.val) (P.aes slot.sEnc.val b)
            (pad 16 (Capdu.data capdu))
        | none => Capdu.data capdu) ++ tail
  /-- And those of the responses. -/
  decrypted : ∀ e ∈ bs, ∀ b, responseIcv s e = some b →
    ∃ slot, e.before.sessions.get s.index.toNat = some slot ∧
      ∀ data : List UInt8, 16 ∣ data.length → data.length ≤ RAPDU_MAX →
        decryptResponse P slot data =
          okOr (unpad (decryptOctets (P.aes slot.sEnc.val) (P.aes slot.sEnc.val b) data))
            (cryptoErr "bad pad")
  /-- The counter goes up by one with every command after the first, and does
      not move otherwise. -/
  counts : ∀ e ∈ bs, ∀ slot slot', e.before.sessions.get s.index.toNat = some slot →
    e.after.sessions.get s.index.toNat = some slot' →
    (Sends s e → slot.authed = true → slot'.counter.toNat = slot.counter.toNat + 1) ∧
      (¬ (Sends s e ∧ slot.authed = true) → slot'.counter.toNat = slot.counter.toNat)
  /-- At its end no command goes out any more. -/
  exhausted : ∀ e ∈ bs, ∀ capdu slot, e.op = .session (.wrap (.scp03 s) capdu) →
    e.before.sessions.get s.index.toNat = some slot → slot.authed = true →
    slot.counter.toNat + 1 = 2 ^ 32 → ∃ err, e.out = .session (.failed err)
  /-- A wrap that fails changes nothing. -/
  failed : ∀ e ∈ bs, ∀ capdu err, e.op = .session (.wrap (.scp03 s) capdu) →
    e.out = .session (.failed err) → e.after = e.before

variable {P}

/-- The counter after an event, when the session is still alive. -/
theorem Lives.counts [RngCore ρ] {s : Scp03Session} {as rest : List (BackendEvent ρ)}
    {e : BackendEvent ρ} (h : Lives P s (as ++ e :: rest)) {slot slot' : Scp03SessionSlot}
    (hslot : e.before.sessions.get s.index.toNat = some slot)
    (hslot' : e.after.sessions.get s.index.toNat = some slot') :
    (Sends s e → slot.authed = true → slot'.counter.toNat = slot.counter.toNat + 1) ∧
      (¬ (Sends s e ∧ slot.authed = true) → slot'.counter.toNat = slot.counter.toNat) := by
  have hstep : IsStep (backendStep P) e := h.isStep (by simp)
  obtain ⟨hcount, hpos⟩ := h.counter hslot
  obtain ⟨slot₀, hslot₀, htracks⟩ := h.tracks
  obtain rfl := Option.some.inj (hslot.symm.trans hslot₀)
  obtain ⟨op, st, out, st'⟩ := e
  obtain rfl : (backendStep P op st).1 = out := congrArg Prod.fst hstep
  obtain rfl : (backendStep P op st).2 = st' := congrArg Prod.snd hstep
  dsimp only at hslot hslot' hslot₀
  have hlive : (slotAt (backendStep P op st).2 (.scp03 s)).isSome := by
    unfold slotAt
    dsimp only
    rw [hslot']
    rfl
  obtain ⟨slot₁, hslot₁, hafter⟩ := (slotTracks_scp03 P).mp
    (((slotTracks_scp03 P).mpr ⟨slot, hslot, htracks⟩).step P hlive)
  obtain rfl := Option.some.inj (hslot'.symm.trans hslot₁)
  have hcount' := hafter.counter
  rw [List.length_append] at hcount'
  change slot'.counter.toNat = sent s as + _ - 1 at hcount'
  have hauthed : slot.authed = true ↔ 0 < sent s as := by
    rw [htracks.authed, sent, List.length_pos_iff]
    simp
  -- the slot after the event tracks one command more if this one went out
  cases hsent : wrapOf (.scp03 s) op (backendStep P op st).1 with
  | none =>
    rw [hsent, Option.toList_none, List.length_nil] at hcount'
    refine ⟨fun hsends => ?_, fun _ => by omega⟩
    simp [Sends, hsent] at hsends
  | some w =>
    rw [hsent, Option.toList_some, List.length_singleton] at hcount'
    have hsends : Sends s ⟨op, st, (backendStep P op st).1, (backendStep P op st).2⟩ := by
      simp [Sends, hsent]
    refine ⟨fun _ hauth => ?_, fun hnot => ?_⟩
    · have := hauthed.mp hauth
      omega
    · have : ¬ 0 < sent s as := fun hlt => hnot ⟨hsends, hauthed.mpr hlt⟩
      omega

/-- In every run of backend calls, over any session from its derivation for as
    long as it is alive: the blocks of its commands are all different, and
    different from those of its responses; a response has the counter of the
    command it follows; and the counter counts, and stops at its end. -/
theorem icv_blocks_unique [RngCore ρ] {s : Scp03Session} {bs : List (BackendEvent ρ)}
    (h : Lives P s bs) : IcvLaw P s bs := by
  refine ⟨?_, ?_, ?_, fun e he => wire_of_sends (h.isStep he), ?_, ?_,
    fun e he capdu slot => failed_of_exhausted (h.isStep he), ?_⟩
  · unfold List.Nodup
    rw [List.pairwise_filterMap, List.pairwise_iff_forall_sublist]
    intro e e' hsub b hb b' hb'
    obtain ⟨front, back, rfl, he, hback⟩ := List.cons_sublist_iff.mp hsub
    -- the two events, and what lies between them in the stretch
    obtain ⟨as, mid, rfl⟩ := List.append_of_mem he
    obtain ⟨mid', rest, rfl⟩ := List.append_of_mem (List.singleton_sublist.mp hback)
    have hsplit : Lives P s (as ++ e :: ((mid ++ mid') ++ e' :: rest)) := by
      simpa using h
    exact hsplit.commandIcv_ne hb hb'
  · intro b hb hb'
    obtain ⟨e, he, hb⟩ := List.mem_filterMap.mp hb
    obtain ⟨e', he', hb'⟩ := List.mem_filterMap.mp hb'
    obtain ⟨_, _, _, _, -, -, -, -, -, -, -, hcommand⟩ := commandIcv_eq_some hb
    obtain ⟨_, -, hresponse⟩ := responseIcv_eq_some hb'
    -- the marks differ
    cases (counterBlock_inj (hcommand.symm.trans hresponse)).2
  · intro as c mid u rest b hsplit hsends hmid hb
    subst hsplit
    have h' : Lives P s ((as ++ c :: mid) ++ u :: rest) := by
      rw [List.append_assoc]
      exact h
    obtain ⟨counter, hcounter, rfl⟩ := h'.responseIcv hb
    -- nothing went out since `c`, so the counter is still that of `c`
    rw [sent_append, sent_cons_of_sends hsends, sent_eq_zero hmid] at hcounter
    refine ⟨counter, by omega, rfl, fun b' hb' => ?_⟩
    obtain ⟨counter', hcounter', rfl⟩ := h.commandIcv hb'
    rw [UInt32.toNat_inj.mp (show counter'.toNat = counter.toNat by omega)]
  · intro e he b hb
    obtain ⟨slot, hslot, rfl⟩ := responseIcv_eq_some hb
    exact ⟨slot, hslot, fun data hdvd hmax => decryptResponse_eq P hdvd hmax⟩
  · intro e he slot slot' hslot hslot'
    obtain ⟨as, rest, rfl⟩ := List.append_of_mem he
    exact h.counts hslot hslot'
  · intro e he capdu err
    exact (isolated_of_isStep P (h.isStep he)).failedWrap (.scp03 s) capdu err

/-- Authenticate a session with command encryption, and send two commands. -/
def openAndSend : List BackendOp :=
  [.session (Handles.deriveOp 1),
    .session (.wrap Handles.firstHandle ([0x84, 0x82, 0x03, 0x00, 0x08] ++ List.replicate 8 0x11)),
    .session (.wrap Handles.firstHandle [0x80, 0xE4, 0x00, 0x00, 0x02, 0x4F, 0x00]),
    .session (.wrap Handles.firstHandle [0x80, 0xE4, 0x00, 0x00, 0x02, 0x4F, 0x01])]

theorem icv_blocks_unique_open_and_send :
    ∃ d e₁ e₂ e₃, run (backendStep Primitives.xorCipher) openAndSend Handles.keyedBackend =
        [d, e₁, e₂, e₃] ∧ ∃ s, Handles.firstHandle = .scp03 s ∧
      IcvLaw Primitives.xorCipher s [e₁, e₂, e₃] ∧
      [e₁, e₂, e₃].filterMap (commandIcv s) = [counterBlock 1 false, counterBlock 2 false] := by
  have hopen : (sessionStep Primitives.xorCipher (Handles.deriveOp 1) Handles.keyedBackend).1 =
      .opened Handles.firstHandle := by decide +kernel
  refine ⟨_, _, _, _, rfl, _, rfl, icv_blocks_unique ⟨⟨openAndSend, Handles.keyedBackend, [], [],
    _, rfl, congrArg BackendResult.session hopen⟩, ?_⟩, ?_⟩
  · simp only [List.forall_mem_cons, List.not_mem_nil, false_implies, implies_true, and_true]
    refine ⟨?_, ?_, ?_⟩ <;> decide +kernel
  · decide +kernel

end IcvUnique

end Scll

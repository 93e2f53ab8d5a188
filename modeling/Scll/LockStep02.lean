import Scll.Framework.LockStep
import Scll.Card.Scp02
import Scll.Backend.Scp02Spec

/-! # SCP02 in lock step with the reference card

    Two chains run through a session. The C-MAC chain moves with every command
    and the R-MAC chain with every response; the latter also covers the command
    last received, so between a command and its response the host's accumulated
    command has to be the card's.
-/

namespace Scll

open Octets BlockMode

variable (P : Primitives) {ρ : Type}

namespace LockStep02

/-! ### The simulation relation -/

/-- Host slot and card agree on keys, both chains, level and state. -/
structure InStep (slot : Scp02SessionSlot) (card : Scp02Card) : Prop where
  sEnc : slot.sEnc = card.sEnc
  sMac : slot.sMac = card.sMac
  sRmac : slot.sRmac = card.sRmac
  /-- The C-MAC chain: the host keeps the raw C-MAC, as the card does. -/
  icv : card.lastMac = if slot.icvValid then some slot.icv else none
  ricv : slot.ricv = card.ricv
  level : slot.level = card.level
  opened : slot.authed = card.opened
  /-- An open channel has C-MAC. -/
  cmac : card.opened = true → card.level &&& 0x01 ≠ 0

/-- The command both ends will put under the next R-MAC. -/
def SameCommand (slot : Scp02SessionSlot) (card : Scp02Card) : Prop :=
  slot.level &&& Scp02.SL_RMAC ≠ 0 →
    slot.rmacBuf = card.command ∧ slot.rmacBuf.length ≤ CAPDU_MAX

theorem icvBlock_eq {slot : Scp02SessionSlot} {card : Scp02Card} (h : InStep slot card) :
    Scp02.icvBlock P slot = card.icv P := by
  unfold Scp02.icvBlock Scp02Card.icv
  rw [h.icv, h.sMac]
  split <;> rfl

theorem commandMac_eq {slot : Scp02SessionSlot} {card : Scp02Card} (h : InStep slot card)
    (cla ins p1 p2 : UInt8) (data : List UInt8) :
    Scp02.commandMac P slot cla ins p1 p2 data = card.cmac P (secureCla cla) ins p1 p2 data := by
  rw [Scp02.commandMac, Scp02Card.cmac, icvBlock_eq P h, h.sMac]

/-! ### One command -/

/-- The card gets the data back out of the transmitted body. -/
theorem plain_wireBody {slot : Scp02SessionSlot} {card : Scp02Card} (h : InStep slot card)
    (data : List UInt8) : card.plain P (Scp02.wireBody P slot data) = some data := by
  have hdvd := dvd_length_pad (show 0 < 8 by decide) data
  have hlen := length_encryptOctets (P.tdesEde2 slot.sEnc.val) (Block.zero 8) hdvd
  have hcdec : slot.level &&& Scp02.SL_CDEC = card.level &&& 0x02 := by rw [h.level, Scp02.SL_CDEC]
  unfold Scp02Card.plain Scp02.wireBody
  rw [hcdec, h.opened]
  by_cases henc : card.opened = true ∧ card.level &&& 0x02 ≠ 0 ∧ data ≠ []
  · have hne : Scp02.commandCipher P slot data ≠ [] := by
      rw [← List.length_pos_iff, Scp02.commandCipher, hlen]
      simp [pad]
    have hmod : (Scp02.commandCipher P slot data).length % 8 = 0 := by
      rw [Scp02.commandCipher, hlen]
      exact Nat.mod_eq_zero_of_dvd hdvd
    rw [if_pos henc, if_pos ⟨henc.1, henc.2.1, hne⟩, if_pos hmod, ← h.sEnc, Scp02.commandCipher,
      decryptOctets_encryptOctets _ _ hdvd, unpad_pad]
  · rw [if_neg henc, if_neg henc]

theorem secureCla_strip (cla : UInt8) : secureCla cla &&& ~~~0x07 = cla &&& ~~~0x07 := by
  have h : ∀ n : Fin 256, secureCla (UInt8.ofFin n) &&& ~~~0x07 = UInt8.ofFin n &&& ~~~0x07 := by
    decide +kernel
  exact h cla.toFin

/-- The card takes a wrapped command apart as the host put it together. -/
theorem receive_append {card : Scp02Card} {cla ins p1 p2 lc : UInt8} {body data : List UInt8}
    (hplain : card.plain P body = some data) (hlc : lc.toNat = body.length + 8) :
    card.receive P ([secureCla cla, ins, p1, p2, lc] ++ body ++
        (card.cmac P (secureCla cla) ins p1 p2 data).val) =
      (card.accept (secureCla cla) ins p1 p2 data
        (card.cmac P (secureCla cla) ins p1 p2 data)).map
          fun card' => (⟨ins, p1, p2, data⟩, card') := by
  have hmaclen := (card.cmac P (secureCla cla) ins p1 p2 data).property
  have hfield : (body ++ (card.cmac P (secureCla cla) ins p1 p2 data).val).take lc.toNat =
      body ++ (card.cmac P (secureCla cla) ins p1 p2 data).val := by
    apply List.take_of_length_le
    rw [List.length_append, hmaclen, hlc]
  have hlen : (body ++ (card.cmac P (secureCla cla) ins p1 p2 data).val).length =
      body.length + 8 := by
    rw [List.length_append, hmaclen]
  have hsub : body.length + 8 - 8 = body.length := by omega
  simp only [List.cons_append, List.nil_append, Scp02Card.receive]
  simp only [hfield, hlen, hsub, List.take_left, List.drop_left, hplain]
  rw [if_neg (secureCla_and cla), if_neg (by rw [hlc]; omega), if_neg (not_not.mpr rfl)]

/-- One wrapped command: the card accepts it and recovers its plaintext, and
    the two sides agree on the command their next R-MAC will cover. -/
theorem receive_wrapSlot {slot slot' : Scp02SessionSlot} {card : Scp02Card}
    {cla ins p1 p2 : UInt8} {rest data le wire : List UInt8} (hstep : InStep slot card)
    (hlevel : slot.authed = false → p1 &&& 0x01 ≠ 0)
    (hdata : commandData rest = .ok (data, le))
    (hwrap : Scp02.wrapSlot P slot cla ins p1 p2 rest = .ok (wire, slot')) :
    ∃ card', card.receive P wire = some (⟨ins, p1, p2, data⟩, card') ∧ slot'.authed = true ∧
      InStep slot' card' ∧ (slot.authed = true → SameCommand slot' card') := by
  obtain ⟨data', le', lc, hdata', hfirst, hmax, hlc, hwire, hslot⟩ := Scp02.wrapSlot_ok P hwrap
  obtain ⟨rfl, rfl⟩ := Prod.mk.inj (Except.ok.inj (hdata'.symm.trans hdata))
  rw [commandMac_eq P hstep] at hwire hslot
  rw [hwire, receive_append P (plain_wireBody P hstep data') hlc, hslot]
  obtain ⟨hsEnc, hsMac, hsRmac, hicv, hricv, hlev, hopen, hcmac⟩ := hstep
  unfold Scp02Card.accept Scp02.commit
  by_cases hauth : slot.authed = true
  · have hopened : card.opened = true := hopen ▸ hauth
    simp only [if_pos hopened, if_neg (hcmac hopened), if_pos hauth]
    refine ⟨_, rfl, trivial, ⟨hsEnc, hsMac, hsRmac, rfl, hricv, hlev, hopened.symm, hcmac⟩, ?_⟩
    intro _ hrmac
    have hshort := length_commandData hdata
    have hcap : CAPDU_MAX = 261 := rfl
    have hbuf : Scp02.rmacCommand cla ins p1 p2 data' = _ :=
      Scp02.rmacCommand_eq hshort
    simp only at hrmac ⊢
    rw [if_pos ⟨hauth, hrmac⟩, hbuf, secureCla_strip]
    refine ⟨rfl, ?_⟩
    simp only [List.length_append, List.length_cons, List.length_nil]
    omega
  · -- EXTERNAL AUTHENTICATE latches the level and seeds the R-MAC chain
    have hauth' : slot.authed = false := Bool.eq_false_iff.mpr hauth
    have hopened : ¬ card.opened = true := by rw [← hopen]; exact hauth
    have hins : ins = 0x82 := hfirst hauth'
    simp only [if_neg hopened, if_pos hins, if_neg hauth]
    refine ⟨_, rfl, trivial, ⟨hsEnc, hsMac, hsRmac, rfl, rfl, rfl, rfl, fun _ => hlevel hauth'⟩, ?_⟩
    intro h
    exact absurd h hauth

/-! ### One response -/

/-- The host's slot once the response is in. -/
def afterResponse (slot : Scp02SessionSlot) (ricv : Block 8) : Scp02SessionSlot :=
  { slot with ricv := ricv, rmacBuf := [] }

/-- One response: the host accepts the R-MAC, delivers data and status word,
    and the R-MAC chains stay equal. -/
theorem unwrapSlot_respond {slot : Scp02SessionSlot} {card : Scp02Card} (hstep : InStep slot card)
    (hauth : slot.authed = true) (hcommand : SameCommand slot card) (r : Scp02Reply)
    (hfits : (card.respondBody P r).1.length ≤ 256) :
    ∃ ricv, Scp02.unwrapSlot P slot ((card.respondBody P r).1 ++ r.sw) =
        .deliver (r.data ++ r.sw) ricv ∧
      InStep (afterResponse slot ricv) (card.respondBody P r).2 := by
  have hrapdu : RAPDU_MAX = 258 := rfl
  have hbufmax : Scp02.RMAC_BUF_MAX = 519 := rfl
  have hcap : CAPDU_MAX = 261 := rfl
  have hsw : r.sw = [r.sw1, r.sw2] := rfl
  have hlen : ¬ ((card.respondBody P r).1 ++ r.sw).length < 2 := by simp [hsw]
  have hrmacbit : slot.level &&& Scp02.SL_RMAC = card.level &&& 0x10 := by
    rw [hstep.level, Scp02.SL_RMAC]
  rw [Scp02.unwrapSlot, if_neg (not_not.mpr hauth), if_neg hlen, hrmacbit]
  -- with R-MAC both sides take the MAC as the next chaining value; without, nothing changes
  by_cases hrmac : card.level &&& 0x10 ≠ 0
  · have hbody : card.respondBody P r = (r.data ++ (card.rmac P r).val,
        { card with ricv := card.rmac P r }) := if_pos hrmac
    rw [hbody] at hfits ⊢
    obtain ⟨hbuf, hbuflen⟩ := hcommand (hrmacbit ▸ hrmac)
    have hmac : card.rmac P r = Scp02.responseMac P slot r.data [r.sw1, r.sw2] := by
      rw [Scp02Card.rmac, Scp02.responseMac, hstep.sRmac, hstep.ricv, hbuf, hsw]
    simp only [List.length_append] at hfits
    have hok : Scp02.unwrapRmac P slot ((r.data ++ (card.rmac P r).val) ++ [r.sw1, r.sw2]) =
        .ok (r.data ++ [r.sw1, r.sw2], card.rmac P r) := by
      refine (Scp02.unwrapRmac_eq_ok P).mpr ⟨r.data, rfl, hmac, rfl, ?_, ?_⟩
      · omega
      · simp only [List.length_append, List.length_cons, List.length_nil]
        omega
    refine ⟨card.rmac P r, ?_, ?_⟩
    · rw [if_pos hrmac, hsw]
      simp only [hok]
    · exact ⟨hstep.sEnc, hstep.sMac, hstep.sRmac, hstep.icv, rfl, hstep.level, hstep.opened,
        hstep.cmac⟩
  · have hbody : card.respondBody P r = (r.data, card) := if_neg hrmac
    rw [hbody] at hfits ⊢
    simp only at hfits
    have hpush : push RAPDU_MAX [] (r.data ++ r.sw) = .ok ([] ++ (r.data ++ r.sw)) :=
      push_of_fits (by simp only [List.length_append, List.length_nil, hsw, List.length_cons]; omega)
    refine ⟨slot.ricv, ?_, ?_⟩
    · rw [if_neg hrmac]
      simp only [hpush, List.nil_append]
    · exact ⟨hstep.sEnc, hstep.sMac, hstep.sRmac, hstep.icv, hstep.ricv, hstep.level,
        hstep.opened, hstep.cmac⟩

/-! ### Whole sessions -/

/-- The SCP02 channel. A reply has to fit a response body. -/
def apduChannel (s : Scp02Session) : Channel (BackendState ρ) Scp02Card (List UInt8) Command
    Scp02Reply (List UInt8) (Except BackendError (List UInt8)) where
  wrap capdu st :=
    match scp02WrapCommand P s capdu st with
    | (.ok wire, st) => some (wire, st)
    | (.error _, _) => none
  receive wire card := card.receive P wire
  respond r card :=
    if (card.respondBody P r).1.length > 256 then none
    else some ((card.respondBody P r).1 ++ r.sw, (card.respondBody P r).2)
  unwrap wire st := scp02UnwrapResponse P s wire st

/-- The channel for commands that have a plaintext. -/
def scp02Channel (s : Scp02Session) : Channel (BackendState ρ) Scp02Card PlainCommand Command
    Scp02Reply (List UInt8) (Except BackendError (List UInt8)) :=
  (apduChannel P s).comap PlainCommand.encode

/-- The handle's slot is authenticated, and in step with the card. -/
def Agree (s : Scp02Session) (st : BackendState ρ) (card : Scp02Card) : Prop :=
  ∃ slot, st.scp02Sessions.get s.index.toNat = some slot ∧ slot.authed = true ∧ InStep slot card

/-- Between a command and its response, the two ends also hold the same command. -/
def Pending (s : Scp02Session) (st : BackendState ρ) (card : Scp02Card) : Prop :=
  ∃ slot, st.scp02Sessions.get s.index.toNat = some slot ∧ slot.authed = true ∧
    InStep slot card ∧ SameCommand slot card

/-- The handle's slot was just derived, with the card's keys. -/
def Derived (s : Scp02Session) (st : BackendState ρ) (card : Scp02Card) : Prop :=
  ∃ sEnc sMac sRmac sDek, card = .fresh sEnc sMac sRmac ∧
    st.scp02Sessions.get s.index.toNat = some (Scp02.fresh sEnc sMac sRmac sDek)

theorem fresh_inStep (sEnc sMac sRmac sDek : TdesKey) :
    InStep (Scp02.fresh sEnc sMac sRmac sDek) (.fresh sEnc sMac sRmac) :=
  ⟨rfl, rfl, rfl, rfl, rfl, rfl, rfl, fun h => by cases h⟩

/-- A command over the backend state. -/
theorem wrap_step {s : Scp02Session} {c : PlainCommand} {st st' : BackendState ρ}
    {card : Scp02Card} {slot : Scp02SessionSlot} {wire : List UInt8}
    (hslot : st.scp02Sessions.get s.index.toNat = some slot) (hstep : InStep slot card)
    (hlevel : slot.authed = false → c.p1 &&& 0x01 ≠ 0)
    (h : (scp02Channel P s).wrap c st = some (wire, st')) :
    ∃ card', card.receive P wire = some (c.command, card') ∧ Agree s st' card' ∧
      (slot.authed = true → Pending s st' card') := by
  simp only [scp02Channel, Channel.comap, apduChannel] at h
  rcases scp02WrapCommand_cases P s c.encode st with
    ⟨e, he⟩ | ⟨cla, ins, p1, p2, rest, slot₀, out, slot', henc, hslot₀, hwrap, hok⟩
  · rw [he] at h
    cases h
  · obtain ⟨rfl, rfl, rfl, rfl, rfl⟩ : c.cla = cla ∧ c.ins = ins ∧ c.p1 = p1 ∧ c.p2 = p2 ∧
        c.tail = rest := by simpa [PlainCommand.encode] using henc
    obtain rfl := Option.some.inj (hslot.symm.trans hslot₀)
    obtain ⟨card', hreceive, hauth, hstep', hsame⟩ :=
      receive_wrapSlot P hstep hlevel c.commandData_tail hwrap
    rw [hok] at h
    obtain ⟨rfl, rfl⟩ := Prod.mk.inj (Option.some.inj h)
    have hslot' : (st.scp02Sessions.set s.index.toNat (some slot')).get s.index.toNat =
        some slot' := SlotTable.get_set_self (SlotTable.lt_of_get hslot) _
    exact ⟨card', hreceive, ⟨slot', hslot', hauth, hstep'⟩,
      fun hopen => ⟨slot', hslot', hauth, hstep', hsame hopen⟩⟩

/-- A response over the backend state. -/
theorem unwrap_step {s : Scp02Session} {r : Scp02Reply} {st : BackendState ρ} {card : Scp02Card}
    (h : Pending s st card) (hfits : ¬ (card.respondBody P r).1.length > 256) :
    ∃ st', scp02UnwrapResponse P s ((card.respondBody P r).1 ++ r.sw) st =
        (.ok (r.data ++ r.sw), st') ∧ Agree s st' (card.respondBody P r).2 := by
  obtain ⟨slot, hslot, hauth, hstep, hsame⟩ := h
  obtain ⟨ricv, hdeliver, hnext⟩ := unwrapSlot_respond P hstep hauth hsame r (by omega)
  refine ⟨{ st with scp02Sessions :=
    st.scp02Sessions.set s.index.toNat (some (afterResponse slot ricv)) }, ?_, ?_⟩
  · rw [scp02UnwrapResponse, hslot]
    simp only [hdeliver]
    rfl
  · exact ⟨afterResponse slot ricv, SlotTable.get_set_self (SlotTable.lt_of_get hslot) _, hauth,
      hnext⟩

/-- The SCP02 channel keeps its ends in step. -/
def simulation (s : Scp02Session) (ea : PlainCommand) (hlevel : ea.p1 &&& 0x01 ≠ 0) :
    (scp02Channel (ρ := ρ) P s).Simulation PlainCommand.command
      (fun r => .ok (r.data ++ r.sw)) ea where
  fresh := Derived s
  ready := Agree s
  pending := Pending s
  open_step := by
    rintro st st' card wire ⟨sEnc, sMac, sRmac, sDek, rfl, hslot⟩ hwrap
    obtain ⟨card', hreceive, hagree, -⟩ :=
      wrap_step P hslot (fresh_inStep sEnc sMac sRmac sDek) (fun _ => hlevel) hwrap
    exact ⟨card', hreceive, hagree⟩
  send_step := by
    rintro c st st' card wire ⟨slot, hslot, hauth, hstep⟩ hwrap
    obtain ⟨card', hreceive, -, hpending⟩ :=
      wrap_step P hslot hstep (fun hf => absurd hauth (by rw [hf]; decide)) hwrap
    exact ⟨card', hreceive, hpending hauth⟩
  answer_step := by
    intro r st card card' wire h hrespond
    simp only [scp02Channel, Channel.comap, apduChannel] at hrespond ⊢
    split at hrespond
    · cases hrespond
    · next hfits =>
      obtain ⟨rfl, rfl⟩ := Prod.mk.inj (Option.some.inj hrespond)
      exact unwrap_step P h hfits

/-- The security levels SCP02 has. -/
def IsLevel (level : UInt8) : Prop :=
  level = 0x01 ∨ level = 0x03 ∨ level = 0x11 ∨ level = 0x13

theorem IsLevel.cmac {level : UInt8} (h : IsLevel level) : level &&& 0x01 ≠ 0 := by
  rcases h with rfl | rfl | rfl | rfl <;> decide

/-- Lock step: in every session over a freshly derived slot, opened at one of
    the SCP02 levels, the card verifies every C-MAC and recovers the plaintext,
    the host accepts every response and delivers its data and status word, and
    after each exchange both MAC chains are equal at the two ends. -/
theorem scp02_lock_step (s : Scp02Session) (st : BackendState ρ) (card : Scp02Card)
    (ea : PlainCommand) (es : List (PlainCommand × Scp02Reply))
    (rounds : List (Channel.Round (BackendState ρ) Scp02Card PlainCommand Command Scp02Reply
      (Except BackendError (List UInt8))))
    (hfresh : Derived s st card) (hlevel : IsLevel ea.p1)
    (hrun : (scp02Channel P s).session ea es st card = some rounds) :
    rounds.map (fun round => (round.command, round.reply)) =
        (ea, none) :: es.map (fun e => (e.1, some e.2)) ∧
      ∀ round ∈ rounds, round.Faithful PlainCommand.command
        (fun r => .ok (r.data ++ r.sw)) (Agree s) :=
  Channel.session_faithful (simulation P s ea hlevel.cmac) hfresh hrun

/-! ### A run -/

def sampleKey : TdesKey := .sample

/-- A backend whose slot 0 was just derived. -/
def sampleBackend : BackendState Unit :=
  { BackendState.new () with
    scp02Sessions := (SlotTable.empty MAX_SESSION_SLOTS Scp02SessionSlot).set 0
      (some (Scp02.fresh sampleKey sampleKey sampleKey sampleKey)) }

/-- EXTERNAL AUTHENTICATE at level `13`. -/
def sampleEa : PlainCommand := .sampleExternalAuthenticate 0x13

/-- Two commands, one answered with data and one with an error. -/
def sampleExchanges : List (PlainCommand × Scp02Reply) :=
  [(.sampleGetStatus, ⟨[0xE3, 0x00], 0x90, 0x00⟩), (.sampleDelete, ⟨[], 0x6A, 0x88⟩)]

/-- The sample session runs, and its three rounds are faithful. -/
theorem scp02_lock_step_sample :
    ∃ rounds, (scp02Channel Primitives.xorCipher ⟨0⟩).session sampleEa sampleExchanges
        sampleBackend (.fresh sampleKey sampleKey sampleKey) = some rounds ∧
      rounds.length = 3 ∧
      ∀ round ∈ rounds, round.Faithful PlainCommand.command
        (fun r => .ok (r.data ++ r.sw)) (Agree ⟨0⟩) := by
  have hsome : ((scp02Channel Primitives.xorCipher ⟨0⟩).session sampleEa sampleExchanges
      sampleBackend (.fresh sampleKey sampleKey sampleKey)).isSome = true := by
    decide +kernel
  obtain ⟨rounds, hrun⟩ := Option.isSome_iff_exists.mp hsome
  have hfresh : Derived ⟨0⟩ sampleBackend (.fresh sampleKey sampleKey sampleKey) :=
    ⟨sampleKey, sampleKey, sampleKey, sampleKey, rfl, rfl⟩
  obtain ⟨hmap, hall⟩ := scp02_lock_step Primitives.xorCipher ⟨0⟩ sampleBackend _ sampleEa
    sampleExchanges rounds hfresh (.inr (.inr (.inr rfl))) hrun
  refine ⟨rounds, hrun, ?_, hall⟩
  have := congrArg List.length hmap
  simpa [sampleExchanges] using this

end LockStep02

end Scll

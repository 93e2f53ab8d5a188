import Scll.Framework.LockStep
import Scll.Card.Scp03
import Scll.Backend.Scp03Spec

/-! # SCP03 in lock step with the reference card

    The host's slot and the card go through a session side by side. The
    simulation relation `InStep` says that keys, mode, chaining value, counter
    and level agree; one wrapped command preserves it (`receive_wrapSlot`), one
    response is delivered as the card meant it (`unwrapInner_respond`), and a
    whole session follows by induction over its exchanges.
-/

namespace Scll

open Octets BlockMode

variable (P : Primitives) {ρ : Type}

/-! ### The simulation relation -/

/-- Host slot and card agree on everything the channel depends on. -/
structure InStep (slot : Scp03SessionSlot) (card : Scp03Card) : Prop where
  sEnc : slot.sEnc = card.sEnc
  sMac : slot.sMac = card.sMac
  sRmac : slot.sRmac = card.sRmac
  mode : slot.mode = card.mode
  chain : slot.chain = card.chain
  counter : slot.counter.toNat = card.counter
  level : slot.level = card.level
  opened : slot.authed = card.opened
  /-- An open channel has C-MAC. -/
  cmac : card.opened = true → card.level &&& 0x01 ≠ 0

/-- The two counter blocks agree: the host writes four octets where the card
    writes sixteen. -/
theorem counterBlock_eq (counter : UInt32) (response : Bool) :
    counterBlock counter response = Scp03Card.icvBlock counter.toNat response := by
  have hlt : counter.toNat < 256 ^ 4 := counter.toNat_lt
  have hwide : writeBE 16 counter.toNat = List.replicate 12 0 ++ writeBE 4 counter.toNat := by
    have := writeBE_readBE_of_le (w := 16) (writeBE 4 counter.toNat)
      (by rw [length_writeBE]; decide)
    rwa [readBE_writeBE 4 _ hlt, length_writeBE] at this
  apply Subtype.ext
  cases response with
  | true =>
    have hlen : ((0x80 : UInt8) :: (writeBE 16 counter.toNat).tail).length = 16 := by
      simp
    simp only [Scp03Card.icvBlock, if_true, Block.val_ofOctets hlen]
    rw [hwide]
    rfl
  | false =>
    simp only [Scp03Card.icvBlock, Bool.false_eq_true, if_false,
      Block.val_ofOctets (length_writeBE 16 counter.toNat)]
    rw [hwide]
    rfl

/-! ### One command -/

/-- Undoing C-DECRYPTION gives the command data back. -/
theorem decrypt_commandCipher {slot : Scp03SessionSlot} {counter : UInt32} (card : Scp03Card)
    (hkey : slot.sEnc = card.sEnc) (hcounter : counter.toNat = card.counter)
    (data : List UInt8) :
    card.decrypt P (commandCipher P slot counter data) = some data := by
  have hdvd := dvd_length_pad (show 0 < 16 by decide) data
  have hlen : (commandCipher P slot counter data).length % 16 = 0 := by
    rw [commandCipher, length_encryptOctets _ _ hdvd]
    exact Nat.mod_eq_zero_of_dvd hdvd
  rw [Scp03Card.decrypt, if_pos hlen, Scp03Card.icv, ← hcounter, ← counterBlock_eq, ← hkey,
    commandCipher, decryptOctets_encryptOctets _ _ hdvd, unpad_pad]

theorem commandCipher_ne_nil (slot : Scp03SessionSlot) (counter : UInt32) (data : List UInt8) :
    commandCipher P slot counter data ≠ [] := by
  have hdvd := dvd_length_pad (show 0 < 16 by decide) data
  have hlen := length_encryptOctets (P.aes slot.sEnc.val)
    (P.aes slot.sEnc.val (counterBlock counter false)) hdvd
  rw [← List.length_pos_iff, commandCipher, hlen]
  simp [pad]

/-- The card takes a wrapped command apart as the host put it together. -/
theorem receive_append {card : Scp03Card} {cla ins p1 p2 lc : UInt8} {body mac le : List UInt8}
    {full : Block 16} (hfull : full = card.cmac P [secureCla cla, ins, p1, p2, lc] body)
    (hmac : mac = full.val.take card.mode.macLen)
    (hlc : lc.toNat = body.length + card.mode.macLen) :
    card.receive P ([secureCla cla, ins, p1, p2, lc] ++ body ++ mac ++ le) =
      (card.accept P ins p1 body).map fun (data, card') =>
        (⟨ins, p1, p2, data⟩, { card' with chain := full }) := by
  have hmaclen : mac.length = card.mode.macLen := by
    have := card.mode.macLen_le
    rw [hmac, List.length_take, full.property]
    omega
  have hfield : (body ++ mac ++ le).take lc.toNat = body ++ mac := by
    rw [hlc, ← hmaclen, ← List.length_append, List.take_left]
  have hlen : (body ++ mac).length = body.length + card.mode.macLen := by
    rw [List.length_append, hmaclen]
  have hsub : body.length + card.mode.macLen - card.mode.macLen = body.length := by omega
  simp only [List.cons_append, List.nil_append, Scp03Card.receive]
  simp only [hfield, hlen, hsub, List.take_left, List.drop_left, ← hfull]
  rw [if_neg (secureCla_and cla), if_neg (by rw [hlc]; omega), if_neg (not_not.mpr hmac)]

/-- The card accepts the body of a wrapped command, recovers the data and keeps
    counter and level in step; only the chaining value is still to be moved. -/
theorem accept_commandBody {slot : Scp03SessionSlot} {card : Scp03Card} {ins p1 level : UInt8}
    {counter : UInt32} {data body : List UInt8} (hstep : InStep slot card)
    (hlevel : slot.authed = false → p1 &&& 0x01 ≠ 0) (hlen : data.length ≤ 255)
    (hbody : commandBody P slot ins p1 data = .ok (body, counter, level)) (chain : Block 16) :
    ∃ card', card.accept P ins p1 body = some (data, card') ∧
      InStep { slot with chain := chain, counter := counter, level := level, authed := true }
        { card' with chain := chain } := by
  obtain ⟨hsEnc, hsMac, hsRmac, hmode, hchain, hcounter, hlev, hopen, hcmac⟩ := hstep
  unfold Scp03Card.accept
  rcases commandBody_ok P hlen hbody with
    ⟨hauth, hins, rfl, rfl, rfl⟩ | ⟨hauth, hcount, rfl, rfl⟩
  · -- EXTERNAL AUTHENTICATE: the card opens and latches the level
    have hopened : ¬ card.opened = true := by rw [← hopen, hauth]; decide
    have hins' : ins = 0x82 := hins
    rw [if_neg hopened, if_pos hins']
    exact ⟨_, rfl, hsEnc, hsMac, hsRmac, hmode, rfl, hcounter, rfl, rfl, fun _ => hlevel hauth⟩
  · have hopened : card.opened = true := hopen ▸ hauth
    have hcard : counter.toNat = card.counter + 1 := by rw [hcount, hcounter]
    have hnext : InStep
        { slot with chain := chain, counter := counter, level := slot.level, authed := true }
        { card with counter := card.counter + 1, chain := chain } :=
      ⟨hsEnc, hsMac, hsRmac, hmode, rfl, hcard, hlev, hopened.symm, hcmac⟩
    rw [if_pos hopened]
    simp only [if_neg (hcmac hopened)]
    have hcenc : card.level &&& 0x02 = slot.level &&& SL_CENC := by rw [hlev, SL_CENC]
    rw [hcenc]
    by_cases henc : slot.level &&& SL_CENC ≠ 0 ∧ data ≠ []
    · have henc' : slot.level &&& SL_CENC ≠ 0 ∧ commandCipher P slot counter data ≠ [] :=
        ⟨henc.1, commandCipher_ne_nil P slot counter data⟩
      have hdec : Scp03Card.decrypt P { card with counter := card.counter + 1 }
          (commandCipher P slot counter data) = some data :=
        decrypt_commandCipher P { card with counter := card.counter + 1 } hsEnc hcard data
      rw [if_pos henc, if_pos henc', hdec]
      exact ⟨_, rfl, hnext⟩
    · rw [if_neg henc, if_neg henc]
      exact ⟨_, rfl, hnext⟩

/-- One wrapped command: the card accepts it, recovers exactly what the host
    asked for, and the two sides stay in step. -/
theorem receive_wrapSlot {slot slot' : Scp03SessionSlot} {card : Scp03Card}
    {cla ins p1 p2 : UInt8} {rest data le wire : List UInt8} (hstep : InStep slot card)
    (hlevel : slot.authed = false → p1 &&& 0x01 ≠ 0)
    (hdata : commandData rest = .ok (data, le))
    (hwrap : wrapSlot P slot cla ins p1 p2 rest = .ok (wire, slot')) :
    ∃ card', card.receive P wire = some (⟨ins, p1, p2, data⟩, card') ∧ InStep slot' card' ∧
      slot'.authed = true := by
  obtain ⟨data', le', body, counter, level, lc, hdata', hbody, hmax, hlc, hwire, hslot⟩ :=
    wrapSlot_ok P hwrap
  obtain ⟨rfl, rfl⟩ := Prod.mk.inj (Except.ok.inj (hdata'.symm.trans hdata))
  have hmac : commandMac P slot [secureCla cla, ins, p1, p2, lc] body =
      card.cmac P [secureCla cla, ins, p1, p2, lc] body := by
    rw [commandMac, Scp03Card.cmac, hstep.sMac, hstep.chain]
  obtain ⟨card', haccept, hnext⟩ := accept_commandBody P hstep hlevel (length_commandData hdata)
    hbody (commandMac P slot [secureCla cla, ins, p1, p2, lc] body)
  rw [hstep.mode] at hlc hwire
  rw [hwire, receive_append P hmac rfl hlc, haccept, hslot]
  exact ⟨_, rfl, hnext, rfl⟩

/-! ### One response -/

theorem swIsProtected_iff (sw1 sw2 : UInt8) :
    swIsProtected [sw1, sw2] = true ↔ ProtectedStatus sw1 sw2 := by
  unfold swIsProtected ProtectedStatus
  split
  · next h =>
    injection h with h₁ h
    injection h with h₂ _
    simp [h₁, h₂]
  · next h =>
    injection h with h₁ _
    simp [h₁]
  · next h =>
    injection h with h₁ _
    simp [h₁]
  · next h₁ h₂ h₃ =>
    constructor
    · intro h
      cases h
    · rintro (⟨rfl, rfl⟩ | rfl | rfl)
      · exact absurd rfl h₁
      · exact absurd rfl (h₂ sw2)
      · exact absurd rfl (h₃ sw2)

/-- Decrypting what the card encrypted. -/
theorem decryptResponse_wireData {slot : Scp03SessionSlot} {card : Scp03Card}
    (hstep : InStep slot card) {data : List UInt8} (henc : card.level &&& 0x20 ≠ 0)
    (hdata : data ≠ []) (hmax : (card.wireData P data).length ≤ RAPDU_MAX) :
    decryptResponse P slot (card.wireData P data) = .ok data := by
  have hdvd := dvd_length_pad (show 0 < 16 by decide) data
  have hwire : card.wireData P data = encryptOctets (P.aes slot.sEnc.val)
      (P.aes slot.sEnc.val (counterBlock slot.counter true)) (pad 16 data) := by
    rw [Scp03Card.wireData, if_pos ⟨henc, hdata⟩, Scp03Card.icv, ← hstep.counter,
      ← counterBlock_eq, hstep.sEnc]
  rw [hwire] at hmax ⊢
  rw [decryptResponse_eq P (by rw [length_encryptOctets _ _ hdvd]; exact hdvd) hmax,
    decryptOctets_encryptOctets _ _ hdvd, unpad_pad]
  rfl

theorem wireData_eq_nil {card : Scp03Card} {data : List UInt8} :
    card.wireData P data = [] ↔ data = [] := by
  unfold Scp03Card.wireData
  split
  · next h =>
    have hdvd := dvd_length_pad (show 0 < 16 by decide) data
    have hlen := length_encryptOctets (P.aes card.sEnc.val) (card.icv P true) hdvd
    have hpad := length_pad (show 0 < 16 by decide) data
    have hmod := Nat.mod_lt data.length (show 0 < 16 by decide)
    constructor
    · intro hnil
      rw [hnil, List.length_nil] at hlen
      omega
    · intro hnil
      exact absurd hnil h.2
  · rfl

/-- One response: the host delivers exactly the card's data and status word. -/
theorem unwrapInner_respond {slot : Scp03SessionSlot} {card : Scp03Card}
    (hstep : InStep slot card) (r : CardReply)
    (hfits : (card.respondBody P r).length ≤ 256) :
    unwrapInner P slot (card.respond P r) = .ok (r.data ++ r.sw) := by
  have hrapdu : RAPDU_MAX = 258 := rfl
  have hsw : r.sw = [r.sw1, r.sw2] := rfl
  rw [Scp03Card.respond, hsw, unwrapInner_append]
  unfold Scp03Card.respondBody at hfits ⊢
  by_cases hprot : ProtectedStatus r.sw1 r.sw2
  · have hprot' := (swIsProtected_iff _ _).mpr hprot
    rw [if_pos hprot] at hfits ⊢
    rw [List.length_append] at hfits
    -- the R-MAC is stripped, and what is left is the wire data
    have hdata : responseData P slot (card.wireData P r.data ++
        card.rmac P (card.wireData P r.data) r.sw) [r.sw1, r.sw2] =
        .ok (card.wireData P r.data) := by
      unfold responseData
      rw [hstep.level]
      by_cases hrmac : card.level &&& 0x10 ≠ 0
      · rw [if_pos ⟨hrmac, hprot'⟩, verifyRmac_eq_ok]
        constructor
        · rw [Scp03Card.rmac, if_pos hrmac, responseMac, hstep.sRmac, hstep.chain, hstep.mode, hsw]
        · simp only [List.length_cons, List.length_nil]
          omega
      · rw [if_neg (fun h => hrmac h.1), Scp03Card.rmac, if_neg hrmac, List.append_nil]
    -- R-ENC is undone
    have hplain : responsePlain P slot (card.wireData P r.data) [r.sw1, r.sw2] =
        .ok r.data := by
      unfold responsePlain
      rw [hstep.level]
      by_cases hrenc : card.level &&& 0x20 ≠ 0 ∧ r.data ≠ []
      · rw [if_pos ⟨hrenc.1, hprot', fun h => hrenc.2 ((wireData_eq_nil P).mp h)⟩]
        exact decryptResponse_wireData P hstep hrenc.1 hrenc.2 (by omega)
      · have hwire : card.wireData P r.data = r.data := by
          rw [Scp03Card.wireData, if_neg hrenc]
        rw [hwire, if_neg (fun h => hrenc ⟨h.1, h.2.2⟩)]
    rw [hdata, ok_bind]
    rw [hplain, ok_bind, push_eq_ok]
    refine ⟨rfl, ?_⟩
    have hle : r.data.length ≤ (card.wireData P r.data).length := by
      unfold Scp03Card.wireData
      split
      · have hdvd := dvd_length_pad (show 0 < 16 by decide) r.data
        rw [length_encryptOctets _ _ hdvd, length_pad (by decide)]
        omega
      · exact le_rfl
    simp only [List.length_append, List.length_cons, List.length_nil]
    omega
  · -- an error status word comes bare
    have hprot' : swIsProtected [r.sw1, r.sw2] = false := by
      rw [← Bool.not_eq_true, swIsProtected_iff]
      exact hprot
    rw [if_neg hprot, r.bare hprot]
    simp [responseData, responsePlain, hprot', push_eq_ok, hrapdu]

/-! ### Whole sessions -/

namespace LockStep03

/-- The SCP03 channel: the backend with a session handle at one end, the
    reference card at the other. A reply has to fit a response body. -/
def apduChannel (s : Scp03Session) : Channel (BackendState ρ) Scp03Card (List UInt8) Command
    CardReply (List UInt8) (Except BackendError (List UInt8)) where
  wrap capdu st :=
    match scp03WrapCommand P s capdu st with
    | (.ok wire, st) => some (wire, st)
    | (.error _, _) => none
  receive wire card := card.receive P wire
  respond r card :=
    if (card.respondBody P r).length > 256 then none else some (card.respond P r, card)
  unwrap wire st := scp03UnwrapResponse P s wire st

/-- The channel for commands that have a plaintext. -/
def scp03Channel (s : Scp03Session) : Channel (BackendState ρ) Scp03Card PlainCommand Command
    CardReply (List UInt8) (Except BackendError (List UInt8)) :=
  (apduChannel P s).comap PlainCommand.encode

/-- The handle's slot is authenticated, and in step with the card. -/
def Agree (s : Scp03Session) (st : BackendState ρ) (card : Scp03Card) : Prop :=
  ∃ slot, st.sessions.get s.index.toNat = some slot ∧ slot.authed = true ∧ InStep slot card

/-- The handle's slot was just derived, with the card's keys. -/
def Derived (s : Scp03Session) (st : BackendState ρ) (card : Scp03Card) : Prop :=
  ∃ sEnc sMac sRmac mode, card = .fresh sEnc sMac sRmac mode ∧
    st.sessions.get s.index.toNat = some (.fresh sEnc sMac sRmac mode)

/-- A fresh slot and a fresh card with its keys are in step. -/
theorem fresh_inStep (sEnc sMac sRmac : AesKey) (mode : ScpMode) :
    InStep (.fresh sEnc sMac sRmac mode) (.fresh sEnc sMac sRmac mode) :=
  ⟨rfl, rfl, rfl, rfl, rfl, rfl, rfl, rfl, fun h => by cases h⟩

/-- A command over the backend state. -/
theorem wrap_step {s : Scp03Session} {c : PlainCommand} {st st' : BackendState ρ}
    {card : Scp03Card} {slot : Scp03SessionSlot} {wire : List UInt8}
    (hslot : st.sessions.get s.index.toNat = some slot) (hstep : InStep slot card)
    (hlevel : slot.authed = false → c.p1 &&& 0x01 ≠ 0)
    (h : (scp03Channel P s).wrap c st = some (wire, st')) :
    ∃ card', card.receive P wire = some (c.command, card') ∧ Agree s st' card' := by
  simp only [scp03Channel, Channel.comap, apduChannel] at h
  rcases scp03WrapCommand_cases P s c.encode st with
    ⟨e, he⟩ | ⟨cla, ins, p1, p2, rest, slot₀, out, slot', henc, hslot₀, hwrap, hok⟩
  · rw [he] at h
    cases h
  · obtain ⟨rfl, rfl, rfl, rfl, rfl⟩ : c.cla = cla ∧ c.ins = ins ∧ c.p1 = p1 ∧ c.p2 = p2 ∧
        c.tail = rest := by simpa [PlainCommand.encode] using henc
    obtain rfl := Option.some.inj (hslot.symm.trans hslot₀)
    obtain ⟨card', hreceive, hstep', hauth⟩ :=
      receive_wrapSlot P hstep hlevel c.commandData_tail hwrap
    rw [hok] at h
    obtain ⟨rfl, rfl⟩ := Prod.mk.inj (Option.some.inj h)
    exact ⟨card', hreceive, slot', SlotTable.get_set_self (SlotTable.lt_of_get hslot) _, hauth,
      hstep'⟩

/-- A response over the backend state, which it leaves as it was. -/
theorem unwrap_step {s : Scp03Session} {r : CardReply} {st : BackendState ρ} {card : Scp03Card}
    (h : Agree s st card) (hfits : ¬ (card.respondBody P r).length > 256) :
    scp03UnwrapResponse P s (card.respond P r) st = (.ok (r.data ++ r.sw), st) := by
  obtain ⟨slot, hslot, hauth, hstep⟩ := h
  have hlen : ¬ (card.respond P r).length < 2 := by
    simp [Scp03Card.respond, CardReply.sw]
  have hunwrap : unwrapSlot P slot (card.respond P r) = .ok (r.data ++ r.sw) := by
    rw [unwrapSlot, if_neg (not_not.mpr hauth), if_neg hlen]
    exact unwrapInner_respond P hstep r (by omega)
  rw [scp03UnwrapResponse, hslot]
  simp only [hunwrap]

/-- The SCP03 channel keeps its ends in step. -/
def simulation (s : Scp03Session) (ea : PlainCommand) (hlevel : ea.p1 &&& 0x01 ≠ 0) :
    (scp03Channel (ρ := ρ) P s).Simulation PlainCommand.command
      (fun r => .ok (r.data ++ r.sw)) ea where
  fresh := Derived s
  ready := Agree s
  pending := Agree s
  open_step := by
    rintro st st' card wire ⟨sEnc, sMac, sRmac, mode, rfl, hslot⟩ hwrap
    exact wrap_step P hslot (fresh_inStep ..) (fun _ => hlevel) hwrap
  send_step := by
    rintro c st st' card wire ⟨slot, hslot, hauth, hstep⟩ hwrap
    exact wrap_step P hslot hstep (fun hf => absurd hauth (by rw [hf]; decide)) hwrap
  answer_step := by
    intro r st card card' wire h hrespond
    simp only [scp03Channel, Channel.comap, apduChannel] at hrespond ⊢
    split at hrespond
    · cases hrespond
    · next hfits =>
      obtain ⟨rfl, rfl⟩ := Prod.mk.inj (Option.some.inj hrespond)
      exact ⟨st, unwrap_step P h hfits, h⟩

/-- Lock step: in every session over a freshly derived slot, opened at a level
    with C-MAC, the card accepts every command and recovers its plaintext, the
    host delivers the card's data and status word, and after each exchange the
    two ends agree on chaining value, counter and level. -/
theorem scp03_lock_step (s : Scp03Session) (st : BackendState ρ) (card : Scp03Card)
    (ea : PlainCommand) (es : List (PlainCommand × CardReply))
    (rounds : List (Channel.Round (BackendState ρ) Scp03Card PlainCommand Command CardReply
      (Except BackendError (List UInt8))))
    (hfresh : Derived s st card) (hlevel : ea.p1 &&& 0x01 ≠ 0)
    (hrun : (scp03Channel P s).session ea es st card = some rounds) :
    rounds.map (fun round => (round.command, round.reply)) =
        (ea, none) :: es.map (fun e => (e.1, some e.2)) ∧
      ∀ round ∈ rounds, round.Faithful PlainCommand.command
        (fun r => .ok (r.data ++ r.sw)) (Agree s) :=
  Channel.session_faithful (simulation P s ea hlevel) hfresh hrun

/-! ### A run -/

def sampleKey : AesKey := .sample

/-- A backend whose slot 0 was just derived. -/
def sampleBackend : BackendState Unit :=
  { BackendState.new () with
    sessions := (SlotTable.empty MAX_SESSION_SLOTS Scp03SessionSlot).set 0
      (some (.fresh sampleKey sampleKey sampleKey .s8)) }

/-- EXTERNAL AUTHENTICATE at level `33`. -/
def sampleEa : PlainCommand := .sampleExternalAuthenticate 0x33

/-- The answer to GET STATUS. -/
def sampleReply : CardReply := ⟨[0xE3, 0x00], 0x90, 0x00, by decide⟩

/-- A case-4 command answered `9000` with data, and a case-1 command answered
    with a bare error. -/
def sampleExchanges : List (PlainCommand × CardReply) :=
  [(.sampleGetStatus, sampleReply), (.sampleDelete, ⟨[], 0x6A, 0x88, fun _ => rfl⟩)]

/-- The sample session runs, and its three rounds are faithful. -/
theorem scp03_lock_step_sample :
    ∃ rounds, (scp03Channel Primitives.xorCipher ⟨0⟩).session sampleEa sampleExchanges
        sampleBackend (.fresh sampleKey sampleKey sampleKey .s8) = some rounds ∧
      rounds.length = 3 ∧
      ∀ round ∈ rounds, round.Faithful PlainCommand.command
        (fun r => .ok (r.data ++ r.sw)) (Agree ⟨0⟩) := by
  have hsome : ((scp03Channel Primitives.xorCipher ⟨0⟩).session sampleEa sampleExchanges
      sampleBackend (.fresh sampleKey sampleKey sampleKey .s8)).isSome = true := by
    decide +kernel
  obtain ⟨rounds, hrun⟩ := Option.isSome_iff_exists.mp hsome
  have hfresh : Derived ⟨0⟩ sampleBackend (.fresh sampleKey sampleKey sampleKey .s8) :=
    ⟨sampleKey, sampleKey, sampleKey, .s8, rfl, rfl⟩
  obtain ⟨hmap, hall⟩ := scp03_lock_step Primitives.xorCipher ⟨0⟩ sampleBackend _ sampleEa
    sampleExchanges rounds hfresh (by decide) hrun
  refine ⟨rounds, hrun, ?_, hall⟩
  have := congrArg List.length hmap
  simpa [sampleExchanges] using this

end LockStep03

end Scll

import Scll.ChannelRoom
import Scll.IdealChannel

/-! # One exchange, from end to end

    What the wrapper refuses is what the ideal channel refuses, in its words;
    what it takes, the card recovers; and the reply is delivered as the
    application gave it. Both protocols come to the same three facts: `wrapped`,
    `unwrap_reply` and the room that is left.
-/

namespace Scll

open BlockMode Workflow

variable (P : Primitives) {ρ : Type}

/-! ### What the wrapper takes -/

theorem bodyLength_of03 (slot : Scp03SessionSlot) (data : List UInt8) :
    (IdealChannel.of03 slot).bodyLength data = (ShortCases.wireBody03 P slot data).length := by
  unfold IdealChannel.bodyLength IdealChannel.of03 ShortCases.wireBody03
  by_cases henc : slot.level &&& SL_CENC ≠ 0
  · by_cases hdata : data = []
    · simp only [if_pos henc, if_pos hdata]
      simp [hdata]
    · have hdvd := dvd_length_pad (show 0 < 16 by decide) data
      simp only [if_pos henc, if_neg hdata]
      rw [if_pos ⟨henc, hdata⟩, commandCipher, length_encryptOctets _ _ hdvd,
        length_pad (show 0 < 16 by decide)]
  · simp only [if_neg henc]
    rw [if_neg (fun h => henc h.1)]

theorem bodyLength_of02 {slot : Scp02SessionSlot} (hauth : slot.authed = true)
    (data : List UInt8) :
    (IdealChannel.of02 slot).bodyLength data = (Scp02.wireBody P slot data).length := by
  unfold IdealChannel.bodyLength IdealChannel.of02 Scp02.wireBody
  by_cases henc : slot.level &&& Scp02.SL_CDEC ≠ 0
  · by_cases hdata : data = []
    · simp only [if_pos henc, if_pos hdata]
      simp [hdata]
    · have hdvd := dvd_length_pad (show 0 < 8 by decide) data
      simp only [if_pos henc, if_neg hdata]
      rw [if_pos ⟨hauth, henc, hdata⟩, Scp02.commandCipher, length_encryptOctets _ _ hdvd,
        length_pad (show 0 < 8 by decide)]
  · simp only [if_neg henc]
    rw [if_neg (fun h => henc h.2.1)]

/-- Pushing nothing first makes no difference to a push. -/
theorem push_nil_bind (cap : ℕ) (v src : List UInt8) :
    (push cap v [] >>= fun v => push cap v src) = push cap v src := by
  unfold push extend
  by_cases h : v.length > cap
  · rw [if_pos (by simpa using h), if_pos (by omega)]
    rfl
  · rw [if_neg (by simpa using h)]
    simp only [List.append_nil]
    rfl

/-- What follows the data field is pushed last. -/
theorem wrapSlot_trailing {slot : Scp03SessionSlot} {cla ins p1 p2 : UInt8}
    {rest rest' data le : List UInt8} (h : commandData rest = .ok (data, le))
    (h' : commandData rest' = .ok (data, [])) :
    wrapSlot P slot cla ins p1 p2 rest =
      wrapSlot P slot cla ins p1 p2 rest' >>= fun p =>
        push CAPDU_MAX p.1 le >>= fun out => .ok (out, p.2) := by
  unfold wrapSlot
  rw [h, h']
  simp only [ok_bind, bind_assoc]
  -- the two agree up to the last push
  iterate 9 apply bind_congr; intro _
  rw [← bind_assoc, push_nil_bind]

theorem exists_bare {rest data le : List UInt8} (h : commandData rest = .ok (data, le)) :
    ∃ rest', commandData rest' = .ok (data, []) := by
  rcases commandData_eq_ok h with ⟨-, rfl, -⟩ | ⟨-, hlt⟩
  · exact ⟨[], rfl⟩
  · have hlc : (UInt8.ofNat data.length).toNat = data.length := by
      rw [UInt8.toNat_ofNat']
      omega
    refine ⟨UInt8.ofNat data.length :: data, ?_⟩
    rw [commandData, hlc, if_neg (lt_irrefl _), List.take_length, List.drop_length]

/-- What becomes of a data field, by the room there is. -/
theorem take_of_data {ch : IdealChannel} {rest data le : List UInt8}
    (h : commandData rest = .ok (data, le)) :
    ch.take rest = ch.count >>= fun next =>
      if ch.bodyLength data + ch.macLen > 255 then
        .error (cryptoErr "wrapped Lc exceeds short APDU")
      else if ch.keepsLe = true ∧ 5 + ch.bodyLength data + ch.macLen + le.length > CAPDU_MAX then
        .error (cryptoErr "buffer overflow")
      else .ok (data, next) := by
  unfold IdealChannel.take
  rw [h]
  rfl

/-- A counter that has room moves in both. -/
theorem count_of03 {slot : Scp03SessionSlot} (h : slot.counter.toNat + 1 < 2 ^ 32) :
    (IdealChannel.of03 slot).count =
      .ok { IdealChannel.of03 slot with
        remaining := some (2 ^ 32 - 1 - (slot.counter.toNat + 1)) } := by
  obtain ⟨n, hn⟩ : ∃ n, 2 ^ 32 - 1 - slot.counter.toNat = n + 1 :=
    ⟨2 ^ 32 - 1 - (slot.counter.toNat + 1), by omega⟩
  have hnext : 2 ^ 32 - 1 - (slot.counter.toNat + 1) = n := by omega
  unfold IdealChannel.count IdealChannel.of03
  simp only [hn, hnext]

theorem count_of03_last {slot : Scp03SessionSlot} (h : ¬slot.counter.toNat + 1 < 2 ^ 32) :
    (IdealChannel.of03 slot).count = .error (cryptoErr "command counter overflow") := by
  have hzero : 2 ^ 32 - 1 - slot.counter.toNat = 0 := by omega
  unfold IdealChannel.count IdealChannel.of03
  simp only [hzero]

/-- A body too long for `Lc` is refused. -/
theorem wrapSlot03_long {slot : Scp03SessionSlot} (hauth : slot.authed = true)
    (hcount : slot.counter.toNat + 1 < 2 ^ 32) {cla ins p1 p2 : UInt8} {rest data le : List UInt8}
    (hdata : commandData rest = .ok (data, le))
    (hlong : (ShortCases.wireBody03 P slot data).length + slot.mode.macLen > 255) :
    wrapSlot P slot cla ins p1 p2 rest =
      .error (cryptoErr "wrapped Lc exceeds short APDU") := by
  have hlc : lcPlusMac (ShortCases.wireBody03 P slot data).length slot.mode.macLen =
      .error (cryptoErr "wrapped Lc exceeds short APDU") := if_neg (by omega)
  unfold wrapSlot
  rw [hdata, ok_bind]
  dsimp only
  rw [ShortCases.commandBody_authed P hauth hcount (length_commandData hdata), ok_bind]
  dsimp only
  rw [hlc]
  rfl

/-- A body that fits is wrapped, if there is room for what follows the data field. -/
theorem wrapSlot03_short {slot : Scp03SessionSlot} (hauth : slot.authed = true)
    (hcount : slot.counter.toNat + 1 < 2 ^ 32) (cla ins p1 p2 : UInt8) {rest data le : List UInt8}
    (hdata : commandData rest = .ok (data, le))
    (hfits : (ShortCases.wireBody03 P slot data).length + slot.mode.macLen ≤ 255) :
    ∃ out slot', wrapSlot P slot cla ins p1 p2 rest =
        (push CAPDU_MAX out le >>= fun out => .ok (out, slot')) ∧
      out.length = 5 + (ShortCases.wireBody03 P slot data).length + slot.mode.macLen ∧
      slot'.counter = slot.counter + 1 ∧ slot'.level = slot.level ∧ slot'.mode = slot.mode := by
  have hlen := length_commandData hdata
  have hbody : ∀ ins p1, commandBody P slot ins p1 data =
      .ok (ShortCases.wireBody03 P slot data, slot.counter + 1, slot.level) :=
    fun ins p1 => ShortCases.commandBody_authed P hauth hcount hlen
  obtain ⟨rest', hrest'⟩ := exists_bare hdata
  obtain ⟨⟨out, slot'⟩, hwrap⟩ : ∃ out, wrapSlot P slot cla ins p1 p2 rest' = .ok out :=
    wrapSlot_of_body P hrest' (hbody ins p1) (Nat.zero_le _) hfits
  obtain ⟨data', le', body, counter, level, lc, hdata', hbody', -, -, hout, hslot⟩ :=
    wrapSlot_ok P hwrap
  obtain ⟨rfl, rfl⟩ := Prod.mk.inj (Except.ok.inj (hdata'.symm.trans hrest'))
  rw [hbody] at hbody'
  obtain ⟨rfl, h⟩ := Prod.mk.inj (Except.ok.inj hbody')
  obtain ⟨rfl, rfl⟩ := Prod.mk.inj h
  refine ⟨out, slot', ?_, ?_, ?_, ?_, ?_⟩
  · rw [wrapSlot_trailing P hdata hrest', hwrap]
    rfl
  · rw [hout]
    simp only [List.length_append, List.length_cons, List.length_nil, length_commandMac]
    omega
  · rw [hslot]
  · rw [hslot]
  · rw [hslot]

/-- The wrapper of SCP03 takes what the ideal channel takes, and refuses the rest with
    its words. -/
theorem wrapSlot03_take {slot : Scp03SessionSlot} (hauth : slot.authed = true)
    (cla ins p1 p2 : UInt8) (rest : List UInt8) :
    (∃ e, (IdealChannel.of03 slot).take rest = .error e ∧
      wrapSlot P slot cla ins p1 p2 rest = .error e) ∨
    ∃ data le next out slot', (IdealChannel.of03 slot).take rest = .ok (data, next) ∧
      commandData rest = .ok (data, le) ∧
      wrapSlot P slot cla ins p1 p2 rest = .ok (out, slot') ∧ IdealChannel.of03 slot' = next := by
  cases hdata : commandData rest with
  | error e =>
    left
    refine ⟨e, ?_, ?_⟩
    · unfold IdealChannel.take
      rw [hdata]
      rfl
    · unfold wrapSlot
      rw [hdata]
      rfl
  | ok field =>
    obtain ⟨data, le⟩ := field
    have hlen := length_commandData hdata
    rw [take_of_data hdata]
    -- the checks of the channel, in the order in which the wrap makes them
    by_cases hcount : slot.counter.toNat + 1 < 2 ^ 32
    · have hmac : (IdealChannel.of03 slot).macLen = slot.mode.macLen := rfl
      rw [count_of03 hcount, ok_bind, bodyLength_of03 P, hmac]
      by_cases hlong : (ShortCases.wireBody03 P slot data).length + slot.mode.macLen > 255
      · left
        exact ⟨_, if_pos hlong, wrapSlot03_long P hauth hcount hdata hlong⟩
      · obtain ⟨out, slot', hwrap, hout, hcounter, hlevel, hmode⟩ :=
          wrapSlot03_short P hauth hcount cla ins p1 p2 hdata (by omega)
        rw [if_neg hlong, hwrap]
        by_cases hroom : 5 + (ShortCases.wireBody03 P slot data).length + slot.mode.macLen +
            le.length > CAPDU_MAX
        · left
          have hpush : push CAPDU_MAX out le = .error (cryptoErr "buffer overflow") :=
            if_pos (by omega)
          exact ⟨_, if_pos ⟨rfl, hroom⟩, by rw [hpush]; rfl⟩
        · right
          have hpush : push CAPDU_MAX out le = .ok (out ++ le) := push_of_fits (by omega)
          refine ⟨data, le, _, out ++ le, slot', if_neg (fun h => hroom h.2), rfl, ?_, ?_⟩
          · rw [hpush]
            rfl
          · have hnat : (slot.counter + 1).toNat = slot.counter.toNat + 1 := by
              rw [UInt32.toNat_add]
              exact Nat.mod_eq_of_lt hcount
            unfold IdealChannel.of03
            rw [hcounter, hlevel, hmode, hnat]
    · left
      refine ⟨_, by rw [count_of03_last hcount]; rfl, ?_⟩
      have hsucc : checkedSucc slot.counter = none := if_neg hcount
      unfold wrapSlot commandBody
      rw [hdata, ok_bind]
      dsimp only
      rw [if_pos hauth, hsucc]
      rfl

/-- A body too long for `Lc` is refused, before or after it is encrypted. -/
theorem wrapSlot02_long {slot : Scp02SessionSlot} (hauth : slot.authed = true)
    {cla ins p1 p2 : UInt8} {rest data le : List UInt8}
    (hdata : commandData rest = .ok (data, le))
    (hlong : (Scp02.wireBody P slot data).length + 8 > 255) :
    Scp02.wrapSlot P slot cla ins p1 p2 rest =
      .error (cryptoErr "wrapped Lc exceeds short APDU") := by
  unfold Scp02.wrapSlot
  rw [hdata, ok_bind]
  dsimp only
  rw [if_neg (fun h => h.1 hauth)]
  by_cases hmac : data.length + 8 ≤ 255
  · obtain ⟨cmac, hcmac⟩ := Scp02.commandCmac_fits P slot cla ins p1 p2 hmac
    have hlc : lcPlusMac (Scp02.wireBody P slot data).length Scp02.MAC_LEN =
        .error (cryptoErr "wrapped Lc exceeds short APDU") := if_neg (by
      show ¬_ + 8 ≤ 255
      omega)
    rw [hcmac, ok_bind, Scp02.commandBody_eq P (by omega), ok_bind, hlc]
    rfl
  · have hlc : lcPlusMac data.length Scp02.MAC_LEN =
        .error (cryptoErr "wrapped Lc exceeds short APDU") := if_neg hmac
    unfold Scp02.commandCmac
    rw [Scp02.nextIcv_eq, ok_bind, hlc]
    rfl

/-- The same for SCP02, which counts nothing and drops `Le`. -/
theorem wrapSlot02_take {slot : Scp02SessionSlot} (hauth : slot.authed = true)
    (cla ins p1 p2 : UInt8) (rest : List UInt8) :
    (∃ e, (IdealChannel.of02 slot).take rest = .error e ∧
      Scp02.wrapSlot P slot cla ins p1 p2 rest = .error e) ∨
    ∃ data le next out slot', (IdealChannel.of02 slot).take rest = .ok (data, next) ∧
      commandData rest = .ok (data, le) ∧
      Scp02.wrapSlot P slot cla ins p1 p2 rest = .ok (out, slot') ∧
      IdealChannel.of02 slot' = next ∧ slot'.sDek = slot.sDek := by
  cases hdata : commandData rest with
  | error e =>
    left
    refine ⟨e, ?_, ?_⟩
    · unfold IdealChannel.take
      rw [hdata]
      rfl
    · unfold Scp02.wrapSlot
      rw [hdata]
      rfl
  | ok field =>
    obtain ⟨data, le⟩ := field
    have hmac : (IdealChannel.of02 slot).macLen = 8 := rfl
    have hcount : (IdealChannel.of02 slot).count = .ok (IdealChannel.of02 slot) := rfl
    rw [take_of_data hdata, hcount, ok_bind, bodyLength_of02 P hauth, hmac]
    by_cases hlong : (Scp02.wireBody P slot data).length + 8 > 255
    · left
      exact ⟨_, if_pos hlong, wrapSlot02_long P hauth hdata hlong⟩
    · right
      obtain ⟨⟨out, slot'⟩, hwrap⟩ : ∃ out, Scp02.wrapSlot P slot cla ins p1 p2 rest = .ok out :=
        Scp02.wrapSlot_of_fits P (fun h => by rw [hauth] at h; cases h) hdata (by omega)
      obtain ⟨_, _, _, -, -, -, -, -, hslot⟩ := Scp02.wrapSlot_ok P hwrap
      have hkeeps : ¬((IdealChannel.of02 slot).keepsLe = true ∧
          5 + (Scp02.wireBody P slot data).length + 8 + le.length > CAPDU_MAX) :=
        fun h => by cases h.1
      refine ⟨data, le, _, out, slot', by rw [if_neg hlong, if_neg hkeeps], rfl, hwrap, ?_, ?_⟩
      · rw [hslot]
        unfold IdealChannel.of02 Scp02.commit
        simp only [if_pos hauth]
      · rw [hslot]
        rfl

/-! ### The two ends -/

/-- The host's end of a session and the card's end of the channel are in step. -/
inductive Locked (st : BackendState ρ) : ScpSession → CardChannel → Prop where
  | scp03 {s : Scp03.Scp03State} {card : Scp03Card} (agree : LockStep03.Agree s.session st card) :
      Locked st (.scp03 s) (.scp03 card)
  | scp02 {s : Scp02.Scp02State} {card : Scp02Card} (agree : LockStep02.Agree s.session st card) :
      Locked st (.scp02 s) (.scp02 card)

/-- Between a command and its reply they are, too. -/
inductive Awaiting (st : BackendState ρ) : ScpSession → CardChannel → Prop where
  | scp03 {s : Scp03.Scp03State} {card : Scp03Card} (agree : LockStep03.Agree s.session st card) :
      Awaiting st (.scp03 s) (.scp03 card)
  | scp02 {s : Scp02.Scp02State} {card : Scp02Card}
      (pending : LockStep02.Pending s.session st card) : Awaiting st (.scp02 s) (.scp02 card)

/-- The DEK that derived with a session. -/
def sessionDek (session : ScpSession) (st : BackendState ρ) : Option TdesKey :=
  match session with
  | .scp03 _ => none
  | .scp02 s => (st.scp02Sessions.get s.session.index.toNat).map Scp02SessionSlot.sDek

/-- What the payload of PUT KEY is made from is the same. -/
structure SameVault (session : ScpSession) (st st' : BackendState ρ) : Prop where
  keys : st.keys = st'.keys
  dek : sessionDek session st = sessionDek session st'

/-- The wire form of a command says that it is one under secure messaging. -/
def IsSecure (wire : List UInt8) : Prop := wire.headD 0x00 &&& 0x04 ≠ 0

theorem isSecure_cons (cla : UInt8) (rest : List UInt8) : IsSecure (secureCla cla :: rest) :=
  secureCla_and cla

/-- A C-APDU with a header, or one without. -/
theorem header_cases (capdu : List UInt8) :
    (∃ cla ins p1 p2 rest, capdu = cla :: ins :: p1 :: p2 :: rest) ∨
      (∀ (ch : IdealChannel), ch.accept capdu = .error (cryptoErr "C-APDU shorter than header")) ∧
      ∀ (st : BackendState ρ), (∀ s, scp03WrapCommand P s capdu st =
          (.error (cryptoErr "C-APDU shorter than header"), st)) ∧
        ∀ s, scp02WrapCommand P s capdu st =
          (.error (cryptoErr "C-APDU shorter than header"), st) := by
  rcases capdu with _ | ⟨cla, _ | ⟨ins, _ | ⟨p1, _ | ⟨p2, rest⟩⟩⟩⟩
  · exact .inr ⟨fun _ => rfl, fun _ => ⟨fun _ => rfl, fun _ => rfl⟩⟩
  · exact .inr ⟨fun _ => rfl, fun _ => ⟨fun _ => rfl, fun _ => rfl⟩⟩
  · exact .inr ⟨fun _ => rfl, fun _ => ⟨fun _ => rfl, fun _ => rfl⟩⟩
  · exact .inr ⟨fun _ => rfl, fun _ => ⟨fun _ => rfl, fun _ => rfl⟩⟩
  · exact .inl ⟨cla, ins, p1, p2, rest, rfl⟩

section slots

variable {st : BackendState ρ} {cla ins p1 p2 : UInt8} {rest out : List UInt8} {e : BackendError}

theorem scp03WrapCommand_slot {s : Scp03Session} {slot slot' : Scp03SessionSlot}
    (hslot : st.sessions.get s.index.toNat = some slot)
    (hwrap : wrapSlot P slot cla ins p1 p2 rest = .ok (out, slot')) :
    scp03WrapCommand P s (cla :: ins :: p1 :: p2 :: rest) st =
      (.ok out, { st with sessions := st.sessions.set s.index.toNat (some slot') }) := by
  unfold scp03WrapCommand
  dsimp only
  rw [hslot]
  dsimp only
  rw [hwrap]

theorem scp03WrapCommand_slot_error {s : Scp03Session} {slot : Scp03SessionSlot}
    (hslot : st.sessions.get s.index.toNat = some slot)
    (hwrap : wrapSlot P slot cla ins p1 p2 rest = .error e) :
    scp03WrapCommand P s (cla :: ins :: p1 :: p2 :: rest) st = (.error e, st) := by
  unfold scp03WrapCommand
  dsimp only
  rw [hslot]
  dsimp only
  rw [hwrap]

theorem scp02WrapCommand_slot {s : Scp02Session} {slot slot' : Scp02SessionSlot}
    (hslot : st.scp02Sessions.get s.index.toNat = some slot)
    (hwrap : Scp02.wrapSlot P slot cla ins p1 p2 rest = .ok (out, slot')) :
    scp02WrapCommand P s (cla :: ins :: p1 :: p2 :: rest) st =
      (.ok out, { st with scp02Sessions := st.scp02Sessions.set s.index.toNat (some slot') }) := by
  unfold scp02WrapCommand
  dsimp only
  rw [hslot]
  dsimp only
  rw [hwrap]

theorem scp02WrapCommand_slot_error {s : Scp02Session} {slot : Scp02SessionSlot}
    (hslot : st.scp02Sessions.get s.index.toNat = some slot)
    (hwrap : Scp02.wrapSlot P slot cla ins p1 p2 rest = .error e) :
    scp02WrapCommand P s (cla :: ins :: p1 :: p2 :: rest) st = (.error e, st) := by
  unfold scp02WrapCommand
  dsimp only
  rw [hslot]
  dsimp only
  rw [hwrap]

end slots

/-- What a wrap comes to, when both ends are in step: a refusal in the words of the
    ideal channel, or a command that the card recovers. -/
inductive Wrapped (session : ScpSession) (ch : CardChannel) (capdu : List UInt8)
    (st : RustCryptoBackend P ρ) : Prop where
  | refused (e : BackendError)
      (ideal : (IdealChannel.ofSession session st).accept capdu = .error e)
      (real : wrapCommand session capdu st = (.error (.backend e), st))
  | sent (c : Command) (next : IdealChannel) (wire : Capdu) (st' : RustCryptoBackend P ρ)
      (ch' : CardChannel)
      (ideal : (IdealChannel.ofSession session st).accept capdu = .ok (c, next))
      (real : wrapCommand session capdu st = (.ok wire, st'))
      (received : ch.receive P wire = some (c, ch'))
      (secure : IsSecure wire)
      (awaiting : Awaiting st' session ch')
      (room : IdealChannel.ofSession session st' = next)
      (vault : SameVault session st' st)

theorem wrapped03 {s : Scp03.Scp03State} {card : Scp03Card} {st : RustCryptoBackend P ρ}
    (h : LockStep03.Agree s.session st card) (capdu : List UInt8) :
    Wrapped P (.scp03 s) (.scp03 card) capdu st := by
  obtain ⟨slot, hslot, hauth, hstep⟩ := h
  have hroom : IdealChannel.ofSession (.scp03 s) st = IdealChannel.of03 slot := by
    show ((st.sessions.get _).map _).getD _ = _
    rw [hslot]
    rfl
  rcases header_cases P (ρ := ρ) capdu with ⟨cla, ins, p1, p2, rest, rfl⟩ | ⟨hideal, hreal⟩
  · rcases wrapSlot03_take P hauth cla ins p1 p2 rest with
      ⟨e, htake, hwrap⟩ | ⟨data, le, next, out, slot', htake, hdata, hwrap, hnext⟩
    · refine .refused e ?_ (ofBackend_error (scp03WrapCommand_slot_error P hslot hwrap))
      rw [hroom, IdealChannel.accept, htake]
      rfl
    · obtain ⟨card', hreceive, hstep', hauth'⟩ := receive_wrapSlot P hstep
        (fun hf => absurd hauth (by rw [hf]; decide)) hdata hwrap
      have hset : (st.sessions.set s.session.index.toNat (some slot')).get s.session.index.toNat =
          some slot' := SlotTable.get_set_self (SlotTable.lt_of_get hslot) _
      have hreal := scp03WrapCommand_slot P hslot hwrap
      obtain ⟨_, _, _, _, _, _, -, -, -, -, rfl, -⟩ := wrapSlot_ok P hwrap
      refine .sent ⟨ins, p1, p2, data⟩ next _ _ (.scp03 card') ?_ (ofBackend_eq_ok.mpr hreal) ?_
        (isSecure_cons cla _) (.scp03 ⟨slot', hset, hauth', hstep'⟩) ?_ ⟨rfl, rfl⟩
      · rw [hroom, IdealChannel.accept, htake]
        rfl
      · show (Scp03Card.receive P card _).map _ = _
        rw [hreceive]
        rfl
      · show ((SlotTable.get _ _).map _).getD _ = _
        rw [hset]
        exact hnext
  · exact .refused _ (hideal _) (ofBackend_error ((hreal st).1 s.session))

theorem wrapped02 {s : Scp02.Scp02State} {card : Scp02Card} {st : RustCryptoBackend P ρ}
    (h : LockStep02.Agree s.session st card) (capdu : List UInt8) :
    Wrapped P (.scp02 s) (.scp02 card) capdu st := by
  obtain ⟨slot, hslot, hauth, hstep⟩ := h
  have hroom : IdealChannel.ofSession (.scp02 s) st = IdealChannel.of02 slot := by
    show ((st.scp02Sessions.get _).map _).getD _ = _
    rw [hslot]
    rfl
  rcases header_cases P (ρ := ρ) capdu with ⟨cla, ins, p1, p2, rest, rfl⟩ | ⟨hideal, hreal⟩
  · rcases wrapSlot02_take P hauth cla ins p1 p2 rest with
      ⟨e, htake, hwrap⟩ | ⟨data, le, next, out, slot', htake, hdata, hwrap, hnext, hdek⟩
    · refine .refused e ?_ (ofBackend_error (scp02WrapCommand_slot_error P hslot hwrap))
      rw [hroom, IdealChannel.accept, htake]
      rfl
    · obtain ⟨card', hreceive, hauth', hstep', hsame⟩ := LockStep02.receive_wrapSlot P hstep
        (fun hf => absurd hauth (by rw [hf]; decide)) hdata hwrap
      have hset : (st.scp02Sessions.set s.session.index.toNat (some slot')).get
          s.session.index.toNat = some slot' :=
        SlotTable.get_set_self (SlotTable.lt_of_get hslot) _
      have hreal := scp02WrapCommand_slot P hslot hwrap
      obtain ⟨_, _, _, -, -, -, -, rfl, -⟩ := Scp02.wrapSlot_ok P hwrap
      refine .sent ⟨ins, p1, p2, data⟩ next _ _ (.scp02 card') ?_ (ofBackend_eq_ok.mpr hreal) ?_
        (isSecure_cons cla _) (.scp02 ⟨slot', hset, hauth', hstep', hsame hauth⟩) ?_ ⟨rfl, ?_⟩
      · rw [hroom, IdealChannel.accept, htake]
        rfl
      · show (Scp02Card.receive P card _).map _ = _
        rw [hreceive]
        rfl
      · show ((SlotTable.get _ _).map _).getD _ = _
        rw [hset]
        exact hnext
      · show (SlotTable.get _ _).map _ = (SlotTable.get _ _).map _
        rw [hset, hslot, Option.map_some, Option.map_some, hdek]
  · exact .refused _ (hideal _) (ofBackend_error ((hreal st).2 s.session))

theorem wrapped {session : ScpSession} {ch : CardChannel} {st : RustCryptoBackend P ρ}
    (h : Locked st session ch) (capdu : List UInt8) : Wrapped P session ch capdu st := by
  cases h with
  | scp03 hagree => exact wrapped03 P hagree capdu
  | scp02 hagree => exact wrapped02 P hagree capdu

/-! ### Replies -/

theorem octets_ofAnswer {data : List UInt8} (h : data.length ≤ 256) (sw : UInt16) :
    (Rapdu.ofAnswer data sw).octets = data ++ [(sw >>> 8).toUInt8, sw.toUInt8] := by
  unfold Rapdu.ofAnswer
  dsimp only
  rw [List.take_of_length_le h]

/-- Padding to a block and the longest MAC leave a small reply within a response. -/
theorem length_respond_le (ch : CardChannel) (r : AppReply) : (ch.respond P r).1.length ≤ 256 := by
  have hsmall : r.data.length ≤ 239 := r.small
  cases ch with
  | scp03 card =>
    have hmac : ∀ wdata sw, (card.rmac P wdata sw).length ≤ 16 := by
      intro wdata sw
      unfold Scp03Card.rmac
      split
      · rw [List.length_take]
        exact (min_le_left _ _).trans card.mode.macLen_le
      · exact Nat.zero_le _
    have hdata : (card.wireData P r.card03.data).length ≤ 240 := by
      have hdvd := dvd_length_pad (show 0 < 16 by decide) r.data
      unfold Scp03Card.wireData
      split
      · show (encryptOctets _ _ (pad 16 r.data)).length ≤ 240
        rw [length_encryptOctets _ _ hdvd, length_pad (show 0 < 16 by decide)]
        omega
      · show r.data.length ≤ 240
        omega
    have hmac' := hmac (card.wireData P r.card03.data) r.card03.sw
    show (card.respondBody P r.card03).length ≤ 256
    unfold Scp03Card.respondBody
    split
    · rw [List.length_append]
      omega
    · exact Nat.zero_le _
  | scp02 card =>
    have hmac := (card.rmac P r.card02).property
    show (card.respondBody P r.card02).1.length ≤ 256
    unfold Scp02Card.respondBody
    split
    · show (r.data ++ (card.rmac P r.card02).val).length ≤ 256
      rw [List.length_append]
      omega
    · show r.data.length ≤ 256
      omega

/-- A reply is delivered as it was given, and the ends are in step again. -/
theorem unwrap_reply {session : ScpSession} {ch : CardChannel} {st : RustCryptoBackend P ρ}
    (h : Awaiting st session ch) (r : AppReply) :
    ∃ st' : RustCryptoBackend P ρ,
      unwrapResponse session (Rapdu.ofAnswer (ch.respond P r).1 r.sw).octets st =
        (.ok (Rapdu.ofAnswer r.data r.sw).octets, st') ∧
      Locked st' session (ch.respond P r).2 ∧
      IdealChannel.ofSession session st' = IdealChannel.ofSession session st ∧
      SameVault session st' st := by
  have hsmall : r.data.length ≤ 239 := r.small
  have hlen := length_respond_le P ch r
  rw [octets_ofAnswer hlen, octets_ofAnswer (show r.data.length ≤ 256 by omega)]
  -- SCP03 keeps no state over a response; SCP02 writes the R-MAC chaining value back
  cases h with
  | scp03 hagree =>
    have hunwrap := LockStep03.unwrap_step P (r := r.card03) hagree (not_lt.mpr hlen)
    exact ⟨st, ofBackend_eq_ok.mpr hunwrap, .scp03 hagree, rfl, rfl, rfl⟩
  | scp02 hpending =>
    next s card =>
    obtain ⟨slot, hslot, hauth, hstep, hsame⟩ := hpending
    have hlen' : (card.respondBody P r.card02).1.length ≤ 256 := hlen
    obtain ⟨ricv, hdeliver, hnext⟩ := LockStep02.unwrapSlot_respond P hstep hauth hsame r.card02 hlen'
    have hset : (st.scp02Sessions.set s.session.index.toNat
        (some (LockStep02.afterResponse slot ricv))).get s.session.index.toNat =
        some (LockStep02.afterResponse slot ricv) :=
      SlotTable.get_set_self (SlotTable.lt_of_get hslot) _
    have hunwrap : scp02UnwrapResponse P s.session
        ((card.respondBody P r.card02).1 ++ r.card02.sw) st =
        (.ok (r.data ++ r.card02.sw),
          { st with
            scp02Sessions := st.scp02Sessions.set s.session.index.toNat
              (some (LockStep02.afterResponse slot ricv)) }) := by
      unfold scp02UnwrapResponse
      rw [hslot]
      simp only [hdeliver]
      rfl
    refine ⟨_, ofBackend_eq_ok.mpr hunwrap, .scp02 ⟨_, hset, hauth, hnext⟩, ?_, rfl, ?_⟩
    · show ((SlotTable.get _ _).map _).getD _ = ((SlotTable.get _ _).map _).getD _
      rw [hset, hslot]
      rfl
    · show (SlotTable.get _ _).map _ = (SlotTable.get _ _).map _
      rw [hset, hslot]
      rfl

end Scll

import Scll.Framework.Attack
import Scll.Framework.MacChain
import Scll.LockStep02

/-! # SCP02 response binding

    An R-MAC is chained on the R-MAC before it and covers the command it
    answers. A C-MAC is over a class byte with the secure-messaging bit, which
    the R-MAC has cleared, so none can pass for the other, not even under one
    key. As long as the host accepts, the two chains move together; a response
    out of turn is under an older chaining value, and ends the session.
-/

namespace Scll

open BlockMode Run MacChain
open LockStep02 (apduChannel InStep SameCommand receive_wrapSlot unwrapSlot_respond)

variable (P : Primitives) {ρ : Type}

namespace Binding02

/-! ### MAC terms -/

/-- What one Retail MAC is computed over. -/
structure MacTerm where
  key : TdesKey
  iv : Block 8
  input : List UInt8
  deriving DecidableEq

/-- The MAC of a term, which goes over the wire in full. -/
def MacTerm.mac (t : MacTerm) : Block 8 := macAlgorithm3 P t.key.val t.iv t.input

/-- The class byte has the secure-messaging bit. -/
def MacTerm.IsCommand (t : MacTerm) : Prop := t.input.headD 0 &&& 0x04 ≠ 0

/-- What a C-MAC covers of a C-APDU: the modified header and the plaintext data. -/
def commandInput : List UInt8 → List UInt8
  | cla :: ins :: p1 :: p2 :: rest =>
      match commandData rest with
      | .ok (data, _) => [secureCla cla, ins, p1, p2, UInt8.ofNat (data.length + 8)] ++ data
      | .error _ => []
  | _ => []

/-- The C-MAC of a C-APDU. -/
def commandTerm (slot : Scp02SessionSlot) (capdu : List UInt8) : MacTerm :=
  ⟨slot.sMac, Scp02.icvBlock P slot, commandInput capdu⟩

/-- The R-MAC over a command and its response. -/
def responseTerm (key : TdesKey) (ricv : Block 8) (command data sw : List UInt8) : MacTerm :=
  ⟨key, ricv, command ++ [UInt8.ofNat data.length] ++ data ++ sw⟩

/-- The three parts of a response with R-MAC: data, MAC and status word. -/
def responseParts (rapdu : List UInt8) : List UInt8 × List UInt8 × List UInt8 :=
  let body := rapdu.take (rapdu.length - 2)
  let split := body.length - 8
  (body.take split, body.drop split, rapdu.drop (rapdu.length - 2))

theorem responseParts_append (data : List UInt8) (mac : Block 8) (sw1 sw2 : UInt8) :
    responseParts (data ++ mac.val ++ [sw1, sw2]) = (data, mac.val, [sw1, sw2]) := by
  have hsplit : (data ++ mac.val ++ [sw1, sw2]).length - 2 = (data ++ mac.val).length := by
    rw [List.length_append]
    rfl
  have hdata : (data ++ mac.val).length - 8 = data.length := by
    rw [List.length_append, mac.property]
    omega
  simp only [responseParts, hsplit, List.take_left, List.drop_left, hdata]

theorem secureCla_ne_strip (cla : UInt8) : (cla &&& ~~~0x07) &&& 0x04 = 0 := by
  have h : ∀ n : Fin 256, (UInt8.ofFin n &&& ~~~0x07) &&& 0x04 = 0 := by decide +kernel
  exact h cla.toFin

/-! ### Terms of one command -/

/-- The C-MAC of a wrapped command, and what the next R-MAC will cover of it. -/
theorem wrapSlot_term {slot slot' : Scp02SessionSlot} {cla ins p1 p2 : UInt8}
    {rest wire : List UInt8} (h : Scp02.wrapSlot P slot cla ins p1 p2 rest = .ok (wire, slot')) :
    (commandTerm P slot (cla :: ins :: p1 :: p2 :: rest)).IsCommand ∧
      slot'.icv = (commandTerm P slot (cla :: ins :: p1 :: p2 :: rest)).mac P ∧
      slot'.authed = true ∧ slot'.level = (if slot.authed then slot.level else p1) ∧
      slot'.ricv = (if slot.authed then slot.ricv else slot'.icv) ∧
      (slot.authed = true → slot.level &&& Scp02.SL_RMAC ≠ 0 →
        ∃ tail, slot'.rmacBuf = (cla &&& ~~~0x07) :: tail) ∧
      wire.getD 2 0 = p1 := by
  obtain ⟨data, le, lc, hdata, -, -, -, hwire, hslot⟩ := Scp02.wrapSlot_ok P h
  have hinput : commandInput (cla :: ins :: p1 :: p2 :: rest) =
      [secureCla cla, ins, p1, p2, UInt8.ofNat (data.length + 8)] ++ data := by
    rw [commandInput, hdata]
  refine ⟨?_, ?_, ?_, ?_, ?_, ?_, ?_⟩
  · unfold MacTerm.IsCommand commandTerm
    rw [hinput]
    exact secureCla_and cla
  · rw [hslot, MacTerm.mac, commandTerm, hinput]
    rfl
  · rw [hslot]
    rfl
  · rw [hslot]
    rfl
  · rw [hslot]
    rfl
  · intro hauth hrmac
    rw [hslot]
    unfold Scp02.commit
    simp only [hauth, if_true, true_and]
    rw [if_pos hrmac, Scp02.rmacCommand_eq (length_commandData hdata)]
    exact ⟨_, rfl⟩
  · rw [hwire]
    rfl

/-- An open card accepts commands only at a level with C-MAC, and a closed one
    takes its level from the command. -/
theorem receive_level {card card' : Scp02Card} {wire : List UInt8} {got : Command}
    (h : card.receive P wire = some (got, card')) :
    if card.opened then card.level &&& 0x01 ≠ 0 ∧ card'.level = card.level
    else card'.level = wire.getD 2 0 ∧ card'.opened = true := by
  unfold Scp02Card.receive at h
  split at h
  · next cla ins p1 p2 lc rest =>
    dsimp only at h
    split at h
    · cases h
    · split at h
      · cases h
      · split at h
        · cases h
        · split at h
          · cases h
          · obtain ⟨card₁, haccept, hgot⟩ := Option.map_eq_some_iff.mp h
            obtain ⟨-, rfl⟩ := Prod.mk.inj hgot
            unfold Scp02Card.accept at haccept
            split
            · next hopen =>
              rw [if_pos hopen] at haccept
              split at haccept
              · cases haccept
              · next hlevel =>
                obtain rfl := Option.some.inj haccept
                exact ⟨hlevel, rfl⟩
            · next hclosed =>
              rw [if_neg hclosed] at haccept
              split at haccept
              · obtain rfl := Option.some.inj haccept
                exact ⟨rfl, rfl⟩
              · cases haccept
  · cases h

/-! ### A session under attack -/

/-- A move in an SCP02 session. -/
abbrev Move02 := Channel.Move (List UInt8) Scp02Reply (List UInt8)

/-- A move with the two ends before and after it. -/
abbrev Round02 (ρ : Type) :=
  Event (BackendState ρ × Scp02Card) Move02
    (Option (Channel.Exchanged (BackendState ρ) Scp02Card Command (List UInt8)
      (Except BackendError (List UInt8))))

section terms

variable (s : Scp02Session)

/-- The terms of an event: those of its host for the command and for the
    response, and that of its card for the response. -/
def hostCommand (e : Round02 ρ) : List MacTerm :=
  match e.out, e.before.1.scp02Sessions.get s.index.toNat with
  | some _, some slot => [commandTerm P slot e.op.command]
  | _, _ => []

def hostResponse (e : Round02 ρ) : List MacTerm :=
  match e.out with
  | some x =>
      match x.host.scp02Sessions.get s.index.toNat with
      | some slot =>
          let (data, _, sw) := responseParts e.op.delivered
          [responseTerm slot.sRmac slot.ricv slot.rmacBuf data sw]
      | none => []
  | none => []

def cardResponse (e : Round02 ρ) : List MacTerm :=
  match e.out with
  | some ⟨_, _, some (_, card), some _, _⟩ =>
      [responseTerm card.sRmac card.ricv card.command e.op.reply.data e.op.reply.sw]
  | _ => []

/-- The MACs an event computes. -/
def computes (e : Round02 ρ) : List MacTerm :=
  hostCommand P s e ++ hostResponse s e ++ cardResponse e

/-- The MACs an event puts on the wire. -/
def sends (e : Round02 ρ) : List MacTerm := hostCommand P s e ++ cardResponse e

/-- The MAC behind a response the host accepted. -/
def accepts (e : Round02 ρ) : Option (List UInt8) :=
  match e.out with
  | some ⟨_, _, _, _, .ok _⟩ => some (responseParts e.op.delivered).2.1
  | _ => none

end terms

/-- What is known of the MACs of a live session. The R-MACs `cs` that the host
    accepted chain on from `start`, the C-MAC of EXTERNAL AUTHENTICATE; `sent`
    is what has been on the wire. -/
structure Chained (U : Set MacTerm) (start : MacTerm) (slot : Scp02SessionSlot) (card : Scp02Card)
    (cs sent : List MacTerm) : Prop where
  linked : Linked (MacTerm.mac P) MacTerm.iv (start.mac P) cs
  within : ∀ t ∈ cs, t ∈ U ∧ ¬t.IsCommand
  startWithin : start ∈ U ∧ start.IsCommand
  hostChain : slot.ricv = value (MacTerm.mac P) (start.mac P) cs
  sent : ∀ t ∈ sent, t ∈ U ∧ (t.IsCommand ∨ t ∈ cs)
  authed : slot.authed = true
  rmac : slot.level &&& Scp02.SL_RMAC ≠ 0
  opened : card.opened = true
  step : card.level &&& 0x01 ≠ 0 → InStep slot card

section step

variable {P} {U : Set MacTerm} {start : MacTerm} {slot slot' : Scp02SessionSlot}
  {card card₁ : Scp02Card} {cs sent : List MacTerm}

/-- No R-MAC the host accepted is over the current chaining value. -/
theorem Chained.older (h : Chained P U start slot card cs sent)
    (hsym : Set.InjOn (MacTerm.mac P) U) {t : MacTerm} (ht : t ∈ cs) : t.iv ≠ slot.ricv := by
  have hnodup := h.linked.nodup
    (hsym.mono fun t ht => (h.within t ht).1) (fun t ht heq => by
      -- the chain starts from a C-MAC
      have hterm := hsym (h.within t ht).1 h.startWithin.1 heq
      exact (h.within t ht).2 (hterm ▸ h.startWithin.2))
  rw [h.hostChain]
  exact h.linked.prev_ne_value hnodup ht

/-- The host accepts one more R-MAC, and the chain goes on from it. -/
theorem Chained.accept (h : Chained P U start slot card cs sent) {t : MacTerm}
    {more : List MacTerm} (ht : t ∈ U ∧ ¬t.IsCommand) (hprev : t.iv = slot.ricv)
    (hricv : slot'.ricv = t.mac P) (hmore : ∀ m ∈ more, m ∈ U ∧ (m.IsCommand ∨ m = t))
    (hauthed : slot'.authed = true) (hrmac : slot'.level &&& Scp02.SL_RMAC ≠ 0)
    (hopened : card₁.opened = true) (hstep : InStep slot' card₁) :
    Chained P U start slot' card₁ (t :: cs) (sent ++ more) where
  linked := ⟨hprev.trans h.hostChain, h.linked⟩
  within m hm := by
    rcases List.mem_cons.mp hm with rfl | hm
    · exact ht
    · exact h.within m hm
  startWithin := h.startWithin
  hostChain := hricv
  sent m hm := by
    rcases List.mem_append.mp hm with hm | hm
    · obtain ⟨hU, hkind⟩ := h.sent m hm
      exact ⟨hU, hkind.imp_right (List.mem_cons_of_mem _)⟩
    · obtain ⟨hU, hkind⟩ := hmore m hm
      refine ⟨hU, hkind.imp_right ?_⟩
      rintro rfl
      exact List.mem_cons_self
  authed := hauthed
  rmac := hrmac
  opened := hopened
  step _ := hstep

/-- A delivered response is its data, the MAC of the host's term and its status word. -/
theorem unwrapSlot_term {rapdu out : List UInt8} {ricv : Block 8}
    (hrmac : slot.level &&& Scp02.SL_RMAC ≠ 0)
    (h : Scp02.unwrapSlot P slot rapdu = .deliver out ricv) :
    ∃ data sw1 sw2, rapdu = data ++
        ((responseTerm slot.sRmac slot.ricv slot.rmacBuf data [sw1, sw2]).mac P).val ++
          [sw1, sw2] ∧
      ricv = (responseTerm slot.sRmac slot.ricv slot.rmacBuf data [sw1, sw2]).mac P := by
  obtain ⟨-, body, sw1, sw2, rfl, hcase⟩ := Scp02.unwrapSlot_deliver P h
  rcases hcase with ⟨-, hok⟩ | ⟨hlevel, -⟩
  · obtain ⟨data, rfl, hmac, -⟩ := (Scp02.unwrapRmac_eq_ok P).mp hok
    have hterm : ricv = (responseTerm slot.sRmac slot.ricv slot.rmacBuf data [sw1, sw2]).mac P :=
      hmac
    exact ⟨data, sw1, sw2, by rw [← hterm], hterm⟩
  · exact absurd hlevel hrmac

/-- Equal R-MAC terms in step: the host was given the card's answer, and
    delivers what the card said. -/
theorem answer_of_term (hstep : InStep slot card) (hsame : SameCommand slot card)
    (hauth : slot.authed = true) (hrmac : slot.level &&& Scp02.SL_RMAC ≠ 0) {r : Scp02Reply}
    {rapdu data : List UInt8} {sw1 sw2 : UInt8}
    (hterm : responseTerm slot.sRmac slot.ricv slot.rmacBuf data [sw1, sw2] =
      responseTerm card.sRmac card.ricv card.command r.data r.sw)
    (hrapdu : rapdu = data ++
      ((responseTerm slot.sRmac slot.ricv slot.rmacBuf data [sw1, sw2]).mac P).val ++ [sw1, sw2])
    (hfits : (card.respondBody P r).1.length ≤ 256) :
    rapdu = (card.respondBody P r).1 ++ r.sw ∧
      ∃ ricv, Scp02.unwrapSlot P slot rapdu = .deliver (r.data ++ r.sw) ricv ∧
        InStep (LockStep02.afterResponse slot ricv) (card.respondBody P r).2 := by
  have hinput : slot.rmacBuf ++ ([UInt8.ofNat data.length] ++ (data ++ [sw1, sw2])) =
      card.command ++ ([UInt8.ofNat r.data.length] ++ (r.data ++ r.sw)) := by
    simpa [responseTerm] using congrArg MacTerm.input hterm
  rw [(hsame hrmac).1] at hinput
  obtain ⟨-, hrest⟩ := List.append_inj (List.append_cancel_left hinput) rfl
  obtain ⟨hdata, hsw⟩ := List.append_inj' hrest rfl
  have hlevel : card.level &&& 0x10 ≠ 0 := by
    rw [← hstep.level]
    exact hrmac
  have hanswer : rapdu = (card.respondBody P r).1 ++ r.sw := by
    rw [hrapdu, Scp02Card.respondBody, if_pos hlevel, hterm, hdata, hsw]
    rfl
  refine ⟨hanswer, ?_⟩
  rw [hanswer]
  exact unwrapSlot_respond P hstep hauth hsame r hfits

end step

/-! ### Runs -/

section runs

variable (s : Scp02Session)

/-- A live session has a chain that accounts for all that is on the wire. -/
def Accounted (U : Set MacTerm) (start : MacTerm) (known : List MacTerm)
    (ends : BackendState ρ × Scp02Card) : Prop :=
  ∀ slot, ends.1.scp02Sessions.get s.index.toNat = some slot →
    ∃ cs, Chained P U start slot ends.2 cs known

/-- What the host accepts is the card's answer to this command, and the host
    delivers what the card said. -/
def Bound (e : Round02 ρ) : Prop :=
  ∀ x out, e.out = some x → x.result = .ok out →
    x.Genuine e.op fun r => .ok (r.data ++ r.sw)

variable {P s} {U : Set MacTerm} {start : MacTerm} {known : List MacTerm}

/-- At a level with R-MAC an unwrap delivers, or ends the session. -/
theorem unwrap_cases {st : BackendState ρ} {slot : Scp02SessionSlot}
    (hslot : st.scp02Sessions.get s.index.toNat = some slot)
    (hrmac : slot.level &&& Scp02.SL_RMAC ≠ 0) (rapdu : List UInt8) :
    (∃ out ricv, Scp02.unwrapSlot P slot rapdu = .deliver out ricv ∧
      (scp02UnwrapResponse P s rapdu st).1 = .ok out ∧
      (scp02UnwrapResponse P s rapdu st).2.scp02Sessions.get s.index.toNat =
        some (LockStep02.afterResponse slot ricv)) ∨
    (∃ e, (scp02UnwrapResponse P s rapdu st).1 = .error e ∧
      (scp02UnwrapResponse P s rapdu st).2.scp02Sessions.get s.index.toNat = none) := by
  rcases scp02UnwrapResponse_cases P s rapdu st with
    ⟨hnone, -⟩ | ⟨slot', out, ricv, hslot', hdeliver, hok⟩ | ⟨_, e, -, -, he⟩ |
      ⟨slot', e, hslot', hrefuse, -⟩
  · rw [hslot] at hnone
    cases hnone
  · obtain rfl := Option.some.inj (hslot.symm.trans hslot')
    left
    refine ⟨out, ricv, hdeliver, by rw [hok], ?_⟩
    rw [hok]
    exact SlotTable.get_set_self (SlotTable.lt_of_get hslot) _
  · right
    rw [he]
    exact ⟨e, rfl, SlotTable.get_set_none ..⟩
  · obtain rfl := Option.some.inj (hslot.symm.trans hslot')
    exact absurd ((Scp02.unwrapSlot_refuse_iff P).mp ⟨e, hrefuse⟩).2.1 hrmac

/-- A wrapped command: the slot before and after. -/
theorem wrap_eq_some {capdu wire : List UInt8} {st st' : BackendState ρ}
    (h : (apduChannel P s).wrap capdu st = some (wire, st')) :
    ∃ cla ins p1 p2 rest slot slot', capdu = cla :: ins :: p1 :: p2 :: rest ∧
      st.scp02Sessions.get s.index.toNat = some slot ∧
      Scp02.wrapSlot P slot cla ins p1 p2 rest = .ok (wire, slot') ∧
      st'.scp02Sessions.get s.index.toNat = some slot' := by
  simp only [apduChannel] at h
  rcases scp02WrapCommand_cases P s capdu st with
    ⟨e, he⟩ | ⟨cla, ins, p1, p2, rest, slot, out, slot', hcapdu, hslot, hwrap, hok⟩
  · rw [he] at h
    cases h
  · rw [hok] at h
    obtain ⟨rfl, rfl⟩ := Prod.mk.inj (Option.some.inj h)
    exact ⟨cla, ins, p1, p2, rest, slot, slot', hcapdu, hslot, hwrap,
      SlotTable.get_set_self (SlotTable.lt_of_get hslot) _⟩

/-- Behind a delivered response there is the R-MAC of the card in the same move. -/
theorem accepted_new (hsym : Set.InjOn (MacTerm.mac P) U) {slot slot' : Scp02SessionSlot}
    {card : Scp02Card} {cs : List MacTerm} (h : Chained P U start slot card cs known)
    {cla ins p1 p2 : UInt8} {rest out : List UInt8} {ricv : Block 8} {e : Round02 ρ}
    {x : Channel.Exchanged (BackendState ρ) Scp02Card Command (List UInt8)
      (Except BackendError (List UInt8))}
    (hx : e.out = some x) (hslot : e.before.1.scp02Sessions.get s.index.toNat = some slot)
    (hcapdu : e.op.command = cla :: ins :: p1 :: p2 :: rest)
    (hwrap : Scp02.wrapSlot P slot cla ins p1 p2 rest = .ok (x.wire, slot'))
    (hslot' : x.host.scp02Sessions.get s.index.toNat = some slot')
    (hU : ∀ t ∈ computes P s e, t ∈ U)
    (hun : ∀ v ∈ accepts e, v ∈ (known ++ sends P s e).map fun t => (t.mac P).val)
    (hok : x.result = .ok out) (hdeliver : Scp02.unwrapSlot P slot' e.op.delivered =
      .deliver out ricv) :
    ∃ data sw1 sw2,
      responseTerm slot'.sRmac slot'.ricv slot'.rmacBuf data [sw1, sw2] ∈ cardResponse e ∧
      ¬(responseTerm slot'.sRmac slot'.ricv slot'.rmacBuf data [sw1, sw2]).IsCommand ∧
      e.op.delivered = data ++
        ((responseTerm slot'.sRmac slot'.ricv slot'.rmacBuf data [sw1, sw2]).mac P).val ++
          [sw1, sw2] ∧
      ricv = (responseTerm slot'.sRmac slot'.ricv slot'.rmacBuf data [sw1, sw2]).mac P := by
  obtain ⟨hIsCommand, -, -, hlevel, hricv, hbuf, -⟩ := wrapSlot_term P hwrap
  rw [if_pos h.authed] at hlevel hricv
  obtain ⟨data, sw1, sw2, hrapdu, hmac⟩ := unwrapSlot_term (hlevel ▸ h.rmac) hdeliver
  have hparts : responseParts e.op.delivered = (data, ((responseTerm slot'.sRmac slot'.ricv
      slot'.rmacBuf data [sw1, sw2]).mac P).val, [sw1, sw2]) := by
    conv_lhs => rw [hrapdu]
    exact responseParts_append data _ sw1 sw2
  have hcommand : hostCommand P s e = [commandTerm P slot e.op.command] := by
    simp only [hostCommand, hx, hslot]
  have hresponse : hostResponse s e =
      [responseTerm slot'.sRmac slot'.ricv slot'.rmacBuf data [sw1, sw2]] := by
    simp only [hostResponse, hx, hslot', hparts]
  have haccepts : accepts e = some (responseParts e.op.delivered).2.1 := by
    obtain ⟨wire, host, received, answer, result⟩ := x
    simp only at hok
    simp only [accepts, hx, hok]
  simp only [computes, hcommand, hresponse, List.forall_mem_append,
    List.forall_mem_singleton] at hU
  obtain ⟨⟨hUcommand, hUresponse⟩, hUcard⟩ := hU
  -- the R-MAC input starts with the stripped class, which no secured command has
  have hNotCommand :
      ¬(responseTerm slot'.sRmac slot'.ricv slot'.rmacBuf data [sw1, sw2]).IsCommand := by
    obtain ⟨tail, htail⟩ := hbuf h.authed h.rmac
    unfold MacTerm.IsCommand responseTerm
    rw [htail]
    exact not_not.mpr (secureCla_ne_strip cla)
  refine ⟨data, sw1, sw2, ?_, hNotCommand, hrapdu, hmac⟩
  have htag := hun _ haccepts
  rw [hparts] at htag
  obtain ⟨t, ht, heq⟩ := List.mem_map.mp htag
  have hcode := Subtype.ext heq
  rw [sends, hcommand] at ht
  rcases List.mem_append.mp ht with ht | ht
  · -- a MAC from before: a C-MAC, or an R-MAC over an older value
    obtain ⟨htU, hkind⟩ := h.sent t ht
    have hterm := hsym htU hUresponse hcode
    rcases hkind with hkind | hkind
    · exact absurd (hterm ▸ hkind) hNotCommand
    · have holder := h.older hsym hkind
      rw [hterm] at holder
      exact absurd hricv holder
  · rcases List.mem_append.mp ht with ht | ht
    · rw [List.mem_singleton.mp ht] at hcode
      have hterm := hsym hUcommand hUresponse hcode
      rw [← hcapdu] at hIsCommand
      exact absurd (hterm ▸ hIsCommand) hNotCommand
    · rw [← hsym (hUcard t ht) hUresponse hcode]
      exact ht

/-- A refused command leaves no trace. -/
theorem bound_of_refused {e : Round02 ρ} (hout : e.out = none) (hafter : e.after = e.before)
    (h : Accounted P s U start known e.before) :
    Accounted P s U start (known ++ sends P s e) e.after ∧ Bound e := by
  have hsends : sends P s e = [] := by
    simp only [sends, hostCommand, cardResponse, hout, List.append_nil]
  rw [hsends, List.append_nil, hafter]
  refine ⟨h, fun x out hx => ?_⟩
  rw [hout] at hx
  cases hx

/-- A failed unwrap ends the session. -/
theorem bound_of_error {e : Round02 ρ}
    {x : Channel.Exchanged (BackendState ρ) Scp02Card Command (List UInt8)
      (Except BackendError (List UInt8))} {err : BackendError}
    (hx : e.out = some x) (herr : x.result = .error err)
    (hdead : e.after.1.scp02Sessions.get s.index.toNat = none) :
    Accounted P s U start (known ++ sends P s e) e.after ∧ Bound e := by
  constructor
  · intro slot hslot
    rw [hdead] at hslot
    cases hslot
  · intro x' out hx' hok
    obtain rfl := Option.some.inj (hx.symm.trans hx')
    rw [herr] at hok
    cases hok

/-- What an answered move puts on the wire: a C-MAC and the card's R-MAC. -/
theorem mem_sends_of_answered {e : Round02 ρ} {c r : MacTerm} (hU : ∀ t ∈ computes P s e, t ∈ U)
    (hcommand : hostCommand P s e = [c]) (hresponse : cardResponse e = [r])
    (hIsCommand : c.IsCommand) : ∀ m ∈ sends P s e, m ∈ U ∧ (m.IsCommand ∨ m = r) := by
  intro m hm
  rcases List.mem_append.mp hm with hm | hm
  · refine ⟨hU m (List.mem_append_left _ (List.mem_append_left _ hm)), .inl ?_⟩
    rw [hcommand] at hm
    rw [List.mem_singleton.mp hm]
    exact hIsCommand
  · refine ⟨hU m (List.mem_append_right _ hm), .inr ?_⟩
    rw [hresponse] at hm
    exact List.mem_singleton.mp hm

/-- One move: the chain goes on accounting for the wire, and nothing but the
    card's own answer is accepted. -/
theorem round_bound (hsym : Set.InjOn (MacTerm.mac P) U) {e : Round02 ρ}
    (his : IsStep (apduChannel P s).attacked e) (hU : ∀ t ∈ computes P s e, t ∈ U)
    (hun : ∀ v ∈ accepts e, v ∈ (known ++ sends P s e).map fun t => (t.mac P).val)
    (h : Accounted P s U start known e.before) :
    Accounted P s U start (known ++ sends P s e) e.after ∧ Bound e := by
  have hout : e.out = ((apduChannel P s).attacked e.op e.before).1 := by rw [his]
  have hafter : e.after = ((apduChannel P s).attacked e.op e.before).2 := by rw [his]
  rcases hw : (apduChannel P s).wrap e.op.command e.before.1 with _ | ⟨wire, st'⟩
  · rw [(apduChannel P s).attacked_of_refused hw] at hout hafter
    exact bound_of_refused hout hafter h
  obtain ⟨cla, ins, p1, p2, rest, slot, slot', hcapdu, hslot, hwrap, hslot'⟩ := wrap_eq_some hw
  obtain ⟨cs, hchained⟩ := h slot hslot
  obtain ⟨hIsCommand, -, hauth, hlevel, hricv, -, -⟩ := wrapSlot_term P hwrap
  rw [if_pos hchained.authed] at hlevel hricv
  have hrmac : slot'.level &&& Scp02.SL_RMAC ≠ 0 := hlevel ▸ hchained.rmac
  obtain ⟨x, hx, hxwire, hxhost, hresult, hxafter⟩ := (apduChannel P s).attacked_host hw
  rw [← hout] at hx
  rcases unwrap_cases hslot' hrmac e.op.delivered with
    ⟨out, ricv, hdeliver, hok, hlive⟩ | ⟨err, herr, hdead⟩
  · -- delivered: the card's own R-MAC is behind it
    have hxok : x.result = .ok out := hresult.trans hok
    obtain ⟨data, sw1, sw2, hmem, hNotCommand, hdelivered, hmac⟩ :=
      accepted_new hsym hchained hx hslot hcapdu (hxwire ▸ hwrap) (hxhost ▸ hslot') hU hun hxok
        hdeliver
    rcases (apduChannel P s).attacked_of_wrap hw e.before.2 with
      ⟨-, got, card₁, hreceive, ⟨answer, card₂, hrespond, heq⟩ | ⟨-, heq⟩⟩ | heq <;>
    rw [Prod.mk.eta] at heq <;> rw [heq] at hout hafter
    · simp only [apduChannel] at hrespond
      split at hrespond
      · cases hrespond
      · next hfits =>
        obtain ⟨rfl, rfl⟩ := Prod.mk.inj (Option.some.inj hrespond)
        have hresponse : cardResponse e = [responseTerm card₁.sRmac card₁.ricv card₁.command
            e.op.reply.data e.op.reply.sw] := by
          simp only [cardResponse, hout]
        have hcommand : hostCommand P s e = [commandTerm P slot e.op.command] := by
          simp only [hostCommand, hout, hslot]
        rw [hresponse, List.mem_singleton] at hmem
        -- the card took the command, so both ends are in step before it answers
        have hcmac := receive_level P hreceive
        rw [if_pos hchained.opened] at hcmac
        obtain ⟨d, le, _, hdata, -⟩ := Scp02.wrapSlot_ok P hwrap
        obtain ⟨card', hreceive', -, hstep, hsame⟩ := receive_wrapSlot P
          (hchained.step hcmac.1) (fun hf => absurd hchained.authed (by rw [hf]; decide)) hdata hwrap
        obtain ⟨-, rfl⟩ := Prod.mk.inj (Option.some.inj (hreceive.symm.trans hreceive'))
        obtain ⟨hanswer, ricv', hdeliver', hnext⟩ := answer_of_term hstep (hsame hchained.authed)
          hauth hrmac hmem hdelivered (by omega)
        rw [hdeliver] at hdeliver'
        injection hdeliver' with hout' hricv'
        refine ⟨?_, ?_⟩
        · rw [hafter]
          intro slot'' hslot''
          obtain rfl := Option.some.inj (hlive.symm.trans hslot'')
          have hmore := mem_sends_of_answered hU hcommand hresponse (by rw [hcapdu]; exact hIsCommand)
          have hresponseU : responseTerm card₁.sRmac card₁.ricv card₁.command e.op.reply.data
              e.op.reply.sw ∈ U :=
            hU _ (List.mem_append_right _ (by rw [hresponse]; exact List.mem_cons_self))
          refine ⟨_, hchained.accept ⟨hresponseU, hmem ▸ hNotCommand⟩ ?_ ?_ hmore hauth hrmac ?_
            (hricv' ▸ hnext)⟩
          · rw [← hmem]
            exact hricv
          · rw [← hmem]
            exact hmac
          · rw [← hnext.opened]
            exact hauth
        · intro x' out₁ hx' hok'
          obtain rfl := Option.some.inj (hx.symm.trans hx')
          obtain rfl := Except.ok.inj (hxok.symm.trans hok')
          obtain rfl := Option.some.inj (hx.symm.trans hout)
          exact ⟨rfl, congrArg some hanswer.symm, by rw [hxok, hout']⟩
    · -- a card that said nothing has put no R-MAC on the wire
      simp only [cardResponse, hout] at hmem
      cases hmem
    · simp only [cardResponse, hout] at hmem
      cases hmem
  · refine bound_of_error hx (hresult.trans herr) ?_
    rw [hafter, hxafter]
    exact hdead

end runs

/-! ### Sessions -/

/-- EXTERNAL AUTHENTICATE opens both ends, and its C-MAC starts the R-MAC chain. -/
theorem opened_chained {U : Set MacTerm} {sEnc sMac sRmac sDek : TdesKey}
    {cla ins p1 p2 : UInt8} {rest wire : List UInt8} {slot : Scp02SessionSlot} {card : Scp02Card}
    {got : Command}
    (hwrap : Scp02.wrapSlot P (Scp02.fresh sEnc sMac sRmac sDek) cla ins p1 p2 rest =
      .ok (wire, slot))
    (hreceive : (Scp02Card.fresh sEnc sMac sRmac).receive P wire = some (got, card))
    (hlevel : card.level &&& 0x10 ≠ 0)
    (hU : commandTerm P (Scp02.fresh sEnc sMac sRmac sDek) (cla :: ins :: p1 :: p2 :: rest) ∈ U) :
    Chained P U
      (commandTerm P (Scp02.fresh sEnc sMac sRmac sDek) (cla :: ins :: p1 :: p2 :: rest)) slot card
      [] [commandTerm P (Scp02.fresh sEnc sMac sRmac sDek) (cla :: ins :: p1 :: p2 :: rest)] := by
  obtain ⟨hIsCommand, hicv, hauth, hslotLevel, hricv, -, hp1⟩ := wrapSlot_term P hwrap
  have hclosed : ¬(Scp02Card.fresh sEnc sMac sRmac).opened = true := Bool.false_ne_true
  have hunauth : ¬(Scp02.fresh sEnc sMac sRmac sDek).authed = true := Bool.false_ne_true
  have hcard := receive_level P hreceive
  rw [if_neg hclosed, hp1] at hcard
  rw [if_neg hunauth] at hslotLevel hricv
  obtain ⟨data, le, _, hdata, -⟩ := Scp02.wrapSlot_ok P hwrap
  refine ⟨trivial, by simp, ⟨hU, hIsCommand⟩, hricv.trans hicv, ?_, hauth, ?_, hcard.2, ?_⟩
  · simp only [List.forall_mem_singleton]
    exact ⟨hU, .inl hIsCommand⟩
  · rw [hslotLevel, ← hcard.1]
    exact hlevel
  · intro hcmac
    obtain ⟨card', hreceive', -, hstep, -⟩ := receive_wrapSlot P
      (LockStep02.fresh_inStep sEnc sMac sRmac sDek) (fun _ => hcard.1 ▸ hcmac) hdata hwrap
    obtain ⟨-, rfl⟩ := Prod.mk.inj (Option.some.inj (hreceive.symm.trans hreceive'))
    exact hstep

/-- A session under attack, from the derivation of its keys: EXTERNAL
    AUTHENTICATE opens it at a level with R-MAC, and any moves follow. -/
structure Attack (ρ : Type) where
  handle : Scp02Session
  /-- The two ends before EXTERNAL AUTHENTICATE. -/
  derivedHost : BackendState ρ
  derivedCard : Scp02Card
  externalAuthenticate : List UInt8
  wire : List UInt8
  got : Command
  /-- The two ends of the open channel. -/
  host : BackendState ρ
  card : Scp02Card
  moves : List Move02
  derived : LockStep02.Derived handle derivedHost derivedCard
  wrapped : (apduChannel P handle).wrap externalAuthenticate derivedHost = some (wire, host)
  received : derivedCard.receive P wire = some (got, card)
  rmac : card.level &&& 0x10 ≠ 0

namespace Attack

variable {P} (a : Attack P ρ)

/-- What the moves come to. -/
def rounds : List (Round02 ρ) := run (apduChannel P a.handle).attacked a.moves (a.host, a.card)

/-- The MAC of EXTERNAL AUTHENTICATE, the first of the session. -/
def openingTerm : MacTerm :=
  ⟨a.derivedCard.sMac, Block.zero 8, commandInput a.externalAuthenticate⟩

/-- The MACs the two ends compute. -/
def terms : List MacTerm := a.openingTerm :: a.rounds.flatMap (computes P a.handle)

/-- The attacker forges no MAC: the host accepts those that went over the wire. -/
def NoForgery : Prop :=
  Unforged (fun t => (MacTerm.mac P t).val) (sends P a.handle) accepts [a.openingTerm] a.rounds

/-- Response binding, over SCP02. -/
theorem rounds_bound (hsym : Set.InjOn (MacTerm.mac P) {t | t ∈ a.terms}) (hun : a.NoForgery) :
    ∀ e ∈ a.rounds, Bound e := by
  obtain ⟨sEnc, sMac, sRmac, sDek, hcard₀, hslot₀⟩ := a.derived
  obtain ⟨cla, ins, p1, p2, rest, slot₀, slot, hcapdu, hget, hwrap, hslot⟩ :=
    wrap_eq_some a.wrapped
  obtain rfl := Option.some.inj (hslot₀.symm.trans hget)
  have hreceive := a.received
  rw [hcard₀] at hreceive
  have hterm : a.openingTerm =
      commandTerm P (Scp02.fresh sEnc sMac sRmac sDek) (cla :: ins :: p1 :: p2 :: rest) := by
    rw [openingTerm, hcard₀, hcapdu]
    rfl
  have hU : commandTerm P (Scp02.fresh sEnc sMac sRmac sDek)
      (cla :: ins :: p1 :: p2 :: rest) ∈ {t | t ∈ a.terms} := by
    rw [← hterm]
    exact List.mem_cons_self
  have hchained := opened_chained P hwrap hreceive a.rmac hU
  rw [NoForgery, hterm] at hun
  refine forall_of_step (I := Accounted P a.handle {t | t ∈ a.terms} (commandTerm P
      (Scp02.fresh sEnc sMac sRmac sDek) (cla :: ins :: p1 :: p2 :: rest)))
    (fun e known his hUe haccept h => round_bound hsym his hUe haccept h) ?_ hun ?_
  · intro e he t ht
    exact List.mem_cons_of_mem _ (List.mem_flatMap.mpr ⟨e, he, ht⟩)
  · intro slot' hslot'
    obtain rfl := Option.some.inj (hslot.symm.trans hslot')
    exact ⟨_, hchained⟩

end Attack

end Binding02

end Scll

import Scll.Framework.Attack
import Scll.Framework.MacChain
import Scll.Delivery

/-! # SCP03 response binding

    Every R-MAC covers the chaining value, and the chaining value is the C-MAC
    of the command it answers. Where no two terms of a run have one MAC, that
    value is new with every command: of all the MACs on the wire only the one in
    the card's own answer to this very command can verify.
-/

namespace Scll

open BlockMode Run MacChain
open LockStep03 (apduChannel)

variable (P : Primitives) {ρ : Type}

namespace Binding03

/-! ### MAC terms -/

/-- What one AES-CMAC is computed over. -/
structure MacTerm where
  key : List UInt8
  input : List UInt8
  deriving DecidableEq

/-- The MAC of a term. -/
def MacTerm.mac (t : MacTerm) : List UInt8 := (P.aesCmac t.key t.input).val

/-- The MAC as it goes over the wire. -/
def MacTerm.tag (mode : ScpMode) (t : MacTerm) : List UInt8 := (t.mac P).take mode.macLen

/-- The chaining value a term covers. -/
def MacTerm.prev (t : MacTerm) : List UInt8 := t.input.take 16

/-- The C-MAC over a wrapped command: the chaining value, the header and the body. -/
def commandTerm (key : AesKey) (chain : Block 16) (mode : ScpMode) (wire : List UInt8) : MacTerm :=
  ⟨key.val, chain.val ++ wire.take (5 + ((wire.getD 4 0).toNat - mode.macLen))⟩

/-- The R-MAC over a response: the chaining value, the wire data and the status word. -/
def responseTerm (key : AesKey) (chain : Block 16) (data sw : List UInt8) : MacTerm :=
  ⟨key.val, chain.val ++ data ++ sw⟩

/-- The MAC a wrapped command carries. -/
def commandTag (mode : ScpMode) (wire : List UInt8) : List UInt8 :=
  ((wire.drop 5).take (wire.getD 4 0).toNat).drop ((wire.getD 4 0).toNat - mode.macLen)

/-- The three parts of a response with R-MAC: wire data, MAC and status word. -/
def responseParts (mode : ScpMode) (rapdu : List UInt8) : List UInt8 × List UInt8 × List UInt8 :=
  let body := rapdu.take (rapdu.length - 2)
  let split := body.length - mode.macLen
  (body.take split, body.drop split, rapdu.drop (rapdu.length - 2))

theorem prev_commandTerm (key : AesKey) (chain : Block 16) (mode : ScpMode) (wire : List UInt8) :
    (commandTerm key chain mode wire).prev = chain.val :=
  List.take_left' chain.property

theorem prev_responseTerm (key : AesKey) (chain : Block 16) (data sw : List UInt8) :
    (responseTerm key chain data sw).prev = chain.val := by
  unfold MacTerm.prev responseTerm
  rw [List.append_assoc]
  exact List.take_left' chain.property

theorem tag_eq_of_mac_eq {mode : ScpMode} {t t' : MacTerm} (h : t.mac P = t'.mac P) :
    t.tag P mode = t'.tag P mode := by
  rw [MacTerm.tag, MacTerm.tag, h]

theorem responseParts_append {mode : ScpMode} {data tag : List UInt8} (sw1 sw2 : UInt8)
    (htag : tag.length = mode.macLen) :
    responseParts mode (data ++ tag ++ [sw1, sw2]) = (data, tag, [sw1, sw2]) := by
  have hsplit : (data ++ tag ++ [sw1, sw2]).length - 2 = (data ++ tag).length := by
    rw [List.length_append]
    rfl
  have hdata : (data ++ tag).length - mode.macLen = data.length := by
    rw [List.length_append, htag]
    omega
  simp only [responseParts, hsplit, List.take_left, List.drop_left, hdata]

/-! ### Terms of one command -/

/-- A wrapped command carries the tag of its term, whose MAC is the new chaining value. -/
theorem wrapSlot_term {slot slot' : Scp03SessionSlot} {cla ins p1 p2 : UInt8}
    {rest wire : List UInt8} (h : wrapSlot P slot cla ins p1 p2 rest = .ok (wire, slot')) :
    commandTag slot.mode wire =
        (commandTerm slot.sMac slot.chain slot.mode wire).tag P slot.mode ∧
      slot'.chain.val = (commandTerm slot.sMac slot.chain slot.mode wire).mac P ∧
      slot'.mode = slot.mode := by
  obtain ⟨data, le, body, counter, level, lc, -, -, -, hlc, hwire, hslot⟩ := wrapSlot_ok P h
  have hget : wire.getD 4 0 = lc := by
    rw [hwire]
    rfl
  have hsub : body.length + slot.mode.macLen - slot.mode.macLen = body.length := by omega
  have hmac := slot.mode.macLen_le
  generalize hfull : commandMac P slot [secureCla cla, ins, p1, p2, lc] body = full at hwire hslot
  have htag : (full.val.take slot.mode.macLen).length = slot.mode.macLen := by
    rw [List.length_take, full.property]
    omega
  have hterm : commandTerm slot.sMac slot.chain slot.mode wire =
      ⟨slot.sMac.val, slot.chain.val ++ [secureCla cla, ins, p1, p2, lc] ++ body⟩ := by
    have hcover : wire.take (5 + body.length) = [secureCla cla, ins, p1, p2, lc] ++ body := by
      rw [hwire, List.append_assoc]
      apply List.take_left'
      simp only [List.length_append, List.length_cons, List.length_nil]
    rw [commandTerm, hget, hlc, hsub, hcover, List.append_assoc]
  have hfull' : (commandTerm slot.sMac slot.chain slot.mode wire).mac P = full.val := by
    rw [hterm, ← hfull]
    rfl
  refine ⟨?_, ?_, ?_⟩
  · have hdrop : wire.drop 5 = body ++ full.val.take slot.mode.macLen ++ le := by
      rw [hwire]
      simp
    have hfield : (body ++ full.val.take slot.mode.macLen ++ le).take
        (body.length + slot.mode.macLen) = body ++ full.val.take slot.mode.macLen :=
      List.take_left' (by rw [List.length_append, htag])
    rw [MacTerm.tag, hfull', commandTag, hget, hlc, hdrop, hfield, hsub, List.drop_left]
  · rw [hfull', hslot]
  · rw [hslot]

/-- A command the card accepts carries the tag of the card's term. -/
theorem receive_term {card card' : Scp03Card} {wire : List UInt8} {got : Command}
    (h : card.receive P wire = some (got, card')) :
    commandTag card.mode wire =
        (commandTerm card.sMac card.chain card.mode wire).tag P card.mode ∧
      card'.chain.val = (commandTerm card.sMac card.chain card.mode wire).mac P ∧
      ∃ body data card₁, card.accept P (wire.getD 1 0) (wire.getD 2 0) body = some (data, card₁) ∧
        card' = { card₁ with chain := card'.chain } := by
  -- the card checks the lengths and the MAC before it looks at the body
  unfold Scp03Card.receive at h
  split at h
  · next cla ins p1 p2 lc rest =>
    dsimp only at h
    split at h
    · cases h
    · split at h
      · cases h
      · next hlen =>
        split at h
        · cases h
        · next hmac =>
          have hlen' : (rest.take lc.toNat).length = lc.toNat ∧
              card.mode.macLen ≤ lc.toNat := by omega
          rw [hlen'.1] at hmac h
          have hbody : (rest.take lc.toNat).take (lc.toNat - card.mode.macLen) =
              rest.take (lc.toNat - card.mode.macLen) := by
            rw [List.take_take]
            congr 1
            omega
          have hterm : (commandTerm card.sMac card.chain card.mode
              (cla :: ins :: p1 :: p2 :: lc :: rest)).mac P =
              (card.cmac P [cla, ins, p1, p2, lc]
                ((rest.take lc.toNat).take (lc.toNat - card.mode.macLen))).val := by
            have hcover : (cla :: ins :: p1 :: p2 :: lc :: rest).take
                (5 + (lc.toNat - card.mode.macLen)) =
                [cla, ins, p1, p2, lc] ++ rest.take (lc.toNat - card.mode.macLen) := by
              rw [Nat.add_comm]
              rfl
            have hget : (cla :: ins :: p1 :: p2 :: lc :: rest).getD 4 0 = lc := rfl
            rw [commandTerm, MacTerm.mac, hget, hcover, hbody, Scp03Card.cmac, List.append_assoc]
          obtain ⟨⟨data, card₁⟩, haccept, hgot⟩ := Option.map_eq_some_iff.mp h
          obtain ⟨-, hcard⟩ := Prod.mk.inj hgot
          refine ⟨?_, ?_, _, data, card₁, haccept, ?_⟩
          · rw [MacTerm.tag, hterm, ← not_not.mp hmac]
            rfl
          · rw [hterm, ← hcard]
          · rw [← hcard]
  · cases h

/-- An open card accepts commands only at a level with C-MAC. -/
theorem receive_cmac {card card' : Scp03Card} {wire : List UInt8} {got : Command}
    (h : card.receive P wire = some (got, card')) (hopen : card.opened = true) :
    card.level &&& 0x01 ≠ 0 := by
  obtain ⟨-, -, body, data, card₁, haccept, -⟩ := receive_term P h
  unfold Scp03Card.accept at haccept
  rw [if_pos hopen] at haccept
  intro hlevel
  dsimp only at haccept
  rw [if_pos hlevel] at haccept
  cases haccept

/-! ### A session under attack -/

/-- A move in an SCP03 session. -/
abbrev Move03 := Channel.Move (List UInt8) CardReply (List UInt8)

/-- A move with the two ends before and after it. -/
abbrev Round03 (ρ : Type) :=
  Event (BackendState ρ × Scp03Card) Move03
    (Option (Channel.Exchanged (BackendState ρ) Scp03Card Command (List UInt8)
      (Except BackendError (List UInt8))))

/-- The status word of what the host is given. -/
def deliveredStatus (m : Move03) : List UInt8 := m.delivered.drop (m.delivered.length - 2)

section terms

variable (s : Scp03Session)

/-- The terms of an event: those its host, and those its card, computes for the
    command and for the response. -/
def hostCommand (e : Round03 ρ) : List MacTerm :=
  match e.out, e.before.1.sessions.get s.index.toNat with
  | some x, some slot => [commandTerm slot.sMac slot.chain slot.mode x.wire]
  | _, _ => []

def cardCommand (e : Round03 ρ) : List MacTerm :=
  match e.out with
  | some x =>
      if e.op.forward then
        [commandTerm e.before.2.sMac e.before.2.chain e.before.2.mode x.wire]
      else []
  | none => []

def hostResponse (e : Round03 ρ) : List MacTerm :=
  match e.out with
  | some x =>
      match x.host.sessions.get s.index.toNat with
      | some slot =>
          let (data, _, sw) := responseParts slot.mode e.op.delivered
          [responseTerm slot.sRmac slot.chain data sw]
      | none => []
  | none => []

def cardResponse (e : Round03 ρ) : List MacTerm :=
  match e.out with
  | some ⟨_, _, some (_, card), some _, _⟩ =>
      -- an error status word comes without R-MAC
      if ProtectedStatus e.op.reply.sw1 e.op.reply.sw2 then
        [responseTerm card.sRmac card.chain (card.wireData P e.op.reply.data) e.op.reply.sw]
      else []
  | _ => []

/-- All MACs an event computes. -/
def computes (e : Round03 ρ) : List MacTerm :=
  hostCommand s e ++ cardCommand e ++ hostResponse s e ++ cardResponse P e

/-- The MACs an event puts on the wire. -/
def sends (e : Round03 ρ) : List MacTerm := hostCommand s e ++ cardResponse P e

/-- The MAC behind a response the host accepted under a protected status word. -/
def accepts (mode : ScpMode) (e : Round03 ρ) : Option (List UInt8) :=
  match e.out with
  | some ⟨_, _, _, _, .ok _⟩ =>
      if swIsProtected (deliveredStatus e.op) then some (responseParts mode e.op.delivered).2.1
      else none
  | _ => none

end terms

/-- What is known of the MACs of a live session. `cs` are the C-MACs of the
    host, `sent` what has been on the wire. -/
structure Chained (U : Set MacTerm) (mode : ScpMode) (slot : Scp03SessionSlot)
    (card : Scp03Card) (cs sent : List MacTerm) : Prop where
  linked : Linked (MacTerm.mac P) MacTerm.prev (Block.zero 16).val cs
  within : ∀ t ∈ cs, t ∈ U
  /-- The host's chaining value is its last C-MAC, the card's one of them. -/
  hostChain : slot.chain.val = value (MacTerm.mac P) (Block.zero 16).val cs
  cardChain : card.chain.val ∈ history (MacTerm.mac P) (Block.zero 16).val cs
  sent : ∀ t ∈ sent, t ∈ U ∧ t.prev ∈ history (MacTerm.mac P) (Block.zero 16).val cs
  authed : slot.authed = true
  rmac : slot.level &&& SL_RMAC ≠ 0
  hostMode : slot.mode = mode
  cardMode : card.mode = mode
  opened : card.opened = true
  /-- Ends with the same chaining value agree on everything else. -/
  step : card.level &&& 0x01 ≠ 0 → card.chain = slot.chain → InStep slot card

/-- The MACs of a run are symbolic: two of them are equal only over the same
    key and input, and none is the zero block the chain starts from. -/
structure Symbolic (mode : ScpMode) (U : Set MacTerm) : Prop where
  injective : Set.InjOn (MacTerm.tag P mode) U
  nonzero : ∀ t ∈ U, t.mac P ≠ (Block.zero 16).val

theorem Symbolic.nodup {mode : ScpMode} {U : Set MacTerm} (h : Symbolic P mode U)
    {cs : List MacTerm} (hwithin : ∀ t ∈ cs, t ∈ U)
    (hlinked : Linked (MacTerm.mac P) MacTerm.prev (Block.zero 16).val cs) :
    (history (MacTerm.mac P) (Block.zero 16).val cs).Nodup := by
  refine hlinked.nodup ?_ (fun t ht => h.nonzero t (hwithin t ht))
  intro t ht t' ht' hmac
  exact h.injective (hwithin t ht) (hwithin t' ht') (tag_eq_of_mac_eq P hmac)

/-! ### One move -/

section step

variable {P} {U : Set MacTerm} {mode : ScpMode} {slot slot' : Scp03SessionSlot}
  {card card₁ : Scp03Card}
  {cs sent : List MacTerm} {cla ins p1 p2 : UInt8} {rest wire rapdu out : List UInt8}
  {got : Command}

/-- Another MAC over a value of the chain goes onto the wire. -/
theorem Chained.send (h : Chained P U mode slot card cs sent) {t : MacTerm} (hU : t ∈ U)
    (hprev : t.prev ∈ history (MacTerm.mac P) (Block.zero 16).val cs) :
    Chained P U mode slot card cs (sent ++ [t]) := by
  refine { h with sent := ?_ }
  intro t' ht'
  rcases List.mem_append.mp ht' with ht' | ht'
  · exact h.sent t' ht'
  · rw [List.mem_singleton.mp ht']
    exact ⟨hU, hprev⟩

/-- With every command the chain goes on to a value it never had. -/
theorem Chained.extend (h : Chained P U mode slot card cs sent) (hsym : Symbolic P mode U)
    (hwrap : wrapSlot P slot cla ins p1 p2 rest = .ok (wire, slot'))
    (hU : commandTerm slot.sMac slot.chain slot.mode wire ∈ U) :
    Linked (MacTerm.mac P) MacTerm.prev (Block.zero 16).val
        (commandTerm slot.sMac slot.chain slot.mode wire :: cs) ∧
      (∀ t ∈ commandTerm slot.sMac slot.chain slot.mode wire :: cs, t ∈ U) ∧
      slot'.chain.val ∉ history (MacTerm.mac P) (Block.zero 16).val cs := by
  have hlinked : Linked (MacTerm.mac P) MacTerm.prev (Block.zero 16).val
      (commandTerm slot.sMac slot.chain slot.mode wire :: cs) :=
    ⟨by rw [prev_commandTerm, h.hostChain], h.linked⟩
  have hwithin : ∀ t ∈ commandTerm slot.sMac slot.chain slot.mode wire :: cs, t ∈ U := by
    intro t ht
    rcases List.mem_cons.mp ht with rfl | ht
    · exact hU
    · exact h.within t ht
  obtain ⟨-, hchain, -⟩ := wrapSlot_term P hwrap
  refine ⟨hlinked, hwithin, ?_⟩
  rw [hchain]
  exact (List.nodup_cons.mp (hsym.nodup P hwithin hlinked)).1

/-- A command that does not reach the card, or that the card refuses. -/
theorem Chained.lost (h : Chained P U mode slot card cs sent) (hsym : Symbolic P mode U)
    (hwrap : wrapSlot P slot cla ins p1 p2 rest = .ok (wire, slot'))
    (hU : commandTerm slot.sMac slot.chain slot.mode wire ∈ U) :
    Chained P U mode slot' card (commandTerm slot.sMac slot.chain slot.mode wire :: cs)
      (sent ++ [commandTerm slot.sMac slot.chain slot.mode wire]) := by
  obtain ⟨hlinked, hwithin, hfresh⟩ := h.extend hsym hwrap hU
  obtain ⟨-, hchain, hmode⟩ := wrapSlot_term P hwrap
  obtain ⟨hauth, hlevel, -⟩ := Delivery.wrapSlot_latch P hwrap
  rw [if_pos h.authed] at hlevel
  refine ⟨hlinked, hwithin, hchain, List.mem_cons_of_mem _ h.cardChain, ?_, hauth,
    by rw [hlevel]; exact h.rmac, hmode.trans h.hostMode, h.cardMode, h.opened, ?_⟩
  · intro t ht
    rcases List.mem_append.mp ht with ht | ht
    · exact ⟨(h.sent t ht).1, List.mem_cons_of_mem _ (h.sent t ht).2⟩
    · rw [List.mem_singleton.mp ht, prev_commandTerm, h.hostChain]
      exact ⟨hU, List.mem_cons_of_mem _ (value_mem_history cs)⟩
  · intro _ heq
    -- the host's new value is none the card can have
    have hcard := h.cardChain
    rw [heq] at hcard
    exact absurd hcard hfresh

/-- A command the card accepts brings the two ends in step. -/
theorem Chained.taken (h : Chained P U mode slot card cs sent) (hsym : Symbolic P mode U)
    (hwrap : wrapSlot P slot cla ins p1 p2 rest = .ok (wire, slot'))
    (hU : commandTerm slot.sMac slot.chain slot.mode wire ∈ U)
    (hU' : commandTerm card.sMac card.chain card.mode wire ∈ U)
    (hreceive : card.receive P wire = some (got, card₁)) :
    InStep slot' card₁ ∧
      Chained P U mode slot' card₁ (commandTerm slot.sMac slot.chain slot.mode wire :: cs)
        (sent ++ [commandTerm slot.sMac slot.chain slot.mode wire]) := by
  obtain ⟨htag, hchain, -⟩ := wrapSlot_term P hwrap
  obtain ⟨htag', -⟩ := receive_term P hreceive
  have hcmac := receive_cmac P hreceive h.opened
  -- the C-MAC verified, so the card was at the host's chaining value
  have hterm : commandTerm card.sMac card.chain card.mode wire =
      commandTerm slot.sMac slot.chain slot.mode wire := by
    rw [h.hostMode] at htag hU ⊢
    rw [h.cardMode] at htag' hU' ⊢
    exact hsym.injective hU' hU (htag'.symm.trans htag)
  have hsame : card.chain = slot.chain := by
    apply Subtype.ext
    rw [← prev_commandTerm card.sMac card.chain card.mode wire, hterm, prev_commandTerm]
  have hstep := h.step hcmac hsame
  obtain ⟨data, le, _, _, _, _, hdata, -⟩ := wrapSlot_ok P hwrap
  obtain ⟨card', hreceive', hstep', -⟩ := receive_wrapSlot P hstep
    (fun hf => absurd h.authed (by rw [hf]; decide)) hdata hwrap
  obtain ⟨-, rfl⟩ := Prod.mk.inj (Option.some.inj (hreceive.symm.trans hreceive'))
  have hlost := h.lost hsym hwrap hU
  refine ⟨hstep', { hlost with
    cardChain := ?_, cardMode := ?_, opened := ?_, step := fun _ _ => hstep' }⟩
  · rw [← hstep'.chain, hchain]
    exact List.mem_cons_self
  · rw [← hstep'.mode]
    exact hlost.hostMode
  · rw [← hstep'.opened]
    exact hlost.authed

/-- An accepted response under a protected status word is its wire data, the
    tag of the host's term and its status word. -/
theorem unwrapSlot_term (hrmac : slot.level &&& SL_RMAC ≠ 0)
    (h : unwrapSlot P slot rapdu = .ok out)
    (hprot : swIsProtected (rapdu.drop (rapdu.length - 2)) = true) :
    ∃ data sw1 sw2, responseParts slot.mode rapdu =
        (data, (responseTerm slot.sRmac slot.chain data [sw1, sw2]).tag P slot.mode, [sw1, sw2]) ∧
      rapdu = data ++ (responseTerm slot.sRmac slot.chain data [sw1, sw2]).tag P slot.mode ++
        [sw1, sw2] := by
  obtain ⟨body, sw1, sw2, rfl, hverified, -⟩ := Delivery.unwrapSlot_delivers P hrmac h
  have hsplit : (body ++ [sw1, sw2]).length - 2 = body.length := by simp
  rw [hsplit, List.drop_left, swIsProtected_iff] at hprot
  obtain ⟨data, _, sw1', sw2', heq, -⟩ := hverified hprot
  have hlen := length_responseMac P slot data [sw1', sw2']
  refine ⟨data, sw1', sw2', ?_, heq⟩
  rw [heq]
  exact responseParts_append sw1' sw2' hlen

/-- The MAC of an accepted response is none of those over another chaining value. -/
theorem accepted_term {old new : List MacTerm} (hsym : Symbolic P mode U) (hmode : slot.mode = mode)
    (hrmac : slot.level &&& SL_RMAC ≠ 0)
    (hold : ∀ t ∈ old, t ∈ U ∧ t.prev ≠ slot.chain.val) (hnew : ∀ t ∈ new, t ∈ U)
    (hU : responseTerm slot.sRmac slot.chain (responseParts slot.mode rapdu).1
      (responseParts slot.mode rapdu).2.2 ∈ U)
    (h : unwrapSlot P slot rapdu = .ok out)
    (hprot : swIsProtected (rapdu.drop (rapdu.length - 2)) = true)
    (htag : (responseParts mode rapdu).2.1 ∈ (old ++ new).map (MacTerm.tag P mode)) :
    ∃ data sw1 sw2, responseTerm slot.sRmac slot.chain data [sw1, sw2] ∈ new ∧
      rapdu = data ++ (responseTerm slot.sRmac slot.chain data [sw1, sw2]).tag P mode ++
        [sw1, sw2] := by
  subst hmode
  obtain ⟨data, sw1, sw2, hparts, hrapdu⟩ := unwrapSlot_term hrmac h hprot
  rw [hparts] at hU htag
  obtain ⟨t, ht, heq⟩ := List.mem_map.mp htag
  refine ⟨data, sw1, sw2, ?_, hrapdu⟩
  rcases List.mem_append.mp ht with ht | ht
  · have hterm := hsym.injective (hold t ht).1 hU heq
    exact absurd (by rw [hterm, prev_responseTerm]) (hold t ht).2
  · rw [← hsym.injective (hnew t ht) hU heq]
    exact ht

/-- Equal R-MAC terms in step: the host was given the card's answer, and
    delivers what the card said. -/
theorem answer_of_term (hstep : InStep slot card) (hmode : slot.mode = mode)
    (hrmac : slot.level &&& SL_RMAC ≠ 0) {r : CardReply} (hprot : ProtectedStatus r.sw1 r.sw2)
    {data : List UInt8} {sw1 sw2 : UInt8}
    (hterm : responseTerm slot.sRmac slot.chain data [sw1, sw2] =
      responseTerm card.sRmac card.chain (card.wireData P r.data) r.sw)
    (hrapdu : rapdu = data ++ (responseTerm slot.sRmac slot.chain data [sw1, sw2]).tag P mode ++
      [sw1, sw2])
    (hfits : (card.respondBody P r).length ≤ 256) :
    rapdu = card.respond P r ∧ unwrapInner P slot rapdu = .ok (r.data ++ r.sw) := by
  have hinput : slot.chain.val ++ (data ++ [sw1, sw2]) =
      card.chain.val ++ (card.wireData P r.data ++ r.sw) := by
    simpa [responseTerm] using congrArg MacTerm.input hterm
  obtain ⟨hdata, hsw⟩ := List.append_inj'
    (List.append_inj hinput (by rw [slot.chain.property, card.chain.property])).2 rfl
  have hlevel : card.level &&& 0x10 ≠ 0 := by
    rw [← hstep.level]
    exact hrmac
  have hanswer : rapdu = card.respond P r := by
    rw [hrapdu, Scp03Card.respond, Scp03Card.respondBody, if_pos hprot, Scp03Card.rmac,
      if_pos hlevel, hterm, MacTerm.tag, ← hmode, hstep.mode, hdata, hsw]
    rfl
  refine ⟨hanswer, ?_⟩
  rw [hanswer]
  exact unwrapInner_respond P hstep r hfits

end step

/-! ### Runs -/

section runs

variable (s : Scp03Session)

/-- A live session has a chain that accounts for all that is on the wire. -/
def Accounted (U : Set MacTerm) (mode : ScpMode) (known : List MacTerm)
    (ends : BackendState ρ × Scp03Card) : Prop :=
  ∀ slot, ends.1.sessions.get s.index.toNat = some slot →
    ∃ cs, Chained P U mode slot ends.2 cs known

/-- What the host accepts under a protected status word is the card's answer to
    this command, and the host delivers what the card said. -/
def Bound (e : Round03 ρ) : Prop :=
  ∀ x out, e.out = some x → x.result = .ok out → swIsProtected (deliveredStatus e.op) = true →
    x.Genuine e.op fun r => .ok (r.data ++ r.sw)

variable {P s} {U : Set MacTerm} {mode : ScpMode} {known : List MacTerm}

theorem unwrap_accounted {st : BackendState ρ} {slot : Scp03SessionSlot} {card : Scp03Card}
    {cs : List MacTerm} (hslot : st.sessions.get s.index.toNat = some slot)
    (h : Chained P U mode slot card cs known) (rapdu : List UInt8) :
    Accounted P s U mode known ((scp03UnwrapResponse P s rapdu st).2, card) := by
  intro slot' hslot'
  rcases scp03UnwrapResponse_cases P s rapdu st with
    ⟨hnone, -⟩ | ⟨_, e, -, -, he⟩ | ⟨_, out, -, -, hok⟩
  · rw [hslot] at hnone
    cases hnone
  · rw [he] at hslot'
    simp at hslot'
  · rw [hok] at hslot'
    obtain rfl := Option.some.inj (hslot.symm.trans hslot')
    exact ⟨cs, h⟩

theorem unwrapSlot_of_ok {st : BackendState ρ} {slot : Scp03SessionSlot} {rapdu out : List UInt8}
    (hslot : st.sessions.get s.index.toNat = some slot)
    (h : (scp03UnwrapResponse P s rapdu st).1 = .ok out) : unwrapSlot P slot rapdu = .ok out := by
  rcases scp03UnwrapResponse_cases P s rapdu st with
    ⟨hnone, -⟩ | ⟨_, e, -, -, he⟩ | ⟨slot', out', hslot', hout, hok⟩
  · rw [hslot] at hnone
    cases hnone
  · rw [he] at h
    cases h
  · obtain rfl := Option.some.inj (hslot.symm.trans hslot')
    rw [hok] at h
    obtain rfl := Except.ok.inj h
    exact hout

/-- A wrapped command: the slot before and after. -/
theorem wrap_eq_some {capdu wire : List UInt8} {st st' : BackendState ρ}
    (h : (apduChannel P s).wrap capdu st = some (wire, st')) :
    ∃ cla ins p1 p2 rest slot slot', st.sessions.get s.index.toNat = some slot ∧
      wrapSlot P slot cla ins p1 p2 rest = .ok (wire, slot') ∧
      st'.sessions.get s.index.toNat = some slot' := by
  simp only [apduChannel] at h
  rcases scp03WrapCommand_cases P s capdu st with
    ⟨e, he⟩ | ⟨cla, ins, p1, p2, rest, slot, out, slot', -, hslot, hwrap, hok⟩
  · rw [he] at h
    cases h
  · rw [hok] at h
    obtain ⟨rfl, rfl⟩ := Prod.mk.inj (Option.some.inj h)
    exact ⟨cla, ins, p1, p2, rest, slot, slot', hslot, hwrap,
      SlotTable.get_set_self (SlotTable.lt_of_get hslot) _⟩

/-- Behind an accepted response there is an R-MAC of the same move. -/
theorem accepted_new (hsym : Symbolic P mode U) {slot slot' : Scp03SessionSlot} {card : Scp03Card}
    {cs : List MacTerm} (h : Chained P U mode slot card cs known) {cla ins p1 p2 : UInt8}
    {rest out : List UInt8} {e : Round03 ρ}
    {x : Channel.Exchanged (BackendState ρ) Scp03Card Command (List UInt8)
      (Except BackendError (List UInt8))}
    (hx : e.out = some x) (hslot : e.before.1.sessions.get s.index.toNat = some slot)
    (hwrap : wrapSlot P slot cla ins p1 p2 rest = .ok (x.wire, slot'))
    (hslot' : x.host.sessions.get s.index.toNat = some slot')
    (hresult : x.result = (scp03UnwrapResponse P s e.op.delivered x.host).1)
    (hU : ∀ t ∈ computes P s e, t ∈ U)
    (hun : ∀ v ∈ accepts mode e, v ∈ (known ++ sends P s e).map (MacTerm.tag P mode))
    (hok : x.result = .ok out) (hprot : swIsProtected (deliveredStatus e.op) = true) :
    ∃ data sw1 sw2, responseTerm slot'.sRmac slot'.chain data [sw1, sw2] ∈ cardResponse P e ∧
      e.op.delivered = data ++
        (responseTerm slot'.sRmac slot'.chain data [sw1, sw2]).tag P mode ++ [sw1, sw2] := by
  have hcommand : hostCommand s e = [commandTerm slot.sMac slot.chain slot.mode x.wire] := by
    simp only [hostCommand, hx, hslot]
  have hresponse : hostResponse s e = [responseTerm slot'.sRmac slot'.chain
      (responseParts slot'.mode e.op.delivered).1
      (responseParts slot'.mode e.op.delivered).2.2] := by
    simp only [hostResponse, hx, hslot']
  have haccepts : accepts mode e = some (responseParts mode e.op.delivered).2.1 := by
    obtain ⟨wire, host, received, answer, result⟩ := x
    simp only at hok
    simp only [accepts, hx, hok, hprot, if_true]
  simp only [computes, hcommand, hresponse, List.forall_mem_append,
    List.forall_mem_singleton] at hU
  obtain ⟨⟨⟨hUcommand, -⟩, hUresponse⟩, hUcard⟩ := hU
  obtain ⟨-, -, hfresh⟩ := h.extend hsym hwrap hUcommand
  have hnext := h.lost hsym hwrap hUcommand
  -- a term from before has an older chaining value, so it is not the one accepted
  have hold : ∀ t ∈ known ++ [commandTerm slot.sMac slot.chain slot.mode x.wire],
      t ∈ U ∧ t.prev ≠ slot'.chain.val := by
    intro t ht
    rcases List.mem_append.mp ht with ht | ht
    · obtain ⟨htU, hprev⟩ := h.sent t ht
      exact ⟨htU, fun heq => hfresh (heq ▸ hprev)⟩
    · rw [List.mem_singleton.mp ht, prev_commandTerm, h.hostChain]
      exact ⟨hUcommand, fun heq => hfresh (heq ▸ value_mem_history cs)⟩
  refine accepted_term hsym hnext.hostMode hnext.rmac hold hUcard hUresponse
    (unwrapSlot_of_ok hslot' (hresult ▸ hok)) hprot ?_
  have htag := hun _ haccepts
  rwa [sends, hcommand, ← List.append_assoc] at htag

/-- Without an R-MAC from the card nothing is accepted under a protected status word. -/
theorem bound_of_silent (hsym : Symbolic P mode U) {slot slot' : Scp03SessionSlot}
    {card : Scp03Card} {cs : List MacTerm} (h : Chained P U mode slot card cs known)
    {cla ins p1 p2 : UInt8} {rest : List UInt8} {e : Round03 ρ}
    {x : Channel.Exchanged (BackendState ρ) Scp03Card Command (List UInt8)
      (Except BackendError (List UInt8))}
    (hx : e.out = some x) (hslot : e.before.1.sessions.get s.index.toNat = some slot)
    (hwrap : wrapSlot P slot cla ins p1 p2 rest = .ok (x.wire, slot'))
    (hslot' : x.host.sessions.get s.index.toNat = some slot')
    (hresult : x.result = (scp03UnwrapResponse P s e.op.delivered x.host).1)
    (hU : ∀ t ∈ computes P s e, t ∈ U)
    (hun : ∀ v ∈ accepts mode e, v ∈ (known ++ sends P s e).map (MacTerm.tag P mode))
    (hsilent : cardResponse P e = []) : Bound e := by
  intro x' out hx' hok hprot
  obtain rfl := Option.some.inj (hx.symm.trans hx')
  obtain ⟨data, sw1, sw2, hmem, -⟩ :=
    accepted_new hsym h hx hslot hwrap hslot' hresult hU hun hok hprot
  rw [hsilent] at hmem
  cases hmem

/-- A refused command leaves no trace. -/
theorem bound_of_refused {e : Round03 ρ} (hout : e.out = none) (hafter : e.after = e.before)
    (h : Accounted P s U mode known e.before) :
    Accounted P s U mode (known ++ sends P s e) e.after ∧ Bound e := by
  have hsends : sends P s e = [] := by
    simp only [sends, hostCommand, cardResponse, hout, List.append_nil]
  rw [hsends, List.append_nil, hafter]
  refine ⟨h, fun x out hx => ?_⟩
  rw [hout] at hx
  cases hx

/-- One move: the chain goes on accounting for the wire, and nothing but the
    card's own answer is accepted. -/
theorem round_bound (hsym : Symbolic P mode U) {e : Round03 ρ}
    (his : IsStep (apduChannel P s).attacked e) (hU : ∀ t ∈ computes P s e, t ∈ U)
    (hun : ∀ v ∈ accepts mode e, v ∈ (known ++ sends P s e).map (MacTerm.tag P mode))
    (h : Accounted P s U mode known e.before) :
    Accounted P s U mode (known ++ sends P s e) e.after ∧ Bound e := by
  have hout : e.out = ((apduChannel P s).attacked e.op e.before).1 := by rw [his]
  have hafter : e.after = ((apduChannel P s).attacked e.op e.before).2 := by rw [his]
  rcases hw : (apduChannel P s).wrap e.op.command e.before.1 with _ | ⟨wire, st'⟩
  · rw [(apduChannel P s).attacked_of_refused hw] at hout hafter
    exact bound_of_refused hout hafter h
  · obtain ⟨cla, ins, p1, p2, rest, slot, slot', hslot, hwrap, hslot'⟩ := wrap_eq_some hw
    obtain ⟨cs, hchained⟩ := h slot hslot
    rcases (apduChannel P s).attacked_of_wrap hw e.before.2 with
      ⟨hforward, got, card₁, hreceive, ⟨answer, card₂, hrespond, heq⟩ | ⟨-, heq⟩⟩ | heq <;>
    rw [Prod.mk.eta] at heq <;> rw [heq] at hout hafter
    · -- the card took the command and answered
      simp only [apduChannel] at hrespond
      split at hrespond
      · cases hrespond
      · next hfits =>
        obtain ⟨rfl, rfl⟩ := Prod.mk.inj (Option.some.inj hrespond)
        have hcommand : hostCommand s e = [commandTerm slot.sMac slot.chain slot.mode wire] := by
          simp only [hostCommand, hout, hslot]
        have hresponse : cardResponse P e = if ProtectedStatus e.op.reply.sw1 e.op.reply.sw2 then
            [responseTerm card₁.sRmac card₁.chain (card₁.wireData P e.op.reply.data)
              e.op.reply.sw] else [] := by
          simp only [cardResponse, hout]
        have hterms := hU
        simp only [computes, hcommand, cardCommand, hout, hforward, if_true,
          List.forall_mem_append, List.forall_mem_singleton] at hterms
        obtain ⟨⟨⟨hUhost, hUcard⟩, -⟩, hUresponse⟩ := hterms
        obtain ⟨hstep, hnext⟩ := hchained.taken hsym hwrap hUhost hUcard hreceive
        refine ⟨?_, ?_⟩
        · have hlast : Chained P U mode slot' card₁
              (commandTerm slot.sMac slot.chain slot.mode wire :: cs)
              (known ++ [commandTerm slot.sMac slot.chain slot.mode wire] ++ cardResponse P e) := by
            -- an error status carries no R-MAC, and sends nothing that a MAC covers
            by_cases hprot : ProtectedStatus e.op.reply.sw1 e.op.reply.sw2
            · rw [hresponse, if_pos hprot] at hUresponse ⊢
              refine hnext.send (hUresponse _ List.mem_cons_self) ?_
              rw [prev_responseTerm]
              exact hnext.cardChain
            · rw [hresponse, if_neg hprot, List.append_nil]
              exact hnext
          rw [hafter, sends, hcommand, ← List.append_assoc]
          exact unwrap_accounted hslot' hlast e.op.delivered
        · intro x out hx hok hprot
          obtain rfl := Option.some.inj (hout.symm.trans hx)
          obtain ⟨data, sw1, sw2, hmem, hdelivered⟩ :=
            accepted_new hsym hchained hout hslot hwrap hslot' rfl hU hun hok hprot
          by_cases hprot' : ProtectedStatus e.op.reply.sw1 e.op.reply.sw2
          · rw [hresponse, if_pos hprot', List.mem_singleton] at hmem
            obtain ⟨hanswer, hinner⟩ := answer_of_term hstep hnext.hostMode hnext.rmac hprot' hmem
              hdelivered (by omega)
            obtain ⟨-, body, sw1', sw2', hbody, hunwrap⟩ :=
              unwrapSlot_ok P (unwrapSlot_of_ok hslot' hok)
            rw [← hbody, hinner] at hunwrap
            exact ⟨rfl, congrArg some hanswer.symm, hok.trans hunwrap.symm⟩
          · rw [hresponse, if_neg hprot'] at hmem
            cases hmem
    · -- the card took the command, but its answer does not fit
      have hcommand : hostCommand s e = [commandTerm slot.sMac slot.chain slot.mode wire] := by
        simp only [hostCommand, hout, hslot]
      have hresponse : cardResponse P e = [] := by
        simp only [cardResponse, hout]
      have hterms := hU
      simp only [computes, hcommand, cardCommand, hout, hforward, if_true,
        List.forall_mem_append, List.forall_mem_singleton] at hterms
      obtain ⟨⟨⟨hUhost, hUcard⟩, -⟩, -⟩ := hterms
      obtain ⟨-, hnext⟩ := hchained.taken hsym hwrap hUhost hUcard hreceive
      refine ⟨?_, bound_of_silent hsym hchained hout hslot hwrap hslot' rfl hU hun hresponse⟩
      rw [hafter, sends, hcommand, hresponse, List.append_nil]
      exact unwrap_accounted hslot' hnext e.op.delivered
    · -- the command was dropped or refused
      have hcommand : hostCommand s e = [commandTerm slot.sMac slot.chain slot.mode wire] := by
        simp only [hostCommand, hout, hslot]
      have hresponse : cardResponse P e = [] := by
        simp only [cardResponse, hout]
      have hUhost : commandTerm slot.sMac slot.chain slot.mode wire ∈ U :=
        hU _ (by simp [computes, hcommand])
      refine ⟨?_, bound_of_silent hsym hchained hout hslot hwrap hslot' rfl hU hun hresponse⟩
      rw [hafter, sends, hcommand, hresponse, List.append_nil]
      exact unwrap_accounted hslot' (hchained.lost hsym hwrap hUhost) e.op.delivered

end runs

/-! ### Sessions -/

/-- EXTERNAL AUTHENTICATE starts the chain at both ends. -/
theorem opened_chained {U : Set MacTerm} {sEnc sMac sRmac : AesKey} {mode : ScpMode}
    {cla ins p1 p2 : UInt8} {rest wire : List UInt8} {slot : Scp03SessionSlot} {card : Scp03Card}
    {got : Command}
    (hwrap : wrapSlot P (.fresh sEnc sMac sRmac mode) cla ins p1 p2 rest = .ok (wire, slot))
    (hreceive : (Scp03Card.fresh sEnc sMac sRmac mode).receive P wire = some (got, card))
    (hlevel : card.level &&& 0x10 ≠ 0) (hU : commandTerm sMac (Block.zero 16) mode wire ∈ U) :
    Chained P U mode slot card [commandTerm sMac (Block.zero 16) mode wire]
      [commandTerm sMac (Block.zero 16) mode wire] := by
  obtain ⟨-, hchain, hmode⟩ := wrapSlot_term P hwrap
  obtain ⟨-, hchain', body, data, card₁, haccept, hcard⟩ := receive_term P hreceive
  obtain ⟨hauth, hslotLevel, -⟩ := Delivery.wrapSlot_latch P hwrap
  obtain ⟨_, _, _, _, _, _, hdata, -, -, -, hwire, -⟩ := wrapSlot_ok P hwrap
  have hp1 : wire.getD 2 0 = p1 := by
    rw [hwire]
    rfl
  -- EXTERNAL AUTHENTICATE is the first command the fresh card takes
  have hcard₁ : card₁.level = p1 ∧ card₁.opened = true ∧ card₁.mode = mode := by
    have hclosed : ¬(Scp03Card.fresh sEnc sMac sRmac mode).opened = true := Bool.false_ne_true
    unfold Scp03Card.accept at haccept
    rw [if_neg hclosed] at haccept
    split at haccept
    · obtain ⟨-, rfl⟩ := Prod.mk.inj (Option.some.inj haccept)
      exact ⟨hp1, rfl, rfl⟩
    · cases haccept
  have hfields : card.level = p1 ∧ card.opened = true ∧ card.mode = mode := by
    rw [hcard]
    exact hcard₁
  have hsame : slot.level = card.level := by
    rw [hslotLevel, hfields.1]
    rfl
  refine ⟨⟨prev_commandTerm .., trivial⟩, by simpa using hU, hchain, ?_, ?_, hauth, ?_, hmode,
    hfields.2.2, hfields.2.1, ?_⟩
  · rw [hchain']
    exact List.mem_cons_self
  · simp only [List.forall_mem_singleton]
    refine ⟨hU, ?_⟩
    rw [prev_commandTerm]
    simp
  · rw [hsame]
    exact hlevel
  · intro hcmac _
    obtain ⟨card', hreceive', hstep, -⟩ := receive_wrapSlot P
      (LockStep03.fresh_inStep sEnc sMac sRmac mode) (fun _ => hfields.1 ▸ hcmac) hdata hwrap
    obtain ⟨-, rfl⟩ := Prod.mk.inj (Option.some.inj (hreceive.symm.trans hreceive'))
    exact hstep

/-- A session under attack, from the derivation of its keys: EXTERNAL
    AUTHENTICATE opens it at a level with R-MAC, and any moves follow. -/
structure Attack (ρ : Type) where
  handle : Scp03Session
  /-- The two ends before EXTERNAL AUTHENTICATE. -/
  derivedHost : BackendState ρ
  derivedCard : Scp03Card
  externalAuthenticate : List UInt8
  wire : List UInt8
  got : Command
  /-- The two ends of the open channel. -/
  host : BackendState ρ
  card : Scp03Card
  moves : List Move03
  derived : LockStep03.Derived handle derivedHost derivedCard
  wrapped : (apduChannel P handle).wrap externalAuthenticate derivedHost = some (wire, host)
  received : derivedCard.receive P wire = some (got, card)
  rmac : card.level &&& 0x10 ≠ 0

namespace Attack

variable {P} (a : Attack P ρ)

/-- What the moves come to. -/
def rounds : List (Round03 ρ) := run (apduChannel P a.handle).attacked a.moves (a.host, a.card)

/-- The MAC of EXTERNAL AUTHENTICATE. -/
def openingTerm : MacTerm :=
  commandTerm a.derivedCard.sMac a.derivedCard.chain a.derivedCard.mode a.wire

/-- All MACs either end computes. -/
def terms : List MacTerm := a.openingTerm :: a.rounds.flatMap (computes P a.handle)

/-- The attacker forges no MAC: the host accepts those that went over the wire. -/
def NoForgery : Prop :=
  Unforged (MacTerm.tag P a.card.mode) (sends P a.handle) (accepts a.card.mode)
    [a.openingTerm] a.rounds

/-- Response binding, over SCP03. -/
theorem rounds_bound (hsym : Symbolic P a.card.mode {t | t ∈ a.terms}) (hun : a.NoForgery) :
    ∀ e ∈ a.rounds, Bound e := by
  obtain ⟨sEnc, sMac, sRmac, mode, hcard₀, hslot₀⟩ := a.derived
  obtain ⟨cla, ins, p1, p2, rest, slot₀, slot, hget, hwrap, hslot⟩ := wrap_eq_some a.wrapped
  obtain rfl := Option.some.inj (hslot₀.symm.trans hget)
  have hreceive := a.received
  rw [hcard₀] at hreceive
  have hterm : a.openingTerm = commandTerm sMac (Block.zero 16) mode a.wire := by
    rw [openingTerm, hcard₀]
    rfl
  have hU : commandTerm sMac (Block.zero 16) mode a.wire ∈ {t | t ∈ a.terms} := by
    rw [← hterm]
    exact List.mem_cons_self
  have hchained := opened_chained P hwrap hreceive a.rmac hU
  rw [NoForgery, hchained.cardMode, hterm] at hun
  rw [hchained.cardMode] at hsym
  refine forall_of_step (I := Accounted P a.handle {t | t ∈ a.terms} mode)
    (fun e known his hUe haccept h => round_bound hsym his hUe haccept h) ?_ hun ?_
  · intro e he t ht
    exact List.mem_cons_of_mem _ (List.mem_flatMap.mpr ⟨e, he, ht⟩)
  · intro slot' hslot'
    obtain rfl := Option.some.inj (hslot.symm.trans hslot')
    exact ⟨_, hchained⟩

end Attack

end Binding03

end Scll

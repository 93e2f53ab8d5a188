import Scll.Backend.Interface
import Scll.Workflow.Paging

/-! # Replaying workflows

    The two doubles of the replay tests. `StubBackend` does no cryptography: a
    wrap echoes the command, an unwrap the response, and everything else is a
    canned value. `Script` is a card that answers whatever it is sent with the
    next response of a list, and is gone when the list is used up. `Obliging` is
    one that never refuses, and `Lister` one that lists its registry by
    GET STATUS, page by page.
-/

namespace Scll

open BlockMode

/-- The crypto-free backend: canned values, and echoes. -/
structure StubBackend where
  cardCrypto : Block 8
  hostCrypto : Block 8
  kcv : Block KCV_LEN
  encBlock : List UInt8
  pseudoChallenge : List UInt8

namespace StubBackend

def new : StubBackend where
  cardCrypto := ⟨List.replicate 8 0xAA, rfl⟩
  hostCrypto := ⟨List.replicate 8 0xBB, rfl⟩
  kcv := ⟨[0xC0, 0xC1, 0xC2], rfl⟩
  encBlock := List.replicate 16 0xE0
  pseudoChallenge := List.replicate 8 9

/-- An echo into a buffer of capacity `cap`. -/
def echo (cap : ℕ) (bytes : List UInt8) : Except BackendError (List UInt8) :=
  extend cap (cryptoErr "") [] bytes

instance : KeyBackend StubBackend where
  importKey _ _ := pure ⟨0⟩
  generateKey _ := pure ⟨0⟩
  computeKcv _ := .query fun b => .ok b.kcv
  randomBytes n := pure (Block.zero n)
  ctEq _ a b := a == b

instance : Scp03Backend StubBackend where
  scp03DeriveSession _ _ _ _ _ := pure ⟨0⟩
  scp03CardCryptogram _ _ _ := .query fun b => .ok b.cardCrypto.val
  scp03HostCryptogram _ _ _ := .query fun b => .ok b.hostCrypto.val
  scp03PseudoCardChallenge _ _ _ _ := .query fun b => .ok b.pseudoChallenge
  scp03WrapCommand _ capdu := .lift (echo CAPDU_MAX capdu)
  scp03UnwrapResponse _ rapdu := .lift (echo RAPDU_MAX rapdu)
  scp03EncryptPutKeyPayload _ _ := .query fun b => .ok b.encBlock
  scp03CloseSession _ b := b

instance : Scp02Backend StubBackend where
  scp02DeriveSession _ _ _ _ := pure ⟨0⟩
  scp02CardCryptogram _ _ _ := .query fun b => .ok b.cardCrypto
  scp02HostCryptogram _ _ _ := .query fun b => .ok b.hostCrypto
  scp02WrapCommand _ capdu := .lift (echo CAPDU_MAX capdu)
  scp02UnwrapResponse _ rapdu := .lift (echo RAPDU_MAX rapdu)
  scp02EncryptPutKeyPayloadForSession _ _ := .query fun b => .ok b.encBlock
  scp02CloseSession _ b := b

end StubBackend

/-- A card that does as it is told: `9000`, whatever it is sent. -/
structure Obliging where

instance : Transport Obliging where
  transmit _ := pure (Rapdu.ofAnswer [] Workflow.SW_OK)
  capabilities _ := ⟨false, .t1, false⟩
  reset := pure ⟨[], .t1, Nat.zero_le _⟩
  protocol _ := .t1
  isConnected _ := true

/-- A card that answers from a list. -/
structure Script where
  responses : List Rapdu

instance : Transport Script where
  transmit _ := fun t =>
    match t.responses with
    | [] => (.error .cardRemoved, t)
    | r :: rest => (.ok r, ⟨rest⟩)
  capabilities _ := ⟨false, .t1, false⟩
  reset := pure ⟨[], .t1, Nat.zero_le _⟩
  protocol _ := .t1
  isConnected _ := true

/-- A card that lists its registry: `P2 = '02'` asks for the first page of a
    scope, and every other `P2` for the one after the last page given. -/
structure Lister where
  /-- The pages of the scope that `P1` selects. -/
  pages : UInt8 → List Workflow.Answer
  next : ℕ

/-- A card with these pages in its scopes, and none in any other. -/
def Lister.ofScopes (scopes : List (UInt8 × List Workflow.Answer)) : Lister where
  pages p1 := (scopes.lookup p1).getD []
  next := 0

/-- The page that a GET STATUS asks for. -/
def Lister.asked (card : Lister) (p2 : UInt8) : ℕ :=
  if p2 = Capdu.P2_FIRST_TLV then 0 else card.next

/-- The answer to a command, and the card after it. -/
def Lister.answer (card : Lister) : Capdu → Rapdu × Lister
  | 0x80 :: 0xF2 :: p1 :: p2 :: _ =>
      match (card.pages p1)[card.asked p2]? with
      | some (data, sw) => (Rapdu.ofAnswer data sw, { card with next := card.asked p2 + 1 })
      | none => (Rapdu.ofAnswer [] Workflow.SW_REF_NOT_FOUND, card)
  | _ => (Rapdu.ofAnswer [] 0x6D00, card)

instance : Transport Lister where
  transmit capdu := fun card => ((.ok (card.answer capdu).1), (card.answer capdu).2)
  capabilities _ := ⟨false, .t1, false⟩
  reset := pure ⟨[], .t1, Nat.zero_le _⟩
  protocol _ := .t1
  isConnected _ := true

/-! ### What a replay comes to -/

namespace Workflow

/-- One exchange through the stub: what the transport answers to the command itself. -/
theorem transmitInSession_stub {τ : Type} [Transport τ] (session : ScpSession) {capdu : Capdu}
    {t t' : τ} {rapdu : Rapdu} (backend : StubBackend) (sent : List Capdu)
    (h : capdu.length ≤ CAPDU_MAX) (ht : Transport.transmit capdu t = (.ok rapdu, t')) :
    transmitInSession session capdu (⟨t, backend, sent⟩ : World τ StubBackend) =
      (splitSw rapdu.octets, ⟨t', backend, sent ++ [capdu]⟩) := by
  have hcapdu : StubBackend.echo CAPDU_MAX capdu = .ok capdu := extend_eq_ok.mpr ⟨rfl, h⟩
  have hrapdu : StubBackend.echo RAPDU_MAX rapdu.octets = .ok rapdu.octets :=
    extend_eq_ok.mpr ⟨rfl, rapdu.short⟩
  have hwrap : wrapCommand session capdu backend = (.ok capdu, backend) := by
    cases session <;>
      simp only [wrapCommand, ofBackend, Prog.mapErr, Scp03Backend.scp03WrapCommand,
        Scp02Backend.scp02WrapCommand, Prog.lift_run, hcapdu]
  have hunwrap : unwrapResponse session rapdu.octets backend = (.ok rapdu.octets, backend) := by
    cases session <;>
      simp only [unwrapResponse, ofBackend, Prog.mapErr, Scp03Backend.scp03UnwrapResponse,
        Scp02Backend.scp02UnwrapResponse, Prog.lift_run, hrapdu]
  have honWrap : onBackend (wrapCommand session capdu)
      (⟨t, backend, sent⟩ : World τ StubBackend) = (.ok capdu, ⟨t, backend, sent⟩) :=
    onBackend_run hwrap
  have hexchange : exchange capdu capdu (⟨t, backend, sent⟩ : World τ StubBackend) =
      (.ok rapdu, ⟨t', backend, sent ++ [capdu]⟩) := by
    unfold exchange note
    rw [Prog.bind_ok (Prog.update_run _ _)]
    simp only [Prog.zoom, Prog.mapErr, ht]
  have honUnwrap : onBackend (unwrapResponse session rapdu.octets)
      (⟨t', backend, sent ++ [capdu]⟩ : World τ StubBackend) =
      (.ok rapdu.octets, ⟨t', backend, sent ++ [capdu]⟩) := onBackend_run hunwrap
  unfold transmitInSession
  rw [Prog.bind_ok honWrap, Prog.bind_ok hexchange, Prog.bind_ok honUnwrap]
  rfl

/-- A script of answers, as the responses that carry them. -/
def Script.ofAnswers (script : List (UInt8 × Answer)) : Script :=
  ⟨script.map fun a => Rapdu.ofAnswer a.2.1 a.2.2⟩

/-! ### What a listing comes to -/

/-- The exchanges that read the pages of a scope, from some page on. -/
theorem reads_lister (session : ScpSession) {pages : UInt8 → List Answer} (p1 p2 : UInt8)
    (before : List Answer) {as : List Answer} (hpages : pages p1 = before ++ as)
    (hshort : ∀ a ∈ as, a.1.length ≤ 256) {next : ℕ}
    (hasked : Lister.asked ⟨pages, next⟩ p2 = before.length) (backend : StubBackend)
    (sent : List Capdu) : ∃ next' sent', Reads session p1 p2 as
      (⟨⟨pages, next⟩, backend, sent⟩ : World Lister StubBackend)
      ⟨⟨pages, next'⟩, backend, sent'⟩ := by
  induction as generalizing before p2 next sent with
  | nil => exact ⟨next, sent, .done p2 _⟩
  | cons a as ih =>
    rw [List.forall_mem_cons] at hshort
    obtain ⟨data, sw⟩ := a
    have hpage : (pages p1)[before.length]? = some (data, sw) := by
      rw [hpages]
      simp
    have hanswer : Transport.transmit (statusCommand p1 p2) (⟨pages, next⟩ : Lister) =
        (.ok (Rapdu.ofAnswer data sw), ⟨pages, before.length + 1⟩) := by
      simp only [Transport.transmit, statusCommand, Lister.answer, hasked, hpage]
    have hexchanged := transmitInSession_stub session backend sent
      (show (statusCommand p1 p2).length ≤ CAPDU_MAX by
        show 8 ≤ 261
        decide) hanswer
    rw [splitSw_ofAnswer hshort.1 sw] at hexchanged
    -- the card goes on after this page, which is what the next command asks for
    have hnext : Lister.asked ⟨pages, before.length + 1⟩ Capdu.P2_NEXT_TLV =
        (before ++ [(data, sw)]).length := by
      rw [Lister.asked, if_neg (by decide), List.length_append, List.length_singleton]
    obtain ⟨next', sent', hreads⟩ := ih _ (before ++ [(data, sw)])
      (by rw [hpages, List.append_cons]) hshort.2 hnext _
    exact ⟨next', sent', .next hexchanged hreads⟩

/-- A card that lists its registry answers the reads of its scopes, wherever the
    reads before have left it. -/
theorem answers_lister (session : ScpSession) {pages : UInt8 → List Answer}
    {scopes : List (UInt8 × List Answer)} (hpages : ∀ s ∈ scopes, pages s.1 = s.2)
    (hshort : ∀ s ∈ scopes, ∀ a ∈ s.2, a.1.length ≤ 256) (next : ℕ) (backend : StubBackend)
    (sent : List Capdu) :
    Answers session scopes (⟨⟨pages, next⟩, backend, sent⟩ : World Lister StubBackend) := by
  induction scopes generalizing next sent with
  | nil => trivial
  | cons s scopes ih =>
    rw [List.forall_mem_cons] at hpages hshort
    obtain ⟨p1, as⟩ := s
    have hasked : Lister.asked ⟨pages, next⟩ Capdu.P2_FIRST_TLV = 0 := if_pos rfl
    obtain ⟨next', sent', hreads⟩ :=
      reads_lister session p1 Capdu.P2_FIRST_TLV [] hpages.1 hshort.1 hasked backend sent
    exact ⟨_, hreads, ih hpages.2 hshort.2 next' sent'⟩

/-- The world of a card that lists these scopes. -/
def listing (scopes : List (UInt8 × List Answer)) : World Lister StubBackend :=
  ⟨Lister.ofScopes scopes, StubBackend.new, []⟩

/-- It answers them, when no scope is listed twice. -/
theorem answers_listing (session : ScpSession) {scopes : List (UInt8 × List Answer)}
    (hscopes : (scopes.map Prod.fst).Nodup)
    (hshort : ∀ s ∈ scopes, ∀ a ∈ s.2, a.1.length ≤ 256) :
    Answers session scopes (listing scopes) := by
  refine answers_lister session ?_ hshort 0 StubBackend.new []
  intro s hs
  obtain ⟨l₁, l₂, rfl⟩ := List.append_of_mem hs
  have hfirst : ∀ s' ∈ l₁, ¬s.1 = s'.1 := by
    rw [List.map_append, List.nodup_append] at hscopes
    intro s' hs' heq
    exact hscopes.2.2 s'.1 (List.mem_map_of_mem hs') s.1 List.mem_cons_self heq.symm
  have hlookup : (l₁ ++ s :: l₂).lookup s.1 = some s.2 :=
    List.lookup_eq_some_iff.mpr ⟨l₁, l₂, rfl, fun s' hs' => by simpa using hfirst s' hs'⟩
  rw [hlookup]
  rfl

/-! ### The entries of a card -/

/-- An ISD in the state SECURED. -/
def isdEntry : List UInt8 :=
  [0xE3, 0x0B, 0x4F, 0x05, 0xA0, 0x00, 0x00, 0x01, 0x51, 0x9F, 0x70, 0x01, 0x0F]

/-- A selectable application. -/
def appletEntry : List UInt8 :=
  [0xE3, 0x12, 0x4F, 0x07, 0xA0, 0x00, 0x00, 0x01, 0x62, 0x01, 0x01, 0x9F, 0x70, 0x01, 0x07,
    0xC5, 0x03, 0x00, 0x00, 0x00]

/-- A Load File with one module. -/
def loadFileEntry : List UInt8 :=
  [0xE3, 0x15, 0x4F, 0x06, 0xA0, 0x00, 0x00, 0x01, 0x62, 0x01, 0x9F, 0x70, 0x01, 0x01,
    0x84, 0x07, 0xA0, 0x00, 0x00, 0x01, 0x62, 0x01, 0x01]

/-- A session of the stub. -/
def stubSession : ScpSession := .scp03 ⟨⟨0⟩, 0x01, 0x70, 0x01⟩

end Workflow

end Scll

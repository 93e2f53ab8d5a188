import Scll.TestSupport
import Scll.Workflow.Inventory

/-! # Where a page ends does not matter

    GET STATUS chains its response octet by octet, so a page may end inside a
    tag, a length or a value. However the octets of a scope are cut into pages,
    the read yields them all, and what is read off them is the same.
-/

namespace Scll

namespace Workflow

/-- A way to cut `octets` into pages: at most 16 of them, of at most 256 octets. -/
structure Cut (octets : List UInt8) extends Pages where
  joins : (more ++ [last]).flatten = octets
  short : ∀ p ∈ more ++ [last], p.length ≤ 256

/-- A scope that is answered with these pages: `63 10` with each but the last,
    `9000` with that. -/
def Cut.scope {octets : List UInt8} (c : Cut octets) (p1 : UInt8) : UInt8 × List Answer :=
  (p1, (ScopeRead.finished c.toPages).answers)

section

variable {τ β : Type} [Transport τ] [Scp03Backend β] [Scp02Backend β]

/-- A scope that is answered with all of a parseable string reads as that string. -/
theorem readStatusScope_of_cut {session : ScpSession} {octets : List UInt8}
    (hparses : ∃ items, Tlv.parse octets = .ok items) (p1 : UInt8) (c : Cut octets)
    {scopes : List (UInt8 × List Answer)} {w : World τ β}
    (h : Answers session (c.scope p1 :: scopes) w) :
    ∃ w', readStatusScope session p1 w = (.ok (octets, false), w') ∧
      w'.sent = w.sent ++ statusCommand p1 0x02 ::
        List.replicate c.more.length (statusCommand p1 0x03) ∧
      Answers session scopes w' := by
  obtain ⟨w', hread, hsent, hscopes⟩ := readStatusScope_of_answers h
  -- all pages together parse, so the checkpoint is at their end and nothing is cut
  have hjoins : (c.more ++ [c.last]).flatten = octets := c.joins
  have hoctets : Parses octets = true := by
    obtain ⟨items, hitems⟩ := hparses
    rw [Parses, hitems]
    rfl
  have hkept : checkpoint (ScopeRead.finished c.toPages).pages = octets := by
    rw [ScopeRead.pages, checkpoint_of_parses (by rw [hjoins]; exact hoctets), hjoins]
  have hcut : (ScopeRead.finished c.toPages).cut = false := by
    rw [ScopeRead.cut, hjoins, hoctets]
    rfl
  rw [hkept, hcut] at hread
  refine ⟨w', hread, ?_, hscopes⟩
  rw [hsent, ScopeRead.pages, List.length_append, List.length_singleton]
  rfl

/-- For parseable strings and any two ways to cut each into pages: a read yields
    the string, uncut, and asks for the first occurrence and then for the next;
    the card status and the inventory are the same either way. -/
theorem page_split_invariance (session session' : ScpSession) (isdAid : List UInt8)
    {octets octets₂ octets₃ : List UInt8} (h : ∃ items, Tlv.parse octets = .ok items)
    (h₂ : ∃ items, Tlv.parse octets₂ = .ok items)
    (h₃ : ∃ items, Tlv.parse octets₃ = .ok items) :
    (∀ (p1 : UInt8) (c : Cut octets) (w : World τ β), Answers session [c.scope p1] w →
      ∃ w', readStatusScope session p1 w = (.ok (octets, false), w') ∧
        w'.sent = w.sent ++ statusCommand p1 0x02 ::
          List.replicate c.more.length (statusCommand p1 0x03)) ∧
    (∀ (c c' : Cut octets) (w w' : World τ β), Answers session [c.scope P1_ISD_SCOPE] w →
      Answers session' [c'.scope P1_ISD_SCOPE] w' →
      (getCardStatus session isdAid w).1 = (getCardStatus session' isdAid w').1) ∧
    (∀ (c c' : Cut octets) (c₂ c₂' : Cut octets₂) (c₃ c₃' : Cut octets₃) (w w' : World τ β),
      Answers session
        [c.scope P1_ISD_SCOPE, c₂.scope P1_APP_SD_SCOPE, c₃.scope P1_ELF_MODULE_SCOPE] w →
      Answers session'
        [c'.scope P1_ISD_SCOPE, c₂'.scope P1_APP_SD_SCOPE, c₃'.scope P1_ELF_MODULE_SCOPE] w' →
      (getCardInventory session isdAid w).1 = (getCardInventory session' isdAid w').1) := by
  have hread : ∀ (session : ScpSession) (p1 : UInt8) (c : Cut octets) (w : World τ β),
      Answers session [c.scope p1] w → ∃ w',
        readStatusScope session p1 w = (.ok (octets, false), w') ∧
          w'.sent = w.sent ++ statusCommand p1 0x02 ::
            List.replicate c.more.length (statusCommand p1 0x03) := by
    intro session p1 c w hanswers
    obtain ⟨w', hread, hsent, -⟩ := readStatusScope_of_cut h p1 c hanswers
    exact ⟨w', hread, hsent⟩
  refine ⟨hread session, ?_, ?_⟩
  -- the status is a function of the string alone
  · have hstatus : ∀ (session : ScpSession) (c : Cut octets) (w : World τ β),
        Answers session [c.scope P1_ISD_SCOPE] w →
        (getCardStatus session isdAid w).1 = cardStatusReport isdAid octets false := by
      intro session c w hanswers
      obtain ⟨w', hok, -⟩ := hread session P1_ISD_SCOPE c w hanswers
      rw [getCardStatus, Prog.bind_ok hok]
      rfl
    intro c c' w w' hanswers hanswers'
    rw [hstatus session c w hanswers, hstatus session' c' w' hanswers']
  -- so is the inventory, of the three strings
  · have hinventory : ∀ (session : ScpSession) (c : Cut octets) (c₂ : Cut octets₂)
        (c₃ : Cut octets₃) (w : World τ β),
        Answers session
          [c.scope P1_ISD_SCOPE, c₂.scope P1_APP_SD_SCOPE, c₃.scope P1_ELF_MODULE_SCOPE] w →
        (getCardInventory session isdAid w).1 = (Aid.new isdAid >>= fun isd =>
          inventoryOf isd (octets, false) (octets₂, false) (octets₃, false)) := by
      intro session c c₂ c₃ w hanswers
      obtain ⟨w₁, hread₁, -, hanswers⟩ := readStatusScope_of_cut h _ c hanswers
      obtain ⟨w₂, hread₂, -, hanswers⟩ := readStatusScope_of_cut h₂ _ c₂ hanswers
      obtain ⟨w₃, hread₃, -, -⟩ := readStatusScope_of_cut h₃ _ c₃ hanswers
      cases hisd : Aid.new isdAid with
      | error e =>
        rw [getCardInventory, hisd]
        rfl
      | ok isd => exact getCardInventory_of_reads hisd hread₁ hread₂ hread₃
    intro c c' c₂ c₂' c₃ c₃' w w' hanswers hanswers'
    rw [hinventory session c c₂ c₃ w hanswers, hinventory session' c' c₂' c₃' w' hanswers']

end

/-! ### An entry cut in the middle -/

def onePage : Cut isdEntry where
  more := []
  last := isdEntry
  few := few_nil
  joins := rfl
  short := by decide

/-- Cut inside the AID, with an empty page in between. -/
def threePages : Cut isdEntry where
  more := [isdEntry.take 6, []]
  last := isdEntry.drop 6
  few := by decide
  joins := rfl
  short := by decide

theorem page_split_invariance_isd_entry :
    (getCardStatus stubSession [0xA0, 0x00, 0x00, 0x01, 0x51]
      (listing [onePage.scope P1_ISD_SCOPE])).1 =
    (getCardStatus stubSession [0xA0, 0x00, 0x00, 0x01, 0x51]
      (listing [threePages.scope P1_ISD_SCOPE])).1 := by
  have hentry : (Tlv.parse isdEntry).isOk = true := by decide +kernel
  have hparses : ∃ items, Tlv.parse isdEntry = .ok items := parse_of_parses hentry
  exact (page_split_invariance stubSession stubSession _ hparses hparses hparses).2.1 onePage
    threePages _ _ (answers_listing stubSession (by decide) (by decide))
    (answers_listing stubSession (by decide) (by decide))

end Workflow

end Scll

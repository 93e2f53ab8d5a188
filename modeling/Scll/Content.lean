import Scll.Framework.Linkage
import Scll.Workflow.CardStatus

/-! # The content of a card

    What content management is for. A card holds Executable Load Files with
    their modules and the instances made from these, each associated with a
    Security Domain. No two objects share an AID, no instance is without its
    module, and nothing is associated with a Security Domain that is not there.
    Loading, installing and deleting keep that, or are refused.
-/

namespace Scll

/-! ### Objects -/

structure LoadFile where
  aid : Aid
  domain : Aid
  modules : List Aid
  deriving DecidableEq

/-- An instance of a module: an applet or a Supplementary Security Domain. -/
structure Installed where
  aid : Aid
  file : Aid
  moduleAid : Aid
  domain : Aid
  privileges : Privileges
  deriving DecidableEq

/-- The Security Domain privilege. -/
def Privileges.isSecurityDomain (p : Privileges) : Bool :=
  p.byte0 &&& Workflow.PRIV_SECURITY_DOMAIN ≠ 0

inductive CardObject where
  | loaded (f : LoadFile)
  | installed (i : Installed)
  deriving DecidableEq

/-- What an object can refer to. -/
inductive CardRef where
  | moduleOf (file moduleAid : Aid)
  | domain (aid : Aid)
  deriving DecidableEq

namespace CardObject

def aid : CardObject → Aid
  | loaded f => f.aid
  | installed i => i.aid

def offers : CardObject → List CardRef
  | loaded f => f.modules.map (.moduleOf f.aid)
  | installed i => if i.privileges.isSecurityDomain then [.domain i.aid] else []

def needs : CardObject → List CardRef
  | loaded f => [.domain f.domain]
  | installed i => [.moduleOf i.file i.moduleAid, .domain i.domain]

def loaded? : CardObject → Option LoadFile
  | loaded f => some f
  | installed _ => none

def installed? : CardObject → Option Installed
  | loaded _ => none
  | installed i => some i

/-- Does an object hang on the AID directly? -/
def below (aid : Aid) : CardObject → Bool
  | loaded f => f.domain == aid
  | installed i => i.file == aid || i.domain == aid

end CardObject

/-- The objects of a card hang together by AIDs; its ISD is always there. -/
def cardLinkage (isd : Aid) : Linkage CardObject Aid CardRef where
  name := CardObject.aid
  offers := CardObject.offers
  needs := CardObject.needs
  ground := [.domain isd]
  reserved := [isd]

/-- The content of the card of an ISD. -/
abbrev Content (isd : Aid) := (cardLinkage isd).Depot

/-! ### Operations -/

/-- Why the content of a card is not changed. -/
inductive ContentRefusal where
  /-- The objects do not hang together. -/
  | linkage (r : Linkage.Refusal)
  /-- There is no object of that AID. -/
  | absent
  /-- The load file is no load file. -/
  | broken
  /-- The card has no room. -/
  | full
  deriving DecidableEq, Repr

namespace Content

variable {isd : Aid}

def empty (isd : Aid) : Content isd := Linkage.Depot.empty (List.nodup_singleton isd)

def loadFiles (c : Content isd) : List LoadFile := c.objects.filterMap CardObject.loaded?

def instances (c : Content isd) : List Installed := c.objects.filterMap CardObject.installed?

def fileOf (aid : Aid) (c : Content isd) : Option LoadFile :=
  c.loadFiles.find? fun f => f.aid == aid

/-- Put an object in. -/
def add (o : CardObject) (c : Content isd) : Except ContentRefusal (Content isd) :=
  (c.put o).mapError .linkage

/-- Add a load file. -/
def load (f : LoadFile) (c : Content isd) : Except ContentRefusal (Content isd) := c.add (.loaded f)

/-- Instantiate a module; the instance goes with the Security Domain of its file. -/
def install (file moduleAid aid : Aid) (privileges : Privileges) (c : Content isd) :
    Except ContentRefusal (Content isd) :=
  match c.fileOf file with
  | none => .error (.linkage .missing)
  | some f => c.add (.installed ⟨aid, file, moduleAid, f.domain, privileges⟩)

/-- What goes with an AID: the object itself, and what hangs on it if asked. -/
def gone (aid : Aid) (related : Bool) (o : CardObject) : Bool :=
  o.aid == aid || (related && o.below aid)

/-- Delete an object, or an object and what hangs on it. -/
def delete (aid : Aid) (related : Bool) (c : Content isd) :
    Except ContentRefusal (Content isd) :=
  if aid ∈ c.objects.map CardObject.aid then (c.takeOut (gone aid related)).mapError .linkage
  else .error .absent

theorem objects_of_delete {aid : Aid} {related : Bool} {c c' : Content isd}
    (h : c.delete aid related = .ok c') :
    c'.objects = c.objects.filter fun o => !gone aid related o := by
  unfold delete at h
  split at h
  · exact Linkage.Depot.objects_of_takeOut (mapError_eq_ok.mp h)
  · cases h

/-- The ISD is no object among the others. -/
theorem aid_ne_isd {c : Content isd} {o : CardObject} (ho : o ∈ c.objects) : o.aid ≠ isd := by
  intro heq
  apply Linkage.Depot.name_not_reserved ho
  rw [show (cardLinkage isd).name o = isd from heq]
  exact List.mem_singleton.mpr rfl

end Content

end Scll

import Mathlib.Data.List.Basic
import Mathlib.Data.Nat.Notation

/-! # Objects that refer to one another

    A depot holds named objects. An object offers references and needs others,
    and whatever is needed is on offer, from an object of the depot or from the
    ground it stands on. Objects go in one at a time and come out several at
    once; no name is ever there twice, and no reference dangles.
-/

/-- How objects hang together. -/
structure Linkage (ο ν ρ : Type) where
  name : ο → ν
  offers : ο → List ρ
  needs : ο → List ρ
  /-- What is on offer without any object. -/
  ground : List ρ
  /-- The names that no object can take. -/
  reserved : List ν

namespace Linkage

variable {ο ν ρ : Type} (L : Linkage ο ν ρ)

/-- The names that are taken. -/
def names (objects : List ο) : List ν := L.reserved ++ objects.map L.name

/-- What is on offer. -/
def offered (objects : List ο) : List ρ := L.ground ++ objects.flatMap L.offers

/-- Every need is met. -/
def Closed (objects : List ο) : Prop := ∀ o ∈ objects, ∀ r ∈ L.needs o, r ∈ L.offered objects

instance [DecidableEq ρ] (objects : List ο) : Decidable (L.Closed objects) :=
  inferInstanceAs (Decidable (∀ o ∈ objects, ∀ r ∈ L.needs o, r ∈ L.offered objects))

/-- Objects of distinct names whose needs are met. -/
structure Depot where
  objects : List ο
  distinct : (L.names objects).Nodup
  closed : L.Closed objects

/-- Why objects are not put in, or not taken out. -/
inductive Refusal where
  /-- A need is not met. -/
  | missing
  /-- The name is taken. -/
  | duplicate
  /-- What would be left needs it. -/
  | inUse
  deriving DecidableEq, Repr

variable {L}

theorem offered_concat (objects : List ο) (o : ο) :
    L.offered (objects ++ [o]) = L.offered objects ++ L.offers o := by
  simp [offered]

theorem names_concat (objects : List ο) (o : ο) :
    L.names (objects ++ [o]) = L.names objects ++ [L.name o] := by
  simp [names]

theorem closed_concat {objects : List ο} {o : ο} (h : L.Closed objects)
    (hneeds : ∀ r ∈ L.needs o, r ∈ L.offered objects) : L.Closed (objects ++ [o]) := by
  intro o' ho' r hr
  rw [offered_concat, List.mem_append]
  left
  rcases List.mem_append.mp ho' with hold | hnew
  · exact h o' hold r hr
  · rw [List.mem_singleton.mp hnew] at hr
    exact hneeds r hr

theorem nodup_concat {objects : List ο} {o : ο} (h : (L.names objects).Nodup)
    (hname : L.name o ∉ L.names objects) : (L.names (objects ++ [o])).Nodup := by
  rw [names_concat, List.nodup_append]
  refine ⟨h, by simp, ?_⟩
  intro a ha b hb
  rw [List.mem_singleton.mp hb]
  intro heq
  rw [heq] at ha
  exact hname ha

theorem nodup_filter {objects : List ο} (stays : ο → Bool) (h : (L.names objects).Nodup) :
    (L.names (objects.filter stays)).Nodup :=
  h.sublist ((List.Sublist.refl _).append (List.filter_sublist.map _))

namespace Depot

variable {d d' : L.Depot} {o : ο}

/-- A depot without objects, when no reserved name is there twice. -/
def empty (h : (L.names []).Nodup) : L.Depot where
  objects := []
  distinct := h
  closed := by simp [Closed]

section put

variable [DecidableEq ν] [DecidableEq ρ]

/-- Put an object in, when its needs are met and its name is free. -/
def put (o : ο) (d : L.Depot) : Except Refusal L.Depot :=
  if hneeds : ∀ r ∈ L.needs o, r ∈ L.offered d.objects then
    if hname : L.name o ∈ L.names d.objects then .error .duplicate
    else .ok ⟨d.objects ++ [o], nodup_concat d.distinct hname, closed_concat d.closed hneeds⟩
  else .error .missing

end put

/-- Take out what is gone, when what is left stands by itself. -/
def takeOut [DecidableEq ρ] (gone : ο → Bool) (d : L.Depot) : Except Refusal L.Depot :=
  if hclosed : L.Closed (d.objects.filter fun o => !gone o) then
    .ok ⟨d.objects.filter fun o => !gone o, nodup_filter _ d.distinct, hclosed⟩
  else .error .inUse

theorem objects_of_takeOut [DecidableEq ρ] {gone : ο → Bool} (h : d.takeOut gone = .ok d') :
    d'.objects = d.objects.filter fun o => !gone o := by
  unfold takeOut at h
  split at h
  · rw [← Except.ok.inj h]
  · cases h

/-- No object has a reserved name. -/
theorem name_not_reserved (ho : o ∈ d.objects) : L.name o ∉ L.reserved := by
  intro hreserved
  have hdisjoint := (List.nodup_append.mp d.distinct).2.2
  exact hdisjoint _ hreserved _ (List.mem_map.mpr ⟨o, ho, rfl⟩) rfl

end Depot

end Linkage

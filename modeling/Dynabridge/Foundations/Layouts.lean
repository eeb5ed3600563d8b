import Mathlib.Data.List.Basic

/-!
# Types with instance layouts

Types are derived from others, and the instances of each have one layout, a sequence of parts.  Some
types are laid out from scratch; another type has the layout of one of its bases, possibly with a
part of its own behind it.  It can have several bases only if the layout of one of them begins with
those of the others.

Then no type is derived from two types that were laid out from scratch, however the types in between
were derived.
-/

namespace Layouts

variable {ν : Type} {scratch : ν → Prop}

/-- A type: its name, the types that it is derived from, itself among them, and those that have
added the parts of its layout.  The layout begins with the part of any type that was laid out from
scratch. -/
structure Laid (scratch : ν → Prop) where
  name : ν
  ancestors : List ν
  parts : List ν
  begins : ∀ p ∈ ancestors, scratch p → parts.head? = some p

namespace Laid

/-- The type is derived from the other one, or is it. -/
def IsSubtype (t u : Laid scratch) : Prop := u.name ∈ t.ancestors

instance [DecidableEq ν] (t u : Laid scratch) : Decidable (t.IsSubtype u) :=
  inferInstanceAs (Decidable (_ ∈ _))

/-- The type laid out from scratch with whose part the layout begins, if it begins with one. -/
def basis [DecidablePred scratch] (t : Laid scratch) : Option ν :=
  t.parts.head?.filter fun p => decide (scratch p)

/-- It is the only type laid out from scratch that the type is derived from. -/
lemma basis_eq_some [DecidablePred scratch] {t : Laid scratch} {p : ν} (hp : p ∈ t.ancestors)
    (hscratch : scratch p) : t.basis = some p := by
  rw [basis, t.begins p hp hscratch, Option.filter_some, if_pos (decide_eq_true hscratch)]

/-- A type that is laid out from scratch. -/
def make (p : ν) : Laid scratch where
  name := p
  ancestors := [p]
  parts := [p]
  begins q hq _ := by rw [List.mem_singleton.mp hq, List.head?_cons]

end Laid

/-! ## Deriving a type -/

lemma head?_of_prefix {p : ν} {l l' : List ν} (h : l <+: l') (hp : l.head? = some p) :
    l'.head? = some p := by
  obtain ⟨rest, rfl⟩ := h
  rw [List.head?_append, hp, Option.some_or]

section Derive

variable [DecidableEq ν]

/-- The widest of some layouts, if it begins with all others. -/
def widest (parts : List ν) : List (List ν) → Option (List ν)
  | [] => some parts
  | candidate :: candidates =>
    if candidate <+: parts then widest parts candidates
    else if parts <+: candidate then widest candidate candidates
    else none

/-- The widest layout begins with all of them. -/
lemma prefix_widest {parts layout : List ν} {candidates : List (List ν)}
    (h : widest parts candidates = some layout) :
    parts <+: layout ∧ ∀ candidate ∈ candidates, candidate <+: layout := by
  induction candidates generalizing parts with
  | nil =>
    rw [widest, Option.some_inj] at h
    exact ⟨h ▸ List.prefix_rfl, List.forall_mem_nil _⟩
  | cons candidate candidates ih =>
    rw [widest] at h
    split at h
    case isTrue hnarrow =>
      obtain ⟨hparts, hrest⟩ := ih h
      exact ⟨hparts, List.forall_mem_cons.mpr ⟨hnarrow.trans hparts, hrest⟩⟩
    case isFalse =>
      split at h
      case isTrue hwide =>
        obtain ⟨hcandidate, hrest⟩ := ih h
        exact ⟨hwide.trans hcandidate, List.forall_mem_cons.mpr ⟨hcandidate, hrest⟩⟩
      case isFalse => cases h

/-- It begins with the part of any type laid out from scratch that one of the bases is derived
from. -/
lemma head?_widest {bases : List (Laid scratch)} {layout : List ν}
    (h : widest [] (bases.map Laid.parts) = some layout) {q : ν}
    (hq : q ∈ bases.flatMap Laid.ancestors) (hscratch : scratch q) : layout.head? = some q := by
  obtain ⟨base, hbase, hq⟩ := List.mem_flatMap.mp hq
  have hprefix : base.parts <+: layout := (prefix_widest h).2 _ (List.mem_map_of_mem hbase)
  exact head?_of_prefix hprefix (base.begins q hq hscratch)

/-- A type with the given bases, which adds a part to their layout or does not; there is none when
the layouts of the bases are at odds. -/
def derive (p : ν) (hp : ¬ scratch p) (bases : List (Laid scratch)) (adds : Bool) :
    Option (Laid scratch) :=
  match h : widest [] (bases.map Laid.parts) with
  | none => none
  | some layout => some
    { name := p
      ancestors := p :: bases.flatMap Laid.ancestors
      parts := if adds then layout ++ [p] else layout
      begins := by
        intro q hq hscratch
        rcases List.mem_cons.mp hq with rfl | hq
        · exact absurd hscratch hp
        · have hhead := head?_widest h hq hscratch
          split
          · exact head?_of_prefix (List.prefix_append _ _) hhead
          · exact hhead }

end Derive

end Layouts

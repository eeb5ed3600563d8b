import Mathlib

/-!
# Prefix parsers and the words they read

A prefix parser consumes a word at the front of its input and hands back the rest.  Its
meaning is a family of languages: `Reads p L` says that `p` produces `a` exactly after a
word of `L a`.  The rules `Reads.pure`, `Reads.bind` and `Reads.many` follow
the way parsers are put together; `Reads.complete_eq_some_iff` and `Reads.append_inj` are
what a parser of whole inputs and a prefix-free format get from them.

Readers in systems code are often not functions into `Option` but cursors with a sticky
`valid` flag.  `Cursor`, `Sticky` and `parserOf` are that discipline: a sticky action on a
cursor is a prefix parser, and sequencing of actions is sequencing of parsers.
-/

namespace PrefixParser

variable {σ α β : Type}

/-- A prefix parser: the value read and the rest of the input, or failure. -/
abbrev Parser (σ α : Type) := List σ → Option (α × List σ)

/-- `Reads p L` says that `p` succeeds with `a` exactly when the input starts with a word of
`L a`, and leaves what follows that word. -/
def Reads (p : Parser σ α) (L : α → Language σ) : Prop :=
  ∀ s a rest, p s = some (a, rest) ↔ ∃ w ∈ L a, w ++ rest = s

namespace Parser

/-- Run one parser and continue with the parser its value selects. -/
def bind (p : Parser σ α) (f : α → Parser σ β) : Parser σ β :=
  fun s => (p s).bind fun r => f r.1 r.2

/-- Read nothing and return a value. -/
def pure (a : α) : Parser σ α := fun s => some (a, s)

/-- Run a parser a given number of times. -/
def many (p : Parser σ α) : ℕ → Parser σ (List α)
  | 0 => pure []
  | n + 1 => p.bind fun a => (many p n).bind fun as => pure (a :: as)

/-- Run a parser on a whole input: succeed when nothing is left over. -/
def complete (p : Parser σ α) (s : List σ) : Option α :=
  match p s with
  | some (a, []) => some a
  | _ => none

end Parser

/-- Sequencing succeeds when both parts do. -/
lemma bind_eq_some_iff {p : Parser σ α} {f : α → Parser σ β} {s : List σ} {b : β}
    {rest : List σ} :
    p.bind f s = some (b, rest) ↔ ∃ a mid, p s = some (a, mid) ∧ f a mid = some (b, rest) := by
  simp [Parser.bind, Option.bind_eq_some_iff]

namespace Reads

/-- Returning a value reads the empty word. -/
lemma pure (a : α) : Reads (Parser.pure (σ := σ) a) fun b => {w | w = [] ∧ b = a} := by
  intro s b rest
  simp only [Parser.pure, Option.some.injEq, Prod.mk.injEq]
  constructor
  · rintro ⟨rfl, rfl⟩
    exact ⟨[], ⟨rfl, rfl⟩, rfl⟩
  · rintro ⟨w, ⟨rfl, rfl⟩, rfl⟩
    exact ⟨rfl, rfl⟩

/-- Sequencing parsers concatenates their words. -/
lemma bind {p : Parser σ α} {L : α → Language σ} {f : α → Parser σ β}
    {M : α → β → Language σ} (hp : Reads p L) (hf : ∀ a, Reads (f a) (M a)) :
    Reads (p.bind f) fun b => ⨆ a, L a * M a b := by
  intro s b rest
  rw [bind_eq_some_iff]
  simp only [Language.mem_iSup, Language.mem_mul]
  constructor
  · rintro ⟨a, mid, hpa, hfa⟩
    obtain ⟨w, hw, rfl⟩ := (hp s a mid).mp hpa
    obtain ⟨v, hv, rfl⟩ := (hf a mid b rest).mp hfa
    exact ⟨w ++ v, ⟨a, w, hw, v, hv, rfl⟩, List.append_assoc w v rest⟩
  · rintro ⟨_, ⟨a, w, hw, v, hv, rfl⟩, rfl⟩
    refine ⟨a, v ++ rest, ?_, (hf a _ b rest).mpr ⟨v, hv, rfl⟩⟩
    exact (hp _ a _).mpr ⟨w, hw, (List.append_assoc w v rest).symm⟩

/-- The meaning of a parser only depends on which words denote which value. -/
lemma congr {p : Parser σ α} {L M : α → Language σ} (hp : Reads p L)
    (h : ∀ a w, w ∈ L a ↔ w ∈ M a) : Reads p M := by
  intro s a rest
  rw [hp s a rest]
  exact exists_congr fun w => and_congr_left fun _ => h a w

/-- Applying a function to the value read keeps the words. -/
lemma map {p : Parser σ α} {L : α → Language σ} (hp : Reads p L) (f : α → β) :
    Reads (p.bind fun a => Parser.pure (f a)) fun b => {w | ∃ a, w ∈ L a ∧ b = f a} := by
  refine (Reads.bind hp fun a => Reads.pure (f a)).congr fun b w => ?_
  simp only [Language.mem_iSup]
  constructor
  · rintro ⟨a, u, hu, _, ⟨rfl, rfl⟩, rfl⟩
    refine ⟨a, ?_, rfl⟩
    change u ++ [] ∈ L a
    rwa [List.append_nil]
  · rintro ⟨a, ha, rfl⟩
    exact ⟨a, w, ha, [], ⟨rfl, rfl⟩, List.append_nil w⟩

/-- Running a parser `n` times reads the product of the words of its `n` values. -/
theorem many {p : Parser σ α} {L : α → Language σ} (hp : Reads p L) (n : ℕ) :
    Reads (p.many n) fun as => {w | as.length = n ∧ w ∈ (as.map L).prod} := by
  induction n with
  | zero =>
    intro s as rest
    rw [Parser.many, Reads.pure [] s as rest]
    constructor
    · rintro ⟨w, ⟨rfl, rfl⟩, rfl⟩
      exact ⟨[], ⟨rfl, Language.nil_mem_one⟩, rfl⟩
    · rintro ⟨w, ⟨hlen, hw⟩, rfl⟩
      obtain rfl := List.length_eq_zero_iff.mp hlen
      exact ⟨[], ⟨rfl, rfl⟩, by simpa using hw.symm⟩
  | succ n ih =>
    intro s as rest
    rw [Parser.many]
    refine (Reads.bind hp (fun a => Reads.bind ih fun as' => Reads.pure (a :: as')) s as
      rest).trans ?_
    refine exists_congr fun w => and_congr_left fun _ => ?_
    simp only [Language.mem_iSup, Language.mem_mul]
    constructor
    · rintro ⟨a, u, hu, _, ⟨as', v, ⟨hlen, hv⟩, _, ⟨rfl, rfl⟩, rfl⟩, rfl⟩
      refine ⟨by simp [hlen], ?_⟩
      simp only [List.map_cons, List.prod_cons, List.append_nil]
      exact Language.append_mem_mul hu hv
    · rintro ⟨hlen, hw⟩
      obtain ⟨a, as', rfl⟩ := List.exists_cons_of_length_eq_add_one hlen
      rw [List.map_cons, List.prod_cons, Language.mem_mul] at hw
      obtain ⟨u, hu, v, hv, rfl⟩ := hw
      have hlen' : as'.length = n := by simpa using hlen
      exact ⟨a, u, hu, v, ⟨as', v, ⟨hlen', hv⟩, [], ⟨rfl, rfl⟩, by simp⟩, rfl⟩

/-- A whole input is accepted with value `a` exactly when it is a word of `L a`. -/
theorem complete_eq_some_iff {p : Parser σ α} {L : α → Language σ} (hp : Reads p L)
    {s : List σ} {a : α} : p.complete s = some a ↔ s ∈ L a := by
  have hread : p s = some (a, []) ↔ s ∈ L a := by
    rw [hp s a []]
    simp
  rw [← hread, Parser.complete]
  split
  · rename_i b heq
    simp [heq]
  · rename_i hne
    simpa using fun h => hne a h

/-- Two words of the format at the front of one input are the same word with the same
value: the format is unambiguous and prefix-free. -/
theorem append_inj {p : Parser σ α} {L : α → Language σ} (hp : Reads p L) {a b : α}
    {u v s t : List σ} (hu : u ∈ L a) (hv : v ∈ L b) (h : u ++ s = v ++ t) :
    a = b ∧ u = v ∧ s = t := by
  have h₁ : p (u ++ s) = some (a, s) := (hp _ a s).mpr ⟨u, hu, rfl⟩
  have h₂ : p (u ++ s) = some (b, t) := (hp _ b t).mpr ⟨v, hv, h.symm⟩
  have heq : (a, s) = (b, t) := Option.some.inj (h₁.symm.trans h₂)
  obtain ⟨rfl, rfl⟩ := Prod.mk.inj heq
  exact ⟨rfl, List.append_cancel_right h, rfl⟩

end Reads

/-! ## Sticky cursors -/

/-- A read position in an input with a validity flag: what is left to read, and whether
every read so far was within the input. -/
structure Cursor (σ : Type) where
  /-- The part of the input that has not been read. -/
  input : List σ
  /-- Whether every read so far succeeded. -/
  valid : Bool
  deriving DecidableEq, Repr

/-- An action is sticky when it leaves an invalid cursor exactly as it found it. -/
def Sticky (m : StateM (Cursor σ) α) : Prop :=
  ∀ c : Cursor σ, c.valid = false → (m.run c).2 = c

/-- The prefix parser an action performs on a valid cursor. -/
def parserOf (m : StateM (Cursor σ) α) : Parser σ α := fun s =>
  if (m.run ⟨s, true⟩).2.valid then
    some ((m.run ⟨s, true⟩).1, (m.run ⟨s, true⟩).2.input)
  else none

/-- Returning a value does not move the cursor. -/
lemma sticky_pure (a : α) : Sticky (σ := σ) (pure a) := fun _ _ => rfl

/-- Sequencing keeps stickiness. -/
lemma sticky_bind {m : StateM (Cursor σ) α} {f : α → StateM (Cursor σ) β} (hm : Sticky m)
    (hf : ∀ a, Sticky (f a)) : Sticky (m >>= f) := by
  intro c hc
  change ((f (m.run c).1).run (m.run c).2).2 = c
  rw [hm c hc]
  exact hf _ c hc

/-- Returning a value is the parser that reads nothing. -/
@[simp] lemma parserOf_pure (a : α) : parserOf (σ := σ) (pure a) = Parser.pure a := rfl

/-- Sequencing sticky actions is sequencing their parsers. -/
theorem parserOf_bind {m : StateM (Cursor σ) α} {f : α → StateM (Cursor σ) β}
    (hf : ∀ a, Sticky (f a)) :
    parserOf (m >>= f) = (parserOf m).bind fun a => parserOf (f a) := by
  funext s
  have hrun : (m >>= f).run ⟨s, true⟩ = (f (m.run ⟨s, true⟩).1).run (m.run ⟨s, true⟩).2 := rfl
  rw [Parser.bind, parserOf, parserOf, hrun]
  rcases hm : m.run ⟨s, true⟩ with ⟨a, rest, valid⟩
  cases valid with
  | false =>
    -- the first action failed, and the second one keeps the failure
    have hkeep := hf a ⟨rest, false⟩ rfl
    simp [hkeep]
  | true => rfl

end PrefixParser

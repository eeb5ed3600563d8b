import Mathlib.Logic.Relation
import Mathlib.Tactic

/-!
# Interleaved processes over a shared state

A program says what one process does next, and which commands start new processes.  A pool
holds the shared state, the processes in the order in which they were started, and the
events logged so far; a run chooses, again and again, a process to advance or a command to
obey.  Both parts of a program are guarded functions, so a run can be computed.

The rules that follow reduce a fact about every run to facts about one step.

* `Reachable.global_invariant`: an invariant of the shared state and the log.
* `Reachable.proof_outline`: a global invariant together with an assertion about each process,
  established by its own steps and stable under the steps of the others.
* `Reachable.log_invariant`: the same for each logged event.
* `Reachable.conservation`: a count over the processes and the log that every step keeps in
  balance with the shared state.
* `Reachable.obligation`: while something is still to be done, some process is about to do it.
* `history_invariant`: an invariant of the pool and of what has been noted down about the
  choices made so far.
* `length_add_le_of_run`: a bound on the length of the runs that lower a measure.
-/

namespace Interleaving

/-- The shared state, the processes in the order of their start, and the events so far. -/
structure Pool (σ π ε : Type) where
  shared : σ
  procs : List π
  log : List ε

/-- What a process with a given number does next, and what a command does. -/
structure Program (σ π κ ε : Type) where
  advance : ℕ → σ → π → Option (σ × π × List ε)
  command : κ → σ → List π → Option (σ × List π × List ε)

/-- What a run does next. -/
inductive Choice (κ : Type)
  | advance (i : ℕ)
  | command (k : κ)

/-- The event that is logged when `b` holds. -/
def logIf {ε : Type} (b : Bool) (e : ε) : List ε := if b then [e] else []

section

variable {ε : Type} {b : Bool} {e : ε}

@[simp] lemma toNat_add_toNat_not (b : Bool) : b.toNat + (!b).toNat = 1 := by
  cases b <;> rfl

@[simp] lemma mem_logIf {x : ε} : x ∈ logIf b e ↔ b = true ∧ x = e := by
  cases b <;> simp [logIf]

@[simp] lemma countP_logIf (v : ε → Bool) : (logIf b e).countP v = (b && v e).toNat := by
  cases b <;> cases hv : v e <;> simp [logIf, hv]

end

/-- In the log, `x` comes before `y`. -/
def Precedes {ε : Type} (log : List ε) (x y : ε) : Prop :=
  ∃ a b, log = a ++ b ∧ x ∈ a ∧ y ∈ b

/-- An event that is logged now comes after those logged before. -/
lemma precedes_append {ε : Type} {log events : List ε} {x y : ε} (hx : x ∈ log)
    (hy : y ∈ events) : Precedes (log ++ events) x y := ⟨log, events, rfl, hx, hy⟩

/-- The order of two events is not affected by what is logged later. -/
lemma Precedes.mono {ε : Type} {log log' : List ε} {x y : ε} (h : Precedes log x y)
    (hlog : log <+: log') : Precedes log' x y := by
  obtain ⟨a, b, rfl, hx, hy⟩ := h
  obtain ⟨c, rfl⟩ := hlog
  exact ⟨a, b ++ c, List.append_assoc a b c, hx, List.mem_append_left c hy⟩

/-- What comes after something whenever it is logged does so later as well, when it is logged
only after that has been. -/
lemma follows_append {ε : Type} {log events : List ε} {x y : ε}
    (h : y ∈ log → Precedes log x y) (hnew : y ∈ events → x ∈ log) (hy : y ∈ log ++ events) :
    Precedes (log ++ events) x y := by
  rcases List.mem_append.mp hy with hold | hlogged
  · exact (h hold).mono (List.prefix_append _ _)
  · exact precedes_append (hnew hlogged) hlogged

/-- Of what occurs at most once, two occurrences are the same. -/
lemma eq_of_countP_le_one {α : Type} {p : α → Bool} {l : List α} (h : l.countP p ≤ 1) {x y : α}
    (hx : x ∈ l) (hy : y ∈ l) (px : p x = true) (py : p y = true) : x = y := by
  induction l with
  | nil => cases hx
  | cons a l ih =>
    rw [List.countP_cons] at h
    rcases List.mem_cons.mp hx with rfl | hx' <;> rcases List.mem_cons.mp hy with rfl | hy'
    · rfl
    · have hpos := List.countP_pos_iff.mpr ⟨y, hy', py⟩
      rw [if_pos px] at h
      omega
    · have hpos := List.countP_pos_iff.mpr ⟨x, hx', px⟩
      rw [if_pos py] at h
      omega
    · exact ih (le_trans (Nat.le_add_right _ _) h) hx' hy'

/-! ### Events that happen when a flag is set -/

section Flag

variable {α : Type} {p : α → Bool} {b : Bool} {l : List α}

lemma countP_le_one_of_flag (h : l.countP p = b.toNat) : l.countP p ≤ 1 :=
  h ▸ Bool.toNat_le b

/-- When the flag is set, it has happened. -/
lemma exists_of_flag (h : l.countP p = b.toNat) (hb : b = true) : ∃ x ∈ l, p x = true := by
  rw [hb] at h
  exact List.countP_pos_iff.mp (h ▸ Nat.one_pos)

/-- When it has happened, the flag is set. -/
lemma flag_of_mem (h : l.countP p = b.toNat) {x : α} (hx : x ∈ l) (px : p x = true) :
    b = true := by
  refine eq_true_of_ne_false fun hb => ?_
  rw [hb] at h
  exact absurd px (List.countP_eq_zero.mp h x hx)

/-- It happens once. -/
lemma eq_of_flag (h : l.countP p = b.toNat) {x y : α} (hx : x ∈ l) (hy : y ∈ l)
    (px : p x = true) (py : p y = true) : x = y :=
  eq_of_countP_le_one (countP_le_one_of_flag h) hx hy px py

end Flag

namespace Program

variable {σ π κ ε : Type} (S : Program σ π κ ε)

/-- One choice, when it is enabled. -/
def perform (s : Pool σ π ε) : Choice κ → Option (Pool σ π ε)
  | .advance i => do
    let p ← s.procs[i]?
    let (shared, p', events) ← S.advance i s.shared p
    some ⟨shared, s.procs.set i p', s.log ++ events⟩
  | .command k => do
    let (shared, new, events) ← S.command k s.shared s.procs
    some ⟨shared, s.procs ++ new, s.log ++ events⟩

/-- A list of choices, all of them enabled in turn. -/
def run (s : Pool σ π ε) : List (Choice κ) → Option (Pool σ π ε)
  | [] => some s
  | c :: cs => (S.perform s c).bind fun s' => run s' cs

/-- Some choice leads from the one pool to the other. -/
def Step (s s' : Pool σ π ε) : Prop := ∃ c, S.perform s c = some s'

/-- Some run leads from the one pool to the other. -/
def Reachable : Pool σ π ε → Pool σ π ε → Prop := Relation.ReflTransGen S.Step

variable {S}

/-- What a process that was advanced has done. -/
lemma perform_advance {s s' : Pool σ π ε} {i : ℕ} (h : S.perform s (.advance i) = some s') :
    ∃ p sh p' events, s.procs[i]? = some p ∧ S.advance i s.shared p = some (sh, p', events) ∧
      s' = ⟨sh, s.procs.set i p', s.log ++ events⟩ := by
  simp only [perform, bind, Option.bind_eq_some_iff] at h
  obtain ⟨p, hp, ⟨sh, p', events⟩, hadv, hs⟩ := h
  exact ⟨p, sh, p', events, hp, hadv, (Option.some.inj hs).symm⟩

/-- What a command that was performed has done. -/
lemma perform_command {s s' : Pool σ π ε} {k : κ} (h : S.perform s (.command k) = some s') :
    ∃ sh new events, S.command k s.shared s.procs = some (sh, new, events) ∧
      s' = ⟨sh, s.procs ++ new, s.log ++ events⟩ := by
  simp only [perform, bind, Option.bind_eq_some_iff] at h
  obtain ⟨⟨sh, new, events⟩, hcmd, hs⟩ := h
  exact ⟨sh, new, events, hcmd, (Option.some.inj hs).symm⟩

/-- A step either advances one process or obeys one command. -/
lemma Step.cases {s s' : Pool σ π ε} (h : S.Step s s') :
    (∃ i p sh p' events, s.procs[i]? = some p ∧ S.advance i s.shared p = some (sh, p', events) ∧
      s' = ⟨sh, s.procs.set i p', s.log ++ events⟩) ∨
    (∃ k sh new events, S.command k s.shared s.procs = some (sh, new, events) ∧
      s' = ⟨sh, s.procs ++ new, s.log ++ events⟩) := by
  obtain ⟨c, hc⟩ := h
  cases c with
  | advance i =>
    simp only [perform, bind, Option.bind_eq_some_iff] at hc
    obtain ⟨p, hp, ⟨sh, p', events⟩, hadv, hs⟩ := hc
    exact .inl ⟨i, p, sh, p', events, hp, hadv, (Option.some.inj hs).symm⟩
  | command k => exact .inr ⟨k, perform_command hc⟩

/-- A computed run reaches its last pool. -/
theorem reachable_of_run (cs : List (Choice κ)) {s s' : Pool σ π ε}
    (h : S.run s cs = some s') : S.Reachable s s' := by
  induction cs generalizing s with
  | nil =>
    have hs : s = s' := Option.some.inj h
    rw [hs]
    exact .refl
  | cons c cs ih =>
    rw [run, Option.bind_eq_some_iff] at h
    obtain ⟨t, hstep, hrest⟩ := h
    exact Relation.ReflTransGen.head ⟨c, hstep⟩ (ih hrest)

/-- A computed run that ends in a pool with a property shows that such a pool is reachable. -/
theorem exists_reachable (cs : List (Choice κ)) {s : Pool σ π ε} {q : Pool σ π ε → Prop}
    (h : ∃ s' ∈ S.run s cs, q s') : ∃ s', S.Reachable s s' ∧ q s' := by
  obtain ⟨s', hrun, hq⟩ := h
  exact ⟨s', reachable_of_run cs hrun, hq⟩

/-- A run with one more choice at its end. -/
lemma run_concat (cs : List (Choice κ)) (c : Choice κ) (s : Pool σ π ε) :
    S.run s (cs ++ [c]) = (S.run s cs).bind fun s' => S.perform s' c := by
  induction cs generalizing s with
  | nil => exact Option.bind_fun_some _
  | cons d cs ih =>
    rw [List.cons_append, run, run, Option.bind_assoc]
    simp only [ih]

/-- A measure that every choice of a kind lowers bounds the runs made of such choices. -/
theorem length_add_le_of_run {w : Pool σ π ε → ℕ} {kind : Choice κ → Bool}
    (hstep : ∀ s s' c, kind c = true → S.perform s c = some s' → w s' < w s)
    {cs : List (Choice κ)} {s s' : Pool σ π ε} (hcs : ∀ c ∈ cs, kind c = true)
    (h : S.run s cs = some s') : cs.length + w s' ≤ w s := by
  induction cs generalizing s with
  | nil =>
    obtain rfl := Option.some.inj h
    simp
  | cons c cs ih =>
    rw [run, Option.bind_eq_some_iff] at h
    obtain ⟨t, hperform, hrest⟩ := h
    have hlt := hstep s t c (hcs c List.mem_cons_self) hperform
    have hle := ih (fun d hd => hcs d (List.mem_cons_of_mem c hd)) hrest
    rw [List.length_cons]
    omega

/-- A program whose commands are obeyed only in the states in which they are allowed. -/
def restrict (S : Program σ π κ ε) (allowed : σ → κ → Bool) : Program σ π κ ε where
  advance := S.advance
  command k s procs := if allowed s k then S.command k s procs else none

/-- What a restricted program does with a command that is allowed. -/
lemma command_of_restrict {allowed : σ → κ → Bool} {k : κ} {s s' : σ} {procs new : List π}
    {events : List ε}
    (h : (S.restrict allowed).command k s procs = some (s', new, events)) :
    allowed s k = true ∧ S.command k s procs = some (s', new, events) := by
  unfold restrict at h
  dsimp only at h
  split at h
  · exact ⟨by assumption, h⟩
  · cases h

/-- A choice of the program is one of the restricted program when its command is allowed. -/
lemma perform_restrict {allowed : σ → κ → Bool} {s s' : Pool σ π ε} {c : Choice κ}
    (h : S.perform s c = some s') (hallowed : ∀ k, c = .command k → allowed s.shared k = true) :
    (S.restrict allowed).perform s c = some s' := by
  rcases c with i | k
  · exact h
  · unfold perform restrict
    dsimp only
    rw [if_pos (hallowed k rfl)]
    exact h

/-- The log only grows. -/
theorem Step.log_prefix {s s' : Pool σ π ε} (h : S.Step s s') : s.log <+: s'.log := by
  rcases h.cases with ⟨i, p, sh, p', events, -, -, rfl⟩ | ⟨k, sh, new, events, -, rfl⟩
  · exact List.prefix_append _ _
  · exact List.prefix_append _ _

theorem Reachable.log_prefix {s s' : Pool σ π ε} (h : S.Reachable s s') : s.log <+: s'.log := by
  induction h with
  | refl => exact List.prefix_refl _
  | tail _ hstep ih => exact ih.trans hstep.log_prefix

/-- The process at a position after one process was replaced. -/
lemma getElem?_set_cases {l : List π} {i j : ℕ} {p q : π} (h : (l.set i p)[j]? = some q) :
    (j = i ∧ q = p) ∨ (j ≠ i ∧ l[j]? = some q) := by
  rw [List.getElem?_set] at h
  by_cases hij : i = j
  · rw [if_pos hij] at h
    split at h
    · exact .inl ⟨hij.symm, (Option.some.inj h).symm⟩
    · cases h
  · rw [if_neg hij] at h
    exact .inr ⟨Ne.symm hij, h⟩

/-- What a process keeps when it is replaced, the whole list keeps. -/
lemma map_set_eq {β : Type} {f : π → β} {l : List π} {i : ℕ} {p p' : π} (hp : l[i]? = some p)
    (hf : f p' = f p) : (l.set i p').map f = l.map f := by
  induction l generalizing i with
  | nil => rfl
  | cons q l ih =>
    cases i with
    | zero =>
      have hq : q = p := Option.some.inj hp
      rw [List.set_cons_zero, List.map_cons, List.map_cons, hf, hq]
    | succ i => rw [List.set_cons_succ, List.map_cons, List.map_cons, ih hp]

/-- A process with a property survives the replacement of a process without it. -/
lemma exists_mem_set {l : List π} {i : ℕ} {p p' : π} {Q : π → Prop} (hp : l[i]? = some p)
    (hnot : ¬ Q p) (h : ∃ q ∈ l, Q q) : ∃ q ∈ l.set i p', Q q := by
  obtain ⟨q, hmem, hq⟩ := h
  obtain ⟨j, hj⟩ := List.mem_iff_getElem?.mp hmem
  have hji : i ≠ j := by
    intro hij
    rw [← hij, hp] at hj
    exact hnot (Option.some.inj hj ▸ hq)
  have hset : (l.set i p')[j]? = some q := by rw [List.getElem?_set_ne hji, hj]
  exact ⟨q, List.mem_of_getElem? hset, hq⟩

/-- Replacing one process exchanges its share of a count. -/
lemma countP_set_add {l : List π} {i : ℕ} {p : π} (p' : π) (w : π → Bool)
    (hp : l[i]? = some p) :
    (l.set i p').countP w + (w p).toNat = l.countP w + (w p').toNat := by
  induction l generalizing i with
  | nil => simp at hp
  | cons q l ih =>
    cases i with
    | zero =>
      have hq : q = p := Option.some.inj hp
      subst hq
      rw [List.set_cons_zero, List.countP_cons, List.countP_cons]
      cases w p' <;> cases w q <;> simp
    | succ i =>
      have hrest := ih hp
      rw [List.set_cons_succ, List.countP_cons, List.countP_cons]
      omega

/-- Replacing one process exchanges its share of a sum. -/
lemma sum_map_set {l : List π} {i : ℕ} {p : π} (p' : π) (w : π → ℕ) (hp : l[i]? = some p) :
    ((l.set i p').map w).sum + w p = (l.map w).sum + w p' := by
  induction l generalizing i with
  | nil => cases hp
  | cons q l ih =>
    cases i with
    | zero =>
      obtain rfl := Option.some.inj hp
      simp only [List.set_cons_zero, List.map_cons, List.sum_cons]
      omega
    | succ i =>
      have hrest := ih hp
      simp only [List.set_cons_succ, List.map_cons, List.sum_cons]
      omega

/-- A process contributes its share to a count. -/
lemma toNat_le_countP {l : List π} {p : π} (w : π → Bool) (hp : p ∈ l) :
    (w p).toNat ≤ l.countP w := by
  cases hw : w p with
  | false => exact Nat.zero_le _
  | true => exact List.countP_pos_iff.mpr ⟨p, hp, hw⟩

section Rules

variable {s₀ s : Pool σ π ε}

/-- A property of the pool that every step from a reachable pool keeps. -/
theorem Reachable.invariant {I : Pool σ π ε → Prop} (init : I s₀)
    (step : ∀ s s', S.Reachable s₀ s → I s → S.Step s s' → I s')
    (h : S.Reachable s₀ s) : I s := by
  induction h with
  | refl => exact init
  | tail hreach hstep ih => exact step _ _ hreach ih hstep

/-- A property of the shared state and the log that every process and every command keeps. -/
theorem Reachable.global_invariant {G : σ → List ε → Prop} (init : G s₀.shared s₀.log)
    (advance : ∀ s i p sh p' events, S.Reachable s₀ s → G s.shared s.log →
      S.advance i s.shared p = some (sh, p', events) → G sh (s.log ++ events))
    (command : ∀ s k sh new events, S.Reachable s₀ s → G s.shared s.log →
      S.command k s.shared s.procs = some (sh, new, events) → G sh (s.log ++ events))
    (h : S.Reachable s₀ s) : G s.shared s.log := by
  refine h.invariant (I := fun s => G s.shared s.log) init ?_
  intro s s' hreach hs hstep
  rcases hstep.cases with ⟨i, p, sh, p', events, -, hadv, rfl⟩ | ⟨k, sh, new, events, hcmd, rfl⟩
  · exact advance s i p sh p' events hreach hs hadv
  · exact command s k sh new events hreach hs hcmd

/-- A global invariant and an assertion about each process: the steps of a process establish
both, a new process satisfies its assertion, and the steps of the others do not disturb it. -/
theorem Reachable.proof_outline {G : σ → List ε → Prop} {P : σ → List ε → ℕ → π → Prop}
    (init : G s₀.shared s₀.log ∧ ∀ i p, s₀.procs[i]? = some p → P s₀.shared s₀.log i p)
    (advance : ∀ s i p sh p' events, S.Reachable s₀ s → G s.shared s.log →
      P s.shared s.log i p → S.advance i s.shared p = some (sh, p', events) →
      G sh (s.log ++ events) ∧ P sh (s.log ++ events) i p')
    (command : ∀ s k sh new events, S.Reachable s₀ s → G s.shared s.log →
      S.command k s.shared s.procs = some (sh, new, events) →
      G sh (s.log ++ events) ∧ ∀ i, ∀ p ∈ new, P sh (s.log ++ events) i p)
    (stable : ∀ s s', S.Reachable s₀ s → S.Step s s' →
      ∀ i p, P s.shared s.log i p → P s'.shared s'.log i p)
    (h : S.Reachable s₀ s) :
    G s.shared s.log ∧ ∀ i p, s.procs[i]? = some p → P s.shared s.log i p := by
  refine h.invariant (I := fun s => G s.shared s.log ∧
    ∀ i p, s.procs[i]? = some p → P s.shared s.log i p) init ?_
  rintro s s' hreach ⟨hG, hP⟩ hstep
  have hkeep := stable s s' hreach hstep
  rcases hstep.cases with ⟨i, p, sh, p', events, hp, hadv, rfl⟩ | ⟨k, sh, new, events, hcmd, rfl⟩
  · obtain ⟨hG', hown⟩ := advance s i p sh p' events hreach hG (hP i p hp) hadv
    refine ⟨hG', fun j q hq => ?_⟩
    rcases getElem?_set_cases hq with ⟨rfl, rfl⟩ | ⟨-, hold⟩
    · exact hown
    · exact hkeep j q (hP j q hold)
  · obtain ⟨hG', hnew⟩ := command s k sh new events hreach hG hcmd
    refine ⟨hG', fun j q hq => ?_⟩
    rw [List.getElem?_append] at hq
    split at hq
    · exact hkeep j q (hP j q hq)
    · exact hnew j q (List.mem_of_getElem? hq)

/-- A property of each logged event: it holds when the event is logged, and later steps keep
it. -/
theorem Reachable.log_invariant {Q : σ → List ε → ε → Prop}
    (init : ∀ e ∈ s₀.log, Q s₀.shared s₀.log e)
    (advance : ∀ s i p sh p' events, S.Reachable s₀ s → s.procs[i]? = some p →
      S.advance i s.shared p = some (sh, p', events) → ∀ e ∈ events, Q sh (s.log ++ events) e)
    (command : ∀ s k sh new events, S.Reachable s₀ s →
      S.command k s.shared s.procs = some (sh, new, events) →
      ∀ e ∈ events, Q sh (s.log ++ events) e)
    (stable : ∀ s s', S.Reachable s₀ s → S.Step s s' →
      ∀ e, Q s.shared s.log e → Q s'.shared s'.log e)
    (h : S.Reachable s₀ s) : ∀ e ∈ s.log, Q s.shared s.log e := by
  refine h.invariant (I := fun s => ∀ e ∈ s.log, Q s.shared s.log e) init ?_
  intro s s' hreach hs hstep e he
  have hkeep := stable s s' hreach hstep e
  rcases hstep.cases with ⟨i, p, sh, p', events, hp, hadv, rfl⟩ | ⟨k, sh, new, events, hcmd, rfl⟩
  · rcases List.mem_append.mp he with hold | hnew
    · exact hkeep (hs e hold)
    · exact advance s i p sh p' events hreach hp hadv e hnew
  · rcases List.mem_append.mp he with hold | hnew
    · exact hkeep (hs e hold)
    · exact command s k sh new events hreach hcmd e hnew

/-- A balance: the processes counted by `w` and the events counted by `v`, together with what
`g` reads off the shared state, are what `f` reads off it.  A process that advances may use
that its own share is within the balance. -/
theorem Reachable.conservation {w : π → Bool} {v : ε → Bool} {g f : σ → ℕ}
    (init : s₀.procs.countP w + s₀.log.countP v + g s₀.shared = f s₀.shared)
    (advance : ∀ s i p sh p' events, S.Reachable s₀ s → s.procs[i]? = some p →
      S.advance i s.shared p = some (sh, p', events) → (w p).toNat + g s.shared ≤ f s.shared →
      (w p').toNat + events.countP v + g sh + f s.shared = (w p).toNat + g s.shared + f sh)
    (command : ∀ s k sh new events, S.Reachable s₀ s →
      S.command k s.shared s.procs = some (sh, new, events) →
      new.countP w + events.countP v + g sh + f s.shared = g s.shared + f sh)
    (h : S.Reachable s₀ s) :
    s.procs.countP w + s.log.countP v + g s.shared = f s.shared := by
  refine h.invariant
    (I := fun s => s.procs.countP w + s.log.countP v + g s.shared = f s.shared) init ?_
  intro s s' hreach hs hstep
  rcases hstep.cases with ⟨i, p, sh, p', events, hp, hadv, rfl⟩ | ⟨k, sh, new, events, hcmd, rfl⟩
  · have hset := countP_set_add p' w hp
    have hshare := toNat_le_countP w (List.mem_of_getElem? hp)
    have hlocal := advance s i p sh p' events hreach hp hadv (by omega)
    simp only [List.countP_append]
    omega
  · have hlocal := command s k sh new events hreach hcmd
    simp only [List.countP_append]
    omega

/-- While `Need` holds, some process satisfies `Owes`. -/
theorem Reachable.obligation (Need : σ → List ε → Prop) (Owes : π → Prop)
    (init : Need s₀.shared s₀.log → ∃ p ∈ s₀.procs, Owes p)
    (advance : ∀ s i p sh p' events, S.Reachable s₀ s →
      S.advance i s.shared p = some (sh, p', events) → Need sh (s.log ++ events) →
      Owes p' ∨ (Need s.shared s.log ∧ ¬ Owes p))
    (command : ∀ s k sh new events, S.Reachable s₀ s →
      S.command k s.shared s.procs = some (sh, new, events) → Need sh (s.log ++ events) →
      (∃ p ∈ new, Owes p) ∨ Need s.shared s.log)
    (h : S.Reachable s₀ s) : Need s.shared s.log → ∃ p ∈ s.procs, Owes p := by
  refine h.invariant (I := fun s => Need s.shared s.log → ∃ p ∈ s.procs, Owes p) init ?_
  intro s s' hreach hs hstep hneed
  rcases hstep.cases with ⟨i, p, sh, p', events, hp, hadv, rfl⟩ | ⟨k, sh, new, events, hcmd, rfl⟩
  · rcases advance s i p sh p' events hreach hadv hneed with howes | ⟨hold, hnot⟩
    · have hlt : i < s.procs.length := (List.getElem?_eq_some_iff.mp hp).1
      exact ⟨p', List.mem_set hlt p', howes⟩
    · exact exists_mem_set hp hnot (hs hold)
  · rcases command s k sh new events hreach hcmd hneed with ⟨p, hmem, howes⟩ | hold
    · exact ⟨p, List.mem_append_right _ hmem, howes⟩
    · obtain ⟨p, hmem, howes⟩ := hs hold
      exact ⟨p, List.mem_append_left _ hmem, howes⟩

end Rules

/-! ### Histories -/

section History

variable {η : Type}

/-- What an observer notes down in the course of a run, choice by choice. -/
def history (S : Program σ π κ ε) (note : Pool σ π ε → Choice κ → List η) (s : Pool σ π ε) :
    List (Choice κ) → List η
  | [] => []
  | c :: cs => note s c ++ (S.perform s c).elim [] fun s' => S.history note s' cs

variable {note : Pool σ π ε → Choice κ → List η}

/-- The history of a run with one more choice at its end. -/
lemma history_concat (cs : List (Choice κ)) (c : Choice κ) {s s' : Pool σ π ε}
    (h : S.run s cs = some s') :
    S.history note s (cs ++ [c]) = S.history note s cs ++ note s' c := by
  induction cs generalizing s with
  | nil =>
    have hs : s = s' := Option.some.inj h
    rw [hs, List.nil_append, history, history, List.nil_append]
    cases S.perform s' c with
    | none => exact List.append_nil _
    | some t => exact List.append_nil _
  | cons d cs ih =>
    rw [run, Option.bind_eq_some_iff] at h
    obtain ⟨t, hstep, hrest⟩ := h
    rw [List.cons_append, history, history, hstep, Option.elim_some, Option.elim_some, ih hrest,
      List.append_assoc]

/-- A property of the pool and of the history that every choice keeps. -/
theorem history_invariant {I : Pool σ π ε → List η → Prop} {s₀ : Pool σ π ε} (init : I s₀ [])
    (step : ∀ s s' c past, S.Reachable s₀ s → I s past → S.perform s c = some s' →
      I s' (past ++ note s c))
    (cs : List (Choice κ)) {s : Pool σ π ε} (h : S.run s₀ cs = some s) :
    I s (S.history note s₀ cs) := by
  induction cs using List.reverseRecOn generalizing s with
  | nil =>
    have hs : s₀ = s := Option.some.inj h
    exact hs ▸ init
  | append_singleton cs c ih =>
    rw [run_concat, Option.bind_eq_some_iff] at h
    obtain ⟨t, hrun, hstep⟩ := h
    rw [history_concat cs c hrun]
    exact step t s c _ (reachable_of_run cs hrun) (ih hrun) hstep

end History

end Program

end Interleaving

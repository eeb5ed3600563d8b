import Mathlib.Tactic

/-!
# Simulations between state actions

A refined program often carries more state than the program it refines: a position instead
of a suffix, a meter beside the data.  `Simulates abs pre m n post` relates an action `m` on
the refined states to an action `n` on the abstract ones: from every state with `pre`, both
return the same value, the states they end in correspond under `abs`, and `post` holds of the
value and the refined state.  It is a Hoare triple for `m` and a simulation of `n` at once, so
that an invariant which makes the two programs agree is established along the way.

The rules follow the way actions are put together: `Simulates.pure`, `Simulates.bind`,
`Simulates.skip` for a step only the refined program takes, `Simulates.get` for a look at the
state, and `Simulates.ite`.
-/

namespace StateSimulation

variable {σ τ α β γ : Type} {abs : σ → τ} {pre : σ → Prop}

/-- From every state with `pre`, `m` does what `n` does from the abstract state, and ends with
`post`. -/
def Simulates (abs : σ → τ) (pre : σ → Prop) (m : StateM σ α) (n : StateM τ α)
    (post : α → σ → Prop) : Prop :=
  ∀ s, pre s → n.run (abs s) = ((m.run s).1, abs (m.run s).2) ∧ post (m.run s).1 (m.run s).2

namespace Simulates

/-- Returning a value. -/
lemma pure {post : α → σ → Prop} (a : α) (h : ∀ s, pre s → post a s) :
    Simulates abs pre (Pure.pure a) (Pure.pure a) post :=
  fun s hs => ⟨rfl, h s hs⟩

/-- Sequencing, with an intermediate assertion. -/
lemma bind {m : StateM σ α} {n : StateM τ α} {f : α → StateM σ β} {g : α → StateM τ β}
    {mid : α → σ → Prop} {post : β → σ → Prop} (hm : Simulates abs pre m n mid)
    (hf : ∀ a, Simulates abs (mid a) (f a) (g a) post) :
    Simulates abs pre (m >>= f) (n >>= g) post := by
  intro s hs
  obtain ⟨hagree, hmid⟩ := hm s hs
  obtain ⟨hrest, hpost⟩ := hf _ _ hmid
  have hrun : (n >>= g).run (abs s) = (g (n.run (abs s)).1).run (n.run (abs s)).2 := rfl
  refine ⟨?_, hpost⟩
  rw [hrun, hagree]
  exact hrest

/-- A step of the refined program that the abstract state does not see. -/
lemma skip {m : StateM σ γ} {f : StateM σ α} {n : StateM τ α} {mid : σ → Prop}
    {post : α → σ → Prop} (hm : ∀ s, pre s → abs (m.run s).2 = abs s ∧ mid (m.run s).2)
    (hf : Simulates abs mid f n post) : Simulates abs pre (do let _ ← m; f) n post := by
  intro s hs
  obtain ⟨hsame, hmid⟩ := hm s hs
  have hrest := hf _ hmid
  rw [hsame] at hrest
  exact hrest

/-- Looking at the state: what follows runs from the state that was seen. -/
lemma get {f : σ → StateM σ α} {g : τ → StateM τ α} {post : α → σ → Prop}
    (h : ∀ s, pre s → Simulates abs (Eq s) (f s) (g (abs s)) post) :
    Simulates abs pre (MonadState.get >>= f) (MonadState.get >>= g) post :=
  fun s hs => h s hs s rfl

/-- A case distinction that both programs make on the same condition. -/
lemma ite {c : Prop} [Decidable c] {m m' : StateM σ α} {n n' : StateM τ α}
    {post : α → σ → Prop} (h : c → Simulates abs pre m n post)
    (h' : ¬ c → Simulates abs pre m' n' post) :
    Simulates abs pre (if c then m else m') (if c then n else n') post := by
  by_cases hc : c
  · rw [if_pos hc, if_pos hc]
    exact h hc
  · rw [if_neg hc, if_neg hc]
    exact h' hc

/-- A stronger precondition and a weaker postcondition. -/
lemma weaken {pre' : σ → Prop} {m : StateM σ α} {n : StateM τ α} {post post' : α → σ → Prop}
    (h : Simulates abs pre m n post) (hpre : ∀ s, pre' s → pre s)
    (hpost : ∀ a s, post a s → post' a s) : Simulates abs pre' m n post' :=
  fun s hs => ⟨(h s (hpre s hs)).1, hpost _ _ (h s (hpre s hs)).2⟩

end Simulates

end StateSimulation

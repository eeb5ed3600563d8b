import Dynabridge.Async.SingleUse

/-!
# What operations on invocations leave alone

An operation changes the objects that it names and no others, and a move or a destruction submits
nothing.  A start that returns has submitted an operation with its handler.
-/

namespace Dynabridge.Async

open Function InvocationOperation Ownership

namespace Invocations

variable {H : Type} {s s' : Invocations H} {o o' : ℕ}

/-- A step changes neither objects nor whether the process has ended. -/
structure SameObjects (s s' : Invocations H) : Prop where
  object : s'.object = s.object
  aborted : s'.aborted = s.aborted

lemma sameObjects_of_release {operation : Option ℕ} (h : s.release operation = some s') :
    s.SameObjects s' := by
  obtain ⟨operations, -, heq⟩ := Option.bind_eq_some_iff.mp h
  obtain rfl := Option.some.inj heq
  exact ⟨rfl, rfl⟩

lemma startStatic_sameObjects {x x' : StaticInvocation} {handler : Handler H} {capture : Capture}
    {ending : Ending} (h : s.startStatic x handler capture = some (ending, x', s')) :
    s.SameObjects s' ∧ (ending = .returns → capture = .succeeds) := by
  unfold startStatic at h
  split at h
  case h_2 =>
    cases h
    exact ⟨⟨rfl, rfl⟩, by simp⟩
  case h_1 context operation _ _ =>
    rcases capture with _ | _ | _ | _
    · obtain ⟨id, -, hrest⟩ := Option.bind_eq_some_iff.mp h
      obtain ⟨s₁, hrelease, heq⟩ := Option.bind_eq_some_iff.mp hrest
      cases heq
      exact ⟨⟨(sameObjects_of_release hrelease).object, (sameObjects_of_release hrelease).aborted⟩,
        fun _ => rfl⟩
    · cases h
      exact ⟨⟨rfl, rfl⟩, by simp⟩
    · cases h
      exact ⟨⟨rfl, rfl⟩, by simp⟩
    · obtain ⟨s₁, hrelease, heq⟩ := Option.bind_eq_some_iff.mp h
      cases heq
      exact ⟨sameObjects_of_release hrelease, by simp⟩

/-- A step changes one object, which is there afterwards, and does not end the process. -/
structure Touches (s : Invocations H) (o : ℕ) (s' : Invocations H) : Prop where
  others : ∀ o' ≠ o, s'.object o' = s.object o'
  aborted : s'.aborted = s.aborted

lemma start_touches {handler : H} {capture : Capture} {ending : Ending}
    (h : s.start o handler capture = some (ending, s')) :
    s.Touches o s' ∧ s'.object o ≠ none ∧ (ending = .returns → capture = .succeeds) := by
  obtain ⟨c, hc, hrest⟩ := Option.bind_eq_some_iff.mp h
  rcases c with x | _ | x
  · obtain ⟨⟨ending', x', s₁⟩, hstart, heq⟩ := Option.bind_eq_some_iff.mp hrest
    cases heq
    obtain ⟨⟨hobject, haborted⟩, hcapture⟩ := startStatic_sameObjects hstart
    refine ⟨⟨fun o' hne => ?_, haborted⟩, by simp, hcapture⟩
    exact (update_of_ne hne _ s₁.object).trans (congrFun hobject o')
  · cases hrest
    exact ⟨⟨fun _ _ => rfl, rfl⟩, by simp [hc], by simp⟩
  · have htaken : s.Touches o { s with object := update s.object o (some (.erased none)) } :=
      ⟨fun o' hne => update_of_ne hne _ s.object, rfl⟩
    have hthere : update s.object o (some (.erased none)) o ≠ none := by simp
    have hstatic : ∀ capture ending s',
        ({ s with object := update s.object o (some (.erased none)) } : Invocations H).startStatic x
            (.forwarding handler) capture >>= (fun r => r.2.2.release r.2.1.carried >>=
              fun s => some (r.1, s)) = some (ending, s') →
          s.Touches o s' ∧ s'.object o ≠ none ∧ (ending = .returns → capture = .succeeds) := by
      intro capture ending s' h
      obtain ⟨⟨ending', x', s₁⟩, hstart, hrest⟩ := Option.bind_eq_some_iff.mp h
      obtain ⟨s₂, hrelease, heq⟩ := Option.bind_eq_some_iff.mp hrest
      cases heq
      obtain ⟨⟨hobject, haborted⟩, hcapture⟩ := startStatic_sameObjects hstart
      obtain ⟨hobject', haborted'⟩ := sameObjects_of_release hrelease
      have hobjects := hobject'.trans hobject
      refine ⟨⟨fun o' hne => ?_, (haborted'.trans haborted)⟩, ?_, hcapture⟩
      · rw [hobjects]
        exact htaken.others o' hne
      · rw [hobjects]
        exact hthere
    rcases capture with _ | _ | _
    · exact hstatic _ _ _ hrest
    · exact hstatic _ _ _ hrest
    · obtain ⟨s₁, hrelease, heq⟩ := Option.bind_eq_some_iff.mp hrest
      cases heq
      obtain ⟨hobject, haborted⟩ := sameObjects_of_release hrelease
      refine ⟨⟨fun o' hne => ?_, haborted⟩, ?_, by simp⟩
      · rw [hobject]
        exact htaken.others o' hne
      · rw [hobject]
        exact hthere

/-- A step that submits nothing, changes only some objects and does not end the process. -/
structure Rearranges (s : Invocations H) (objects : List ℕ) (s' : Invocations H) : Prop where
  kept : s'.Kept
  submitted : s'.submitted = s.submitted
  others : ∀ o, o ∉ objects → s'.object o = s.object o
  aborted : s'.aborted = s.aborted

lemma Rearranges.trans {s₁ : Invocations H} {objects : List ℕ} (h : s.Rearranges objects s₁)
    (h' : s₁.Rearranges objects s') : s.Rearranges objects s' where
  kept := h'.kept
  submitted := h'.submitted.trans h.submitted
  others o ho := (h'.others o ho).trans (h.others o ho)
  aborted := h'.aborted.trans h.aborted

lemma Rearranges.mono {objects objects' : List ℕ} (h : s.Rearranges objects s')
    (hsubset : objects ⊆ objects') : s.Rearranges objects' s' :=
  ⟨h.kept, h.submitted, fun o ho => h.others o fun hmem => ho (hsubset hmem), h.aborted⟩

/-- A new object takes over what another one carries. -/
lemma Kept.rearranges_moveConstruct (h : s.Kept) {other : ℕ} (ho : s.object o = none)
    (hother : s.object other ≠ none) :
    ∃ s', s.moveConstruct o other = some s' ∧ s.Rearranges [o, other] s' ∧
      s'.object o ≠ none ∧ s'.object other ≠ none ∧ s'.carried o = s.carried other := by
  obtain ⟨s', hmove, hquiet, hover⟩ := h.moveConstruct ho hother
  obtain ⟨x, hx, heq⟩ := Option.bind_eq_some_iff.mp hmove
  obtain rfl := Option.some.inj heq
  have hne : o ≠ other := fun hcontra => hother (hcontra ▸ ho)
  refine ⟨_, hmove, ⟨h.of_quiet hquiet, rfl, fun o' ho' => ?_, rfl⟩, ?_, ?_,
    hover.target⟩
  · simp only [List.mem_cons, List.not_mem_nil, or_false, not_or] at ho'
    dsimp only
    rw [update_of_ne ho'.2, update_of_ne ho'.1]
  · simp [update_of_ne hne]
  · simp

lemma Kept.rearranges_destruct (h : s.Kept) (ho : s.object o ≠ none) :
    ∃ s', s.destruct o = some s' ∧ s.Rearranges [o] s' ∧ s'.object o = none := by
  obtain ⟨self, hself⟩ := Option.ne_none_iff_exists'.mp ho
  obtain ⟨s', hdestruct, hquiet⟩ := h.destruct hself
  obtain ⟨self', -, hrest⟩ := Option.bind_eq_some_iff.mp hdestruct
  obtain ⟨s₁, hrelease, heq⟩ := Option.bind_eq_some_iff.mp hrest
  obtain rfl := Option.some.inj heq
  obtain ⟨hobject, haborted⟩ := sameObjects_of_release hrelease
  refine ⟨_, hdestruct, ⟨h.of_quiet hquiet, hquiet.submitted, fun o' ho' => ?_, haborted⟩, ?_⟩
  · dsimp only
    rw [update_of_ne (List.ne_of_not_mem_cons ho'), hobject]
  · exact update_self ..

/-- A start that returns has submitted the operation that the object carried, with the handler; one
that throws has failed to capture something, and one that aborts has found no operation. -/
inductive StartEnds (s : Invocations H) (o : ℕ) (handler : H) (capture : Capture)
    (s' : Invocations H) : Ending → Prop
  | returns {sub : Submission H} (hcapture : capture = .succeeds)
      (hcarried : s.carried o = some sub.operation) (hsubmitted : s'.submitted = sub :: s.submitted)
      (hhandler : sub.handler = .direct handler ∨ sub.handler = .forwarding handler) :
      StartEnds s o handler capture s' .returns
  | throws (hcapture : capture ≠ .succeeds) (hsubmitted : s'.submitted = s.submitted) :
      StartEnds s o handler capture s' .throws
  | aborts (hcarried : s.carried o = none) (hsubmitted : s'.submitted = s.submitted) :
      StartEnds s o handler capture s' .aborts

lemma Kept.startEnds (h : s.Kept) (ho : s.object o ≠ none) (handler : H) (capture : Capture) :
    ∃ ending s', s.start o handler capture = some (ending, s') ∧ s'.Kept ∧ s.Touches o s' ∧
      s'.object o ≠ none ∧ s.StartEnds o handler capture s' ending := by
  obtain ⟨ending, s', hstart, hstarts⟩ := h.start ho handler capture
  obtain ⟨htouches, hthere, hreturns⟩ := start_touches hstart
  by_cases hquiet : s.carried o = none ∨ capture ≠ .succeeds
  · have hs' := hstarts.quiet hquiet
    refine ⟨ending, s', hstart, h.of_quiet hs', htouches, hthere, ?_⟩
    by_cases hcarried : s.carried o = none
    · cases ending with
      | returns =>
        have haborts := hstarts.aborts hcarried fun _ => by simp [hreturns rfl]
        cases haborts
      | throws =>
        refine .throws (fun hsucceeds => ?_) hs'.submitted
        have haborts := hstarts.aborts hcarried fun _ => by simp [hsucceeds]
        cases haborts
      | aborts => exact .aborts hcarried hs'.submitted
    · have hcapture := hquiet.resolve_left hcarried
      obtain rfl := hstarts.throws hcarried hcapture
      exact .throws hcapture hs'.submitted
  · obtain ⟨hcarried, hsucceeds⟩ := not_or.mp hquiet
    obtain ⟨id, hid⟩ := Option.ne_none_iff_exists'.mp hcarried
    obtain ⟨rfl, -, context, access, handler', hhandler, hsubmits⟩ :=
      hstarts.submits id hid (not_not.mp hsucceeds)
    exact ⟨.returns, s', hstart, h.of_submits hsubmits, htouches, hthere,
      .returns (not_not.mp hsucceeds) hid hsubmits.submitted hhandler⟩

end Invocations

/-- The objects that an operation uses. -/
def InvocationOperation.objects {H : Type} : InvocationOperation H → List ℕ
  | make o _ _ _ | start o _ _ | destruct o => [o]
  | moveConstruct o other | moveAssign o other | erase o other _ => [o, other]

/-- An operation changes no objects but those that it uses. -/
lemma perform_object {H : Type} {s s' : Invocations H} {op : InvocationOperation H}
    {ending : Ending} (h : op.perform s = some (ending, s')) {o : ℕ} (ho : o ∉ op.objects) :
    s'.object o = s.object o := by
  cases op with
  | make o' context access captureThrows =>
    rw [InvocationOperation.objects, List.mem_singleton] at ho
    cases captureThrows
    · cases context
      · cases h
        rfl
      · cases h
        exact update_of_ne ho ..
    · cases h
      rfl
  | moveConstruct o' other =>
    obtain ⟨s₁, hmove, heq⟩ := Option.map_eq_some_iff.mp h
    obtain ⟨-, rfl⟩ := Prod.mk.inj heq
    obtain ⟨x, -, hs₁⟩ := Option.bind_eq_some_iff.mp hmove
    obtain rfl := Option.some.inj hs₁
    simp only [InvocationOperation.objects, List.mem_cons, List.not_mem_nil, or_false,
      not_or] at ho
    dsimp only
    rw [update_of_ne ho.2, update_of_ne ho.1]
  | moveAssign o' other =>
    obtain ⟨s₁, hmove, heq⟩ := Option.map_eq_some_iff.mp h
    obtain ⟨-, rfl⟩ := Prod.mk.inj heq
    simp only [InvocationOperation.objects, List.mem_cons, List.not_mem_nil, or_false,
      not_or] at ho
    rw [Invocations.moveAssign] at hmove
    split at hmove
    · rw [Option.some.inj hmove]
    · obtain ⟨self, -, hrest⟩ := Option.bind_eq_some_iff.mp hmove
      obtain ⟨x, -, hrest⟩ := Option.bind_eq_some_iff.mp hrest
      obtain ⟨s₂, hrelease, hs₁⟩ := Option.bind_eq_some_iff.mp hrest
      obtain rfl := Option.some.inj hs₁
      dsimp only
      rw [update_of_ne ho.2, update_of_ne ho.1,
        (Invocations.sameObjects_of_release hrelease).object]
  | erase o' other failure =>
    simp only [InvocationOperation.objects, List.mem_cons, List.not_mem_nil, or_false,
      not_or] at ho
    obtain ⟨x | x, -, hrest⟩ := Option.bind_eq_some_iff.mp h
    case erased => cases hrest
    rcases failure with _ | _ | _
    · cases hrest
      dsimp only
      rw [update_of_ne ho.1, update_of_ne ho.2]
    · cases hrest
      rfl
    · obtain ⟨s₁, hrelease, heq⟩ := Option.bind_eq_some_iff.mp hrest
      cases heq
      exact update_of_ne ho.2 ..
  | start o' handler capture =>
    rw [InvocationOperation.objects, List.mem_singleton] at ho
    exact (Invocations.start_touches h).1.others o ho
  | destruct o' =>
    rw [InvocationOperation.objects, List.mem_singleton] at ho
    obtain ⟨s₁, hdestruct, heq⟩ := Option.map_eq_some_iff.mp h
    obtain ⟨-, rfl⟩ := Prod.mk.inj heq
    obtain ⟨self, -, hrest⟩ := Option.bind_eq_some_iff.mp hdestruct
    obtain ⟨s₂, hrelease, hs₁⟩ := Option.bind_eq_some_iff.mp hrest
    obtain rfl := Option.some.inj hs₁
    dsimp only
    rw [update_of_ne ho, (Invocations.sameObjects_of_release hrelease).object]

end Dynabridge.Async

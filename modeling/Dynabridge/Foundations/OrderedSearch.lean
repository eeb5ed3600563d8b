import Mathlib.Tactic

/-!
# Ordered search with effects

Candidates are tried one after another.  An attempt changes a state, and it passes, answers or
raises; the search ends with the first attempt that does not pass.

`search_cases` says how a search ends, and `search_records` describes it by records: when every
attempt that passes leaves a record of a kind, and its entries in a log, the log of a search is
that of a list of such records, one for each candidate that was tried.
-/

namespace OrderedSearch

variable {α β ε σ : Type}

/-- Try the candidates in their order, until one of them answers or raises. -/
def search (attempt : α → σ → Except ε (Option β) × σ) : List α → σ → Except ε (Option β) × σ
  | [], s => (.ok none, s)
  | a :: candidates, s =>
    match attempt a s with
    | (.ok none, s') => search attempt candidates s'
    | (.ok (some b), s') => (.ok (some b), s')
    | (.error e, s') => (.error e, s')

/-- The candidates were tried in turn, from the one state to the other, and all of them passed. -/
inductive Passed (attempt : α → σ → Except ε (Option β) × σ) : List α → σ → σ → Prop
  | nil {s : σ} : Passed attempt [] s s
  | cons {a : α} {candidates : List α} {s m s' : σ} (first : attempt a s = (.ok none, m))
      (rest : Passed attempt candidates m s') : Passed attempt (a :: candidates) s s'

variable {attempt : α → σ → Except ε (Option β) × σ} {candidates : List α} {s s' : σ}

/-- A search ends with the first candidate that does not pass, or passes all of them. -/
theorem search_cases (attempt : α → σ → Except ε (Option β) × σ) (candidates : List α) (s : σ) :
    (∃ s', Passed attempt candidates s s' ∧ search attempt candidates s = (.ok none, s')) ∨
    ∃ passed a rest m, candidates = passed ++ a :: rest ∧ Passed attempt passed s m ∧
      (attempt a m).1 ≠ .ok none ∧ search attempt candidates s = attempt a m := by
  induction candidates generalizing s with
  | nil => exact .inl ⟨s, .nil, rfl⟩
  | cons a candidates ih =>
    rcases hattempt : attempt a s with ⟨result, m⟩
    have hends : result ≠ .ok none →
        search attempt (a :: candidates) s = attempt a s := by
      intro hne
      rw [search, hattempt]
      rcases result with e | _ | b
      · rfl
      · exact absurd rfl hne
      · rfl
    by_cases hpass : result = .ok none
    · subst hpass
      have hstep : search attempt (a :: candidates) s = search attempt candidates m := by
        rw [search, hattempt]
      rcases ih m with ⟨s', hpassed, hrun⟩ | ⟨passed, b, rest, m', rfl, hpassed, hne, hrun⟩
      · exact .inl ⟨s', .cons hattempt hpassed, hstep.trans hrun⟩
      · exact .inr ⟨a :: passed, b, rest, m', rfl, .cons hattempt hpassed, hne,
          hstep.trans hrun⟩
    · refine .inr ⟨[], a, candidates, s, rfl, .nil, ?_, hends hpass⟩
      rw [hattempt]
      exact hpass

section Records

variable {τ η : Type} {of : τ → α} {entries : τ → List η} {log : σ → List η} {kind : τ → Prop}

/-- The records of the candidates that passed. -/
lemma Passed.collect
    (hpass : ∀ a s m, attempt a s = (.ok none, m) →
      ∃ record, of record = a ∧ kind record ∧ log m = log s ++ entries record)
    (h : Passed attempt candidates s s') :
    ∃ records : List τ, records.map of = candidates ∧ (∀ record ∈ records, kind record) ∧
      log s' = log s ++ records.flatMap entries := by
  induction h with
  | nil => exact ⟨[], rfl, by simp, by simp⟩
  | cons hfirst _ ih =>
    obtain ⟨record, hof, hkind, hlog⟩ := hpass _ _ _ hfirst
    obtain ⟨records, hmap, hkinds, hlogs⟩ := ih
    refine ⟨record :: records, ?_, List.forall_mem_cons.mpr ⟨hkind, hkinds⟩, ?_⟩
    · rw [List.map_cons, hof, hmap]
    · rw [hlogs, hlog, List.flatMap_cons, List.append_assoc]

/-- A search leaves one record for each candidate that was tried, in their order: either all of
them passed, or the last one has ended the search. -/
theorem search_records (attempt : α → σ → Except ε (Option β) × σ) (of : τ → α)
    (entries : τ → List η) (log : σ → List η) (kind : τ → Prop)
    (final : τ → List η → Except ε (Option β) × σ → Prop)
    (hpass : ∀ a s m, attempt a s = (.ok none, m) →
      ∃ record, of record = a ∧ kind record ∧ log m = log s ++ entries record)
    (hfinal : ∀ a s, (attempt a s).1 ≠ .ok none →
      ∃ record, of record = a ∧ final record (log s) (attempt a s))
    (candidates : List α) (s : σ) :
    (∃ records : List τ, records.map of = candidates ∧ (∀ record ∈ records, kind record) ∧
      (search attempt candidates s).1 = .ok none ∧
      log (search attempt candidates s).2 = log s ++ records.flatMap entries) ∨
    ∃ (earlier : List τ) (last : τ), (earlier ++ [last]).map of <+: candidates ∧
      (∀ record ∈ earlier, kind record) ∧
      final last (log s ++ earlier.flatMap entries) (search attempt candidates s) := by
  rcases search_cases attempt candidates s with
    ⟨s', hpassed, hsearch⟩ | ⟨passed, a, rest, m, htried, hpassed, hne, hsearch⟩
  · obtain ⟨records, hmap, hkind, hlog⟩ := hpassed.collect hpass
    rw [hsearch]
    exact .inl ⟨records, hmap, hkind, rfl, hlog⟩
  · obtain ⟨earlier, hmap, hkind, hlog⟩ := hpassed.collect hpass
    obtain ⟨last, hlast, hend⟩ := hfinal a m hne
    refine .inr ⟨earlier, last, ?_, hkind, ?_⟩
    · rw [List.map_append, hmap, List.map_singleton, hlast, htried]
      exact ⟨rest, by rw [List.append_assoc, List.singleton_append]⟩
    · rw [hsearch, ← hlog]
      exact hend

end Records

end OrderedSearch

import PagedSql.Proofs.Query.LayerNames
import PagedSql.Proofs.Query.Steps

/-!
# The names that a query gives away

A step takes one name from the query at most: when it asks for one, when a search adds its term, and when
a filter adds its values.  Each name uses up its number, so that no two names with one stem are the same,
and signs in front of the stem make no difference to that.

* `Step.stem?`           the stem of the name that a step takes;
* `Step.counter_run`     the number of the next name moves on exactly by the steps that take one;
* `Query.takenNames`     the names with a stem that are taken in a run;
* `exists_of_mem_takenNames`   each has a number that was not used up before the run;
* `nodup_plainName_takenNames` they are different once signs in front are left out.
-/

namespace PagedSql
open PagedSql.Text PagedSql.Decimal

/-! ## signs in front of a stem -/

theorem plainName_madeName (stem : String) (k : Nat) :
    plainName (madeName stem k) = madeName (plainName stem) k := by
  refine String.toList_injective ?_
  rw [toList_plainName, toList_madeName, toList_madeName, toList_plainName]
  induction stem.toList with
  | nil => rfl
  | cons c cs ih =>
    rw [List.cons_append, List.dropWhile_cons, List.dropWhile_cons]
    split
    · exact ih
    · rfl

theorem madeName_injective {stem : String} {j k : Nat} (h : madeName stem j = madeName stem k) :
    j = k :=
  (namedAt_madeName stem j).number_eq (h ▸ namedAt_madeName stem k)

/-! ## steps -/

namespace Step

def stem? (q : Query) : Step → Option String
  | .nextName stem => some stem
  | .search term columns =>
    if (searchLayer q.counter term columns).used = 0 then none else some "search"
  | .filter columns rawKey value =>
    if (columns.layer q.counter rawKey value).used = 0 then none else some "filter"
  | _ => none

theorem used_searchLayer (k : Nat) (term : String) (columns : List String) :
    (searchLayer k term columns).used = 0 ∨ (searchLayer k term columns).used = 1 := by
  unfold searchLayer
  split
  · exact Or.inl rfl
  · exact Or.inr rfl

theorem used_filterLayer (columns : Columns) (k : Nat) (rawKey value : String) :
    (columns.layer k rawKey value).used = 0 ∨ (columns.layer k rawKey value).used = 1 := by
  unfold Columns.layer
  split
  · next target test _ =>
    show (if test.needsName then 1 else 0) = 0 ∨ (if test.needsName then 1 else 0) = 1
    cases test.needsName
    · exact Or.inl rfl
    · exact Or.inr rfl
  · exact Or.inl rfl

/-- the counter moves on for a name and stands still otherwise -/
theorem counter_run (q : Query) (s : Step) :
    (s.run q).1.counter = q.counter + (s.stem? q).toList.length := by
  cases s with
  | project fragment =>
    simp only [run, Query.project]
    split <;> rfl
  | join kind table label condition =>
    simp only [run, Query.join]
    cases Join.make kind table label condition <;> rfl
  | restrict condition =>
    simp only [run]
    rw [Query.restrict_eq]
    rfl
  | orderBy columns direction => rfl
  | bind name value => rfl
  | nextName stem => rfl
  | search term columns =>
    simp only [run, stem?]
    rw [q.search_eq_lay]
    show q.counter + (searchLayer q.counter term columns).used = _
    rcases used_searchLayer q.counter term columns with hused | hused
    · rw [hused, if_pos rfl]
      rfl
    · rw [hused, if_neg Nat.one_ne_zero]
      rfl
  | filter columns rawKey value =>
    rw [run_filter, stem?]
    show q.counter + (columns.layer q.counter rawKey value).used = _
    rcases used_filterLayer columns q.counter rawKey value with hused | hused
    · rw [hused, if_pos rfl]
      rfl
    · rw [hused, if_neg Nat.one_ne_zero]
      rfl

end Step

/-! ## runs -/

namespace Query

/-- the names with a stem that steps take, in the order in which they take them -/
def takenNames (stem : String) (q : Query) : List Step → List String
  | [] => []
  | s :: steps =>
    if s.stem? q = some stem then (q.nextName stem).1 :: (s.run q).1.takenNames stem steps
    else (s.run q).1.takenNames stem steps

theorem exists_of_mem_takenNames {stem name : String} {q : Query} {steps : List Step}
    (h : name ∈ q.takenNames stem steps) : ∃ k, q.counter ≤ k ∧ name = madeName stem k := by
  induction steps generalizing q with
  | nil => exact absurd h List.not_mem_nil
  | cons s steps ih =>
    have hmoves := s.counter_run q
    have hlater : name ∈ (s.run q).1.takenNames stem steps →
        ∃ k, q.counter ≤ k ∧ name = madeName stem k := by
      intro hmem
      obtain ⟨k, hk, hname⟩ := ih hmem
      exact ⟨k, by omega, hname⟩
    rw [takenNames] at h
    split at h
    · rcases List.mem_cons.mp h with rfl | h
      · exact ⟨q.counter, Nat.le_refl _, rfl⟩
      · exact hlater h
    · exact hlater h

/-- **Names are given away once.**  The names with one stem that a run takes are different from one
another, with or without the signs in front. -/
theorem nodup_plainName_takenNames (stem : String) (q : Query) (steps : List Step) :
    ((q.takenNames stem steps).map plainName).Nodup := by
  induction steps generalizing q with
  | nil => exact List.nodup_nil
  | cons s steps ih =>
    rw [takenNames]
    split
    · next htakes =>
      rw [List.map_cons]
      refine List.nodup_cons.mpr ⟨fun hmem => ?_, ih (s.run q).1⟩
      -- a later name has a later number
      obtain ⟨name, hname, hsame⟩ := List.mem_map.mp hmem
      obtain ⟨k, hk, rfl⟩ := exists_of_mem_takenNames hname
      have hmoves := s.counter_run q
      rw [htakes] at hmoves
      change (s.run q).1.counter = q.counter + 1 at hmoves
      rw [nextName_eq, plainName_madeName, plainName_madeName] at hsame
      have hnumber : k = q.counter := madeName_injective hsame
      omega
    · exact ih (s.run q).1

end Query

end PagedSql

import PagedSql.Proofs.Identifier
import PagedSql.Proofs.Positional.Conditions
import PagedSql.Proofs.Query.Steps
import PagedSql.Proofs.Text.Outline

/-!
# Conditions as they are asked for

Every condition of a query was asked for by somebody: it is trimmed, dropped if nothing is left, and
put in parentheses.  So the conditions of a query are known from what its steps asked for, and if all
of that is balanced, the parentheses around a condition are the ones that hold it.

* `contents`            what is left of conditions that are asked for;
* `searchAsked`, `testsAsked`, `Step.asked`   what a search, tests and a step ask for;
* `conditions_searchLayer`, `conditions_testsLayer`   the conditions of their layers;
* `Step.conditions_run` one step adds what it asks for, `Query.conditions_after` all steps do;
* `Test.balanced_condition`, `balanced_searchCondition`   conditions on balanced columns are balanced;
* `Step.balanced_asked`, `Query.balanced_asked`   what is asked for with balanced texts is balanced;
* `outlined_conditionsSql`   the outline of the conditions of a statement.
-/

namespace PagedSql
open PagedSql.Text

/-! ## what is left of a condition -/

def contents (asked : List String) : List String := (asked.map trim).filter (· ≠ "")

theorem flatMap_restriction (asked : List String) :
    asked.flatMap restriction = (contents asked).map bracketed := by
  induction asked with
  | nil => rfl
  | cons c asked ih =>
    unfold contents at ih ⊢
    rw [List.flatMap_cons, List.map_cons, ih]
    unfold restriction
    by_cases h : trim c = ""
    · rw [if_pos h, List.filter_cons_of_neg (by simpa using h), List.nil_append]
    · rw [if_neg h, List.filter_cons_of_pos (by simpa using h), List.map_cons]
      rfl

theorem balanced_contents {asked : List String} (h : ∀ c ∈ asked, Balanced c) :
    ∀ c ∈ contents asked, Balanced c := by
  intro c hc
  obtain ⟨d, hd, rfl⟩ := List.mem_map.mp (List.mem_of_mem_filter hc)
  exact (h d hd).trim

/-! ## search and tests -/

def searchAsked (k : Nat) (term : String) (columns : List String) : List String :=
  if trim term = "" ∨ searched columns = [] then []
  else [Query.searchCondition (madeName "search" k) (searched columns)]

theorem conditions_searchLayer (k : Nat) (term : String) (columns : List String) :
    (searchLayer k term columns).conditions = (searchAsked k term columns).flatMap restriction := by
  unfold searchLayer searchAsked
  split
  · rfl
  · rw [List.flatMap_singleton]

theorem Test.conditions_layer (k : Nat) (column : String) (test : Test) :
    (test.layer k column).conditions = restriction (test.condition (madeName "filter" k) column) := by
  unfold layer
  rfl

theorem Layer.conditions_and (a b : Layer) :
    (a.and b).conditions = a.conditions ++ b.conditions := rfl

def testsAsked (k : Nat) : List (Column × Test) → List String
  | [] => []
  | (target, test) :: rest =>
    test.condition (madeName "filter" k) target.column ::
      testsAsked (k + (test.layer k target.column).used) rest

theorem conditions_testsLayer (k : Nat) (tests : List (Column × Test)) :
    (testsLayer k tests).conditions = (testsAsked k tests).flatMap restriction := by
  induction tests generalizing k with
  | nil => rfl
  | cons e tests ih =>
    obtain ⟨target, test⟩ := e
    rw [testsLayer_cons, testsAsked, List.flatMap_cons, ← ih, Layer.conditions_and,
      Test.conditions_layer]

/-! ## steps -/

def Columns.asked (columns : Columns) (k : Nat) (rawKey value : String) : List String :=
  match columns.resolve rawKey value with
  | .ok (some (target, test)) => [test.condition (madeName "filter" k) target.column]
  | _ => []

/-- the conditions that a step asks for, as they stand -/
def Step.asked (q : Query) : Step → List String
  | .restrict condition => [condition]
  | .search term columns => searchAsked q.counter term columns
  | .filter columns rawKey value => columns.asked q.counter rawKey value
  | _ => []

theorem Columns.conditions_layer (columns : Columns) (k : Nat) (rawKey value : String) :
    (columns.layer k rawKey value).conditions =
      (columns.asked k rawKey value).flatMap restriction := by
  unfold layer asked
  cases columns.resolve rawKey value with
  | error e => rfl
  | ok found =>
    cases found with
    | none => rfl
    | some e =>
      dsimp only
      rw [List.flatMap_singleton, Test.conditions_layer]

/-- **One step.**  What a step asks for stands behind the conditions that were there. -/
theorem Step.conditions_run (q : Query) (s : Step) :
    (s.run q).1.conditions = q.conditions ++ (s.asked q).flatMap restriction := by
  have hnothing : q.conditions = q.conditions ++ [].flatMap restriction :=
    (List.append_nil q.conditions).symm
  cases s with
  | project fragment =>
    simp only [run, Query.project]
    split
    · exact hnothing
    · exact hnothing
  | join kind table label condition =>
    simp only [run, Query.join]
    cases Join.make kind table label condition with
    | error e => exact hnothing
    | ok j => exact hnothing
  | restrict condition =>
    simp only [run]
    rw [Query.restrict_eq, asked, List.flatMap_singleton]
  | search term columns =>
    simp only [run]
    rw [Query.search_eq_lay, asked, ← conditions_searchLayer]
    rfl
  | orderBy columns direction => exact hnothing
  | bind name value => exact hnothing
  | nextName stem => exact hnothing
  | filter columns rawKey value =>
    rw [run_filter, asked, ← Columns.conditions_layer]
    rfl

namespace Query

/-- the conditions that all steps ask for -/
def asked (q : Query) : List Step → List String
  | [] => []
  | s :: steps => s.asked q ++ (s.run q).1.asked steps

/-- **All steps.** -/
theorem conditions_after (q : Query) (steps : List Step) :
    (q.after steps).conditions = q.conditions ++ (q.asked steps).flatMap restriction := by
  induction steps generalizing q with
  | nil => exact (List.append_nil q.conditions).symm
  | cons s steps ih =>
    rw [after_cons, ih, s.conditions_run, asked, List.flatMap_append, List.append_assoc]

theorem conditions_make {table label : String} {q : Query} (h : make table label = .ok q) :
    q.conditions = [] := by
  unfold make at h
  dsimp only at h
  split at h
  · cases h
  · cases h
    rfl

end Query

/-! ## balanced conditions -/

theorem flat_madeName {stem : String} (h : isName stem.toList = true) (k : Nat) :
    Flat (madeName stem k) :=
  flat_of_isName (isName_madeName h k)

theorem IsWord.flat {s : String} (h : IsWord s) : Flat s := by
  refine List.all_eq_true.mpr fun c hc => ?_
  have hword := h.chars c hc
  unfold isWordChar at hword
  rw [Bool.or_eq_true, beq_iff_eq] at hword
  rcases hword with hname | rfl
  · exact isFlat_of_isNameChar hname
  · decide

namespace Test
variable {base column : String}

theorem balanced_placeholder (h : Flat base) : Balanced ("@" ++ base) :=
  ((by decide : Flat "@").append h).balanced

theorem flat_numberedFrom (h : Flat base) (i : Nat) (vs : List Value) :
    ∀ e ∈ numberedFrom base i vs, Flat e.1 := by
  intro e he
  obtain ⟨k, hname⟩ := exists_of_mem_numberedFrom (List.mem_map_of_mem he)
  have hnumber : Flat (Decimal.natText k) :=
    List.all_eq_true.mpr fun c hc =>
      isFlat_of_isNameChar (List.all_eq_true.mp (all_isNameChar_natText k) c hc)
  rw [hname]
  exact (h.append (by decide)).append hnumber

theorem balanced_condition (test : Test) (hb : Flat base) (hc : Balanced column) :
    Balanced (test.condition base column) := by
  have hmark := balanced_placeholder hb
  cases test with
  | compare c v =>
    have hsign : Flat (" " ++ c.sql ++ " ") := by cases c <;> decide
    rw [condition_compare]
    exact (hc.append hsign.balanced).append hmark
  | pattern text =>
    rw [condition_pattern]
    exact (hc.append (by decide)).append hmark
  | oneOf positive vs =>
    have hlist : Balanced (join ", " ((numberedFrom base 0 vs).map fun e => "@" ++ e.1)) := by
      refine Balanced.join (by decide) fun s hs => ?_
      obtain ⟨e, he, rfl⟩ := List.mem_map.mp hs
      exact balanced_placeholder (flat_numberedFrom hb 0 vs e he)
    have hcut : (if positive then " IN (" else " NOT IN (") =
        (if positive then " IN " else " NOT IN ") ++ "(" := by cases positive <;> decide
    have hword : Balanced (if positive then " IN " else " NOT IN ") := by cases positive <;> decide
    have hall := (hc.append hword).append hlist.bracketed
    unfold bracketed at hall
    show Balanced (column ++ (if positive then " IN (" else " NOT IN (") ++
      join ", " ((numberedFrom base 0 vs).map fun e => "@" ++ e.1) ++ ")")
    rw [hcut]
    simpa only [String.append_assoc] using hall
  | missing positive =>
    rw [condition]
    cases positive
    · exact hc.append (by decide)
    · exact hc.append (by decide)
  | range low high =>
    have hlow := balanced_placeholder (hb.append (by decide : Flat "_from"))
    have hhigh := balanced_placeholder (hb.append (by decide : Flat "_to"))
    rw [condition_range]
    exact (((hc.append (by decide)).append hlow).append (by decide)).append hhigh

end Test

theorem balanced_searchCondition {name : String} (hn : Flat name) {columns : List String}
    (h : ∀ c ∈ columns, Balanced c) : Balanced (Query.searchCondition name columns) := by
  rw [searchCondition_eq]
  refine Balanced.join (by decide) fun s hs => ?_
  obtain ⟨c, hc, rfl⟩ := List.mem_map.mp hs
  have hcut : "LOWER(" ++ c ++ ") LIKE " ++ ("@" ++ name) =
      "LOWER" ++ bracketed c ++ " LIKE " ++ ("@" ++ name) := by
    have ho : "LOWER(" = "LOWER" ++ "(" := by decide
    have hl : ") LIKE " = ")" ++ " LIKE " := by decide
    unfold bracketed
    rw [ho, hl]
    simp only [String.append_assoc]
  have hlower : Balanced "LOWER" := by decide
  rw [hcut]
  exact ((hlower.append (h c hc).bracketed).append (by decide)).append
    (Test.balanced_placeholder hn)

theorem balanced_searchAsked (k : Nat) (term : String) {columns : List String}
    (h : ∀ c ∈ columns, Balanced c) : ∀ c ∈ searchAsked k term columns, Balanced c := by
  have hsearched : ∀ c ∈ searched columns, Balanced c := balanced_contents h
  unfold searchAsked
  split
  · exact fun c hc => absurd hc List.not_mem_nil
  · intro c hc
    rw [List.mem_singleton.mp hc]
    exact balanced_searchCondition (flat_madeName (by decide) k) hsearched

theorem balanced_testsAsked (k : Nat) {tests : List (Column × Test)}
    (h : ∀ t ∈ tests, Balanced t.1.column) : ∀ c ∈ testsAsked k tests, Balanced c := by
  induction tests generalizing k with
  | nil => exact fun c hc => absurd hc List.not_mem_nil
  | cons e tests ih =>
    intro c hc
    rcases List.mem_cons.mp hc with rfl | hc
    · exact e.2.balanced_condition (flat_madeName (by decide) k) (h e List.mem_cons_self)
    · exact ih _ (fun t ht => h t (List.mem_cons_of_mem _ ht)) c hc

/-- the texts of a step that its conditions are made of -/
def Step.conditionTexts : Step → List String
  | .restrict condition => [condition]
  | .search _ columns => columns
  | .filter columns rawKey _ => (columns.find? (splitKey rawKey).1).toList.map Column.column
  | _ => []

theorem Step.balanced_asked (q : Query) {s : Step} (h : ∀ t ∈ s.conditionTexts, Balanced t) :
    ∀ c ∈ s.asked q, Balanced c := by
  cases s with
  | restrict condition => exact h
  | search term columns => exact balanced_searchAsked q.counter term h
  | filter columns rawKey value =>
    show ∀ c ∈ columns.asked q.counter rawKey value, Balanced c
    unfold Columns.asked
    split
    · next target test hresolve =>
      have hcolumn : Balanced target.column := by
        refine h _ ?_
        rw [conditionTexts, (Columns.of_resolve_some hresolve).1]
        exact List.mem_singleton_self _
      intro c hc
      rw [List.mem_singleton.mp hc]
      exact test.balanced_condition (flat_madeName (by decide) q.counter) hcolumn
    · exact fun c hc => absurd hc List.not_mem_nil
  | project fragment => exact fun c hc => absurd hc List.not_mem_nil
  | join kind table label condition => exact fun c hc => absurd hc List.not_mem_nil
  | orderBy columns direction => exact fun c hc => absurd hc List.not_mem_nil
  | bind name value => exact fun c hc => absurd hc List.not_mem_nil
  | nextName stem => exact fun c hc => absurd hc List.not_mem_nil

theorem Query.balanced_asked (q : Query) {steps : List Step}
    (h : ∀ t ∈ steps.flatMap Step.conditionTexts, Balanced t) :
    ∀ c ∈ q.asked steps, Balanced c := by
  induction steps generalizing q with
  | nil => exact fun c hc => absurd hc List.not_mem_nil
  | cons s steps ih =>
    rw [List.flatMap_cons] at h
    intro c hc
    rcases List.mem_append.mp hc with hc | hc
    · exact s.balanced_asked q (fun t ht => h t (List.mem_append_left _ ht)) c hc
    · exact ih (s.run q).1 (fun t ht => h t (List.mem_append_right _ ht)) c hc

/-! ## the outline of conditions -/

/-- `WHERE`, one pair of parentheses for each condition, and `AND` between them -/
def whereParts (contents : List String) : List Part :=
  if contents = [] then []
  else openText "WHERE " ++
    List.intercalate (openText " AND ") (contents.map fun c => [Part.group c.toList])

theorem outlined_conditionsSql {contents : List String} (h : ∀ c ∈ contents, Balanced c) :
    outlined (conditionsSql (contents.map bracketed)) = some (whereParts contents) := by
  unfold conditionsSql whereParts
  by_cases hnone : contents = []
  · rw [hnone]
    rfl
  · have hsome : contents.map bracketed ≠ [] := fun hnil => hnone (List.map_eq_nil_iff.mp hnil)
    have hjoin := outlined_join (by decide : Flat " AND ") h
    have hwhere : ("WHERE ".toList).all isFlat = true := by decide
    unfold outlined at hjoin ⊢
    rw [if_neg hnone, if_neg hsome, String.toList_append, outline_flat hwhere, hjoin]
    rfl

end PagedSql

import PagedSql.Query.Step
import PagedSql.Run.Plan
import PagedSql.Proofs.Query.Clauses
import PagedSql.Proofs.Query.LayerPieces

/-!
# No placeholder dangles

A query is built by steps, from texts that the caller supplies and from conditions that are made up
around them.  If every supplied text keeps its quotes closed and uses bound names only, the statements
of the query have no placeholder without a value.

* `Fits`               a text that keeps its quotes closed, its placeholders with some property;
* `Step.texts`         the texts that a step is supplied with;
* `Step.layer`         what a step adds on its own account;
* `Step.all_run`       one step keeps the texts of a query fitting, `Query.all_after` all steps do;
* `Step.binds_run`     a step unbinds no name, and binds the names that it makes up;
* `Query.numbered_batch`   a page of a query of fitting texts can be numbered;
* `numbered_after_steps`   every statement of the query can be numbered.
-/

namespace PagedSql
open PagedSql.Text

structure Fits (P : List Char → Prop) (t : String) : Prop where
  closed : Closed t
  names : ∀ n ∈ placeholders t, P n

instance (P : List Char → Prop) [DecidablePred P] (t : String) : Decidable (Fits P t) :=
  decidable_of_iff (Closed t ∧ ∀ n ∈ placeholders t, P n)
    ⟨fun ⟨hc, hn⟩ => ⟨hc, hn⟩, fun h => ⟨h.closed, h.names⟩⟩

theorem Scans.fits {P : List Char → Prop} {s : String} {ps : List Piece} (h : Scans s ps)
    (hn : ∀ n ∈ names ps, P n) : Fits P s := by
  refine ⟨h.closed, ?_⟩
  rw [h.placeholders_eq]
  exact hn

/-! ## conditions -/

section
variable {P : List Char → Prop}

theorem Fits.trim {t : String} (h : Fits P t) : Fits P (trim t) := by
  refine ⟨h.closed.trim, ?_⟩
  rw [placeholders_trim h.closed]
  exact h.names

theorem Fits.restriction {c : String} (h : Fits P c) : ∀ t ∈ restriction c, Fits P t := by
  intro t ht
  unfold PagedSql.restriction at ht
  split at ht
  · exact absurd ht List.not_mem_nil
  · rw [List.mem_singleton] at ht
    subst ht
    refine (scans_restriction h.closed).fits ?_
    rw [names_restrictionPieces h.closed]
    exact h.names

theorem fits_searched {columns : List String} (h : ∀ c ∈ columns, Fits P c) :
    ∀ c ∈ searched columns, Fits P c := by
  intro c hc
  obtain ⟨d, hd, rfl⟩ := List.mem_map.mp (List.mem_of_mem_filter hc)
  exact (h d hd).trim

theorem fits_searchLayer (k : Nat) (term : String) {columns : List String}
    (h : ∀ c ∈ columns, Fits P c) (hm : ∀ n ∈ (searchLayer k term columns).names, P n.toList) :
    ∀ c ∈ (searchLayer k term columns).conditions, Fits P c := by
  have hcols := fits_searched h
  have hbase := isName_searchName k
  unfold searchLayer at hm ⊢
  by_cases hnone : trim term = "" ∨ searched columns = []
  · rw [if_pos hnone]
    exact fun c hc => absurd hc List.not_mem_nil
  · rw [if_neg hnone] at hm ⊢
    have hname : P (madeName "search" k).toList := hm _ List.mem_cons_self
    have hcond := scans_searchCondition hbase fun c hc => (hcols c hc).closed
    have hfits : Fits P (Query.searchCondition (madeName "search" k) (searched columns)) := by
      refine hcond.fits fun n hn => ?_
      rw [names_searchPieces] at hn
      obtain ⟨c, hc, hnc⟩ := List.mem_flatMap.mp hn
      rcases List.mem_append.mp hnc with hnc | hnc
      · exact (hcols c hc).names n hnc
      · rw [List.mem_singleton] at hnc
        rw [hnc]
        exact hname
    dsimp only
    exact hfits.restriction

theorem fits_testLayer (k : Nat) {column : String} (test : Test) (h : Fits P column)
    (hm : ∀ n ∈ (test.layer k column).names, P n.toList) :
    ∀ c ∈ (test.layer k column).conditions, Fits P c := by
  have hcond := test.scans_condition (fun _ => isName_filterName k) h.closed
  have hfits : Fits P (test.condition (madeName "filter" k) column) := by
    refine hcond.fits fun n hn => ?_
    rw [names_append, Test.names_pieces] at hn
    rcases List.mem_append.mp hn with hn | hn
    · exact h.names n hn
    · obtain ⟨e, he, rfl⟩ := List.mem_map.mp hn
      exact hm e.1 (List.mem_map_of_mem he)
  unfold Test.layer
  dsimp only
  exact hfits.restriction

end

/-! ## operations -/

namespace Query
variable {P : String → Prop} {q : Query}

theorem all_make {table label : String} (h : Query.make table label = .ok q) (ht : P (trim table))
    (hl : P (trim label)) : q.All P := by
  simp only [make] at h
  split at h
  · cases h
  · cases h
    refine ⟨ht, ?_, ?_, ?_, ?_, ?_⟩
    · dsimp only
      split
      · exact ht
      · exact hl
    all_goals exact fun x hx => absurd hx List.not_mem_nil

section
variable (hq : q.All P)
include hq

theorem all_project {f : String} (h : P f) : (q.project f).All P := by
  unfold project
  split
  · exact hq
  · refine ⟨hq.table, hq.label, ?_, hq.joins, hq.conditions, hq.ordering⟩
    intro g hg
    rcases List.mem_append.mp hg with hg | hg
    · exact hq.projection g hg
    · rw [List.mem_singleton] at hg
      exact hg ▸ h

theorem all_join {kind : JoinKind} {table label condition : String} {joined : Query} (ht : P table)
    (hl : P label) (hc : P condition) (h : q.join kind table label condition = .ok joined) :
    joined.All P := by
  unfold join Join.make at h
  split at h
  · cases h
  · next j hj =>
    cases h
    refine ⟨hq.table, hq.label, hq.projection, ?_, hq.conditions, hq.ordering⟩
    intro i hi
    rcases List.mem_append.mp hi with hi | hi
    · exact hq.joins i hi
    · rw [List.mem_singleton] at hi
      subst hi
      split at hj
      · cases hj
      · split at hj
        · cases hj
        · split at hj
          · cases hj
          · cases hj
            exact ⟨ht, hl, hc⟩

theorem all_orderBy {columns : List String} (h : ∀ c ∈ columns, P c) (direction : Direction) :
    (q.orderBy columns direction).All P :=
  ⟨hq.table, hq.label, hq.projection, hq.joins, hq.conditions,
    fun c hc => h c (List.mem_of_mem_filter hc)⟩

theorem all_add {conditions : List String} (h : ∀ c ∈ conditions, P c) :
    ({ q with conditions := q.conditions ++ conditions } : Query).All P := by
  refine ⟨hq.table, hq.label, hq.projection, hq.joins, ?_, hq.ordering⟩
  intro c hc
  rcases List.mem_append.mp hc with hc | hc
  · exact hq.conditions c hc
  · exact h c hc

theorem all_restrict {c : String} (h : ∀ t ∈ restriction c, P t) : (q.restrict c).All P := by
  rw [restrict_eq]
  exact all_add hq h

theorem all_lay {l : Layer} (h : ∀ c ∈ l.conditions, P c) : (q.lay l).All P :=
  have hadd := all_add hq h
  ⟨hadd.table, hadd.label, hadd.projection, hadd.joins, hadd.conditions, hadd.ordering⟩

end

end Query

/-! ## steps -/

/-- the texts that a step is supplied with, to be written as they stand -/
def Step.texts : Step → List String
  | .project fragment => [fragment]
  | .join _ table label condition => [table, label, condition]
  | .restrict condition => [condition]
  | .search _ columns => columns
  | .orderBy columns _ => columns
  | .bind _ _ => []
  | .nextName _ => []
  | .filter columns rawKey _ => (columns.find? (splitKey rawKey).1).toList.map Column.column

/-- the layer of a filter, nothing if it is refused or passed over -/
def Columns.layer (columns : Columns) (k : Nat) (rawKey value : String) : Layer :=
  match columns.resolve rawKey value with
  | .ok (some (target, test)) => test.layer k target.column
  | _ => .empty

/-- what a step adds on its own account -/
def Step.layer (q : Query) : Step → Layer
  | .search term columns => searchLayer q.counter term columns
  | .filter columns rawKey value => columns.layer q.counter rawKey value
  | _ => .empty

namespace Step

theorem run_filter (q : Query) (columns : Columns) (rawKey value : String) :
    (run q (.filter columns rawKey value)).1 = q.lay (columns.layer q.counter rawKey value) := by
  simp only [run, Columns.filter, Columns.layer]
  cases columns.resolve rawKey value with
  | error e => exact q.lay_empty.symm
  | ok found =>
    cases found with
    | none => exact q.lay_empty.symm
    | some e =>
      dsimp only
      exact q.impose_eq_lay e.1.column e.2

section
variable {P : List Char → Prop} {q : Query}

theorem fits_filterLayer {columns : Columns} {rawKey value : String} (k : Nat)
    (ht : ∀ t ∈ texts (.filter columns rawKey value), Fits P t)
    (hm : ∀ n ∈ (columns.layer k rawKey value).names, P n.toList) :
    ∀ c ∈ (columns.layer k rawKey value).conditions, Fits P c := by
  unfold Columns.layer at hm ⊢
  cases h : columns.resolve rawKey value with
  | error e => exact fun c hc => absurd hc List.not_mem_nil
  | ok found =>
    rw [h] at hm
    cases found with
    | none => exact fun c hc => absurd hc List.not_mem_nil
    | some e =>
      have hcol : Fits P e.1.column := by
        refine ht _ ?_
        rw [texts, (Columns.of_resolve_some h).1]
        exact List.mem_singleton_self _
      dsimp only at hm ⊢
      exact fits_testLayer k e.2 hcol hm

/-- **One step.**  Texts that fit are added to texts that fit. -/
theorem all_run {s : Step} (hq : q.All (Fits P)) (ht : ∀ t ∈ s.texts, Fits P t)
    (hm : ∀ n ∈ (s.layer q).names, P n.toList) : (s.run q).1.All (Fits P) := by
  cases s with
  | project fragment =>
    simp only [run]
    exact Query.all_project hq (ht _ List.mem_cons_self)
  | join kind table label condition =>
    have htable : Fits P table := ht table (by simp [texts])
    have hlabel : Fits P label := ht label (by simp [texts])
    have hcondition : Fits P condition := ht condition (by simp [texts])
    simp only [run]
    split
    · next joined h => exact Query.all_join hq htable hlabel hcondition h
    · exact hq
  | restrict condition =>
    simp only [run]
    exact Query.all_restrict hq (ht _ List.mem_cons_self).restriction
  | search term columns =>
    simp only [run]
    rw [q.search_eq_lay]
    exact Query.all_lay hq (fits_searchLayer q.counter term ht hm)
  | orderBy columns direction =>
    simp only [run]
    exact Query.all_orderBy hq ht direction
  | bind name value => exact ⟨hq.table, hq.label, hq.projection, hq.joins, hq.conditions, hq.ordering⟩
  | nextName stem => exact ⟨hq.table, hq.label, hq.projection, hq.joins, hq.conditions, hq.ordering⟩
  | filter columns rawKey value =>
    rw [run_filter]
    exact Query.all_lay hq (fits_filterLayer q.counter ht hm)

end

end Step

/-! ## parameters -/

namespace Step

/-- the parameters after a step are those before it, one bound by the caller, or the layer's own -/
theorem parameters_run (q : Query) (s : Step) : ∃ es,
    (s.run q).1.parameters = q.parameters.bindAll (es ++ (s.layer q).parameters) := by
  cases s with
  | search term columns =>
    refine ⟨[], ?_⟩
    simp only [run]
    rw [q.search_eq_lay, Query.parameters_lay]
    rfl
  | filter columns rawKey value =>
    refine ⟨[], ?_⟩
    rw [run_filter, Query.parameters_lay]
    rfl
  | bind name value => exact ⟨[(name, value)], rfl⟩
  | project fragment =>
    refine ⟨[], ?_⟩
    simp only [run, Query.project]
    split <;> rfl
  | join kind table label condition =>
    refine ⟨[], ?_⟩
    simp only [run, Query.join]
    cases Join.make kind table label condition <;> rfl
  | restrict condition =>
    refine ⟨[], ?_⟩
    simp only [run]
    rw [Query.restrict_eq]
    rfl
  | orderBy columns direction => exact ⟨[], rfl⟩
  | nextName stem => exact ⟨[], rfl⟩

theorem binds_run {q : Query} {n : List Char} (h : q.parameters.Binds n) (s : Step) :
    (s.run q).1.parameters.Binds n := by
  obtain ⟨es, hes⟩ := s.parameters_run q
  rw [hes]
  exact h.bindAll _

theorem binds_run_layer (q : Query) (s : Step) {name : String} (h : name ∈ (s.layer q).names) :
    (s.run q).1.parameters.Binds name.toList := by
  obtain ⟨es, hes⟩ := s.parameters_run q
  rw [hes]
  refine Bindings.binds_bindAll _ ?_
  rw [List.map_append]
  exact List.mem_append_right _ h

end Step

/-! ## runs -/

namespace Query

/-- the names that a run makes up for its own values -/
def madeNames (q : Query) : List Step → List String
  | [] => []
  | s :: steps => (s.layer q).names ++ (s.run q).1.madeNames steps

theorem binds_after {q : Query} {n : List Char} (h : q.parameters.Binds n) (steps : List Step) :
    (q.after steps).parameters.Binds n := by
  induction steps generalizing q with
  | nil => exact h
  | cons s steps ih => exact ih (s.binds_run h)

theorem binds_madeNames (q : Query) {steps : List Step} {name : String}
    (h : name ∈ q.madeNames steps) : (q.after steps).parameters.Binds name.toList := by
  induction steps generalizing q with
  | nil => exact absurd h List.not_mem_nil
  | cons s steps ih =>
    rw [after_cons]
    rcases List.mem_append.mp h with h | h
    · exact binds_after (s.binds_run_layer q h) steps
    · exact ih (s.run q).1 h

/-- **All steps.**  Supplied texts that fit are all that the query is made of. -/
theorem all_after {P : List Char → Prop} {q : Query} (hq : q.All (Fits P)) {steps : List Step}
    (ht : ∀ t ∈ steps.flatMap Step.texts, Fits P t) (hm : ∀ n ∈ q.madeNames steps, P n.toList) :
    (q.after steps).All (Fits P) := by
  induction steps generalizing q with
  | nil => exact hq
  | cons s steps ih =>
    rw [after_cons]
    have hstep : (s.run q).1.All (Fits P) := by
      refine s.all_run hq (fun t h => ht t ?_) fun n h => hm n (List.mem_append_left _ h)
      rw [List.flatMap_cons]
      exact List.mem_append_left _ h
    refine ih hstep (fun t h => ht t ?_) fun n h => hm n (List.mem_append_right _ h)
    rw [List.flatMap_cons]
    exact List.mem_append_right _ h

/-! ## statements -/

section
variable {P : List Char → Prop} {q : Query} (h : q.All (Fits P))
include h

theorem all_closed : q.All Closed := h.imp fun _ ht => ht.closed

theorem forall_sourced : ∀ n ∈ q.sourced, P n := by
  intro n hn
  unfold sourced at hn
  simp only [List.mem_append, List.mem_flatMap, Join.placeholders] at hn
  rcases hn with ((hn | hn) | ⟨j, hj, (hn | hn) | hn⟩) | ⟨c, hc, hn⟩
  · exact h.table.names n hn
  · exact h.label.names n hn
  · exact (h.joins j hj).table.names n hn
  · exact (h.joins j hj).label.names n hn
  · exact (h.joins j hj).condition.names n hn
  · exact (h.conditions c hc).names n hn

theorem forall_projected : ∀ n ∈ q.projected, P n := by
  intro n hn
  unfold projected at hn
  split at hn
  · exact h.label.names n hn
  · obtain ⟨f, hf, hn⟩ := List.mem_flatMap.mp hn
    exact (h.projection f hf).names n hn

theorem fits_rowsSql : Fits P q.rowsSql := by
  refine (scans_rowsSql (all_closed h)).fits fun n hn => ?_
  rw [names_rowsPieces] at hn
  rcases List.mem_append.mp hn with hn | hn
  · rcases List.mem_append.mp hn with hn | hn
    · exact forall_projected h n hn
    · exact forall_sourced h n hn
  · obtain ⟨c, hc, hn⟩ := List.mem_flatMap.mp hn
    exact (h.ordering c hc).names n hn

theorem fits_countSql : Fits P q.countSql := by
  refine (scans_countSql (all_closed h)).fits ?_
  rw [names_countPieces]
  exact forall_sourced h

end

/-! ## pages -/

section
variable {q : Query} (offset : Int64) (size : UInt32)

theorem placeholders_batch (h : q.All Closed) : placeholders (q.batch offset size).rowsSql =
    placeholders q.rowsSql ++ [offsetName.toList, sizeName.toList] := by
  have hrows := scans_rowsSql h
  have hwindow := scans_windowSql hrows (by decide : isName offsetName.toList = true)
    (by decide : isName sizeName.toList = true)
  show placeholders (windowSql q.rowsSql offsetName sizeName) = _
  rw [hwindow.placeholders_eq, hrows.placeholders_eq, names_windowPieces]

theorem binds_batch {n : List Char} (h : q.parameters.Binds n) :
    (q.batch offset size).parameters.Binds n :=
  (h.bind _ _).bind _ _

theorem binds_window (q : Query) : ∀ n ∈ [offsetName.toList, sizeName.toList],
    (q.batch offset size).parameters.Binds n := by
  intro n hn
  rcases List.mem_cons.mp hn with rfl | hn
  · exact (Bindings.binds_bind_self _ offsetName _).bind _ _
  · rw [List.mem_singleton] at hn
    subst hn
    exact Bindings.binds_bind_self _ sizeName _

/-- **One page.**  The window is bound on top of the parameters that the texts need. -/
theorem numbered_batch (h : q.All (Fits q.parameters.Binds)) : ∃ rows count,
    numbered (q.batch offset size).rowsSql (q.batch offset size).parameters = .ok rows ∧
      numbered (q.batch offset size).countSql (q.batch offset size).parameters = .ok count := by
  have hrows : ∀ n ∈ placeholders (q.batch offset size).rowsSql,
      (q.batch offset size).parameters.Binds n := by
    intro n hn
    rw [placeholders_batch offset size (all_closed h)] at hn
    rcases List.mem_append.mp hn with hn | hn
    · exact binds_batch offset size ((fits_rowsSql h).names n hn)
    · exact binds_window offset size q n hn
  have hcount : ∀ n ∈ placeholders (q.batch offset size).countSql,
      (q.batch offset size).parameters.Binds n :=
    fun n hn => binds_batch offset size ((fits_countSql h).names n hn)
  exact ⟨_, _, numbered_eq hrows, numbered_eq hcount⟩

end

/-! ## queries built from a table -/

/-- texts that fit are all that a query built by steps is made of -/
theorem all_built {P : List Char → Prop} {table label : String} {start : Query}
    (hstart : make table label = .ok start) {steps : List Step}
    (ht : ∀ t ∈ table :: label :: steps.flatMap Step.texts, Fits P t)
    (hm : ∀ n ∈ start.madeNames steps, P n.toList) : (start.after steps).All (Fits P) := by
  have htable := (ht table List.mem_cons_self).trim
  have hlabel := (ht label (List.mem_cons_of_mem _ List.mem_cons_self)).trim
  refine all_after (all_make hstart htable hlabel) (fun t h => ht t ?_) hm
  exact List.mem_cons_of_mem _ (List.mem_cons_of_mem _ h)

end Query

/-- **No placeholder dangles.**  A query is built from a table by any steps.  If every text that it
was supplied with keeps its quotes closed and uses names that are bound in the end, then the
statements of the query can be numbered, and so can those of every page of it; and a placeholder of
a statement is one of a supplied text, a name made up by a step, or one of the two of the window. -/
theorem numbered_after_steps {table label : String} {start : Query}
    (hstart : Query.make table label = .ok start) (steps : List Step)
    (htexts : ∀ t ∈ table :: label :: steps.flatMap Step.texts,
      Fits (start.after steps).parameters.Binds t) :
    let q := start.after steps
    (∃ rows, numbered q.rowsSql q.parameters = .ok rows) ∧
      (∃ count, numbered q.countSql q.parameters = .ok count) ∧
      (∀ offset size, ∃ rows count,
        numbered (q.batch offset size).rowsSql (q.batch offset size).parameters = .ok rows ∧
        numbered (q.batch offset size).countSql (q.batch offset size).parameters = .ok count ∧
        placeholders (q.batch offset size).rowsSql =
          placeholders q.rowsSql ++ [offsetName.toList, sizeName.toList] ∧
        placeholders (q.batch offset size).countSql = placeholders q.countSql) ∧
      ∀ n ∈ placeholders q.rowsSql ++ placeholders q.countSql,
        (∃ t ∈ table :: label :: steps.flatMap Step.texts, n ∈ placeholders t) ∨
          ∃ name ∈ start.madeNames steps, name.toList = n := by
  intro q
  have hbound : q.All (Fits q.parameters.Binds) :=
    Query.all_built hstart htexts fun n hn => start.binds_madeNames hn
  have hrows := Query.fits_rowsSql hbound
  have hcount := Query.fits_countSql hbound
  refine ⟨⟨_, numbered_eq hrows.names⟩, ⟨_, numbered_eq hcount.names⟩, ?_, ?_⟩
  · intro offset size
    have hplace := Query.placeholders_batch offset size (Query.all_closed hbound)
    obtain ⟨rows, count, hr, hc⟩ := Query.numbered_batch offset size hbound
    exact ⟨rows, count, hr, hc, hplace, rfl⟩
  · -- the same texts fit where a name has to come from one of them or from a step
    let Known : List Char → Prop := fun n =>
      (∃ t ∈ table :: label :: steps.flatMap Step.texts, n ∈ placeholders t) ∨
        ∃ name ∈ start.madeNames steps, name.toList = n
    have hsupplied : ∀ t ∈ table :: label :: steps.flatMap Step.texts, Fits Known t :=
      fun t ht => ⟨(htexts t ht).closed, fun n hn => Or.inl ⟨t, ht, hn⟩⟩
    have horigin : q.All (Fits Known) :=
      Query.all_built hstart hsupplied fun name hname => Or.inr ⟨name, hname, rfl⟩
    intro n hn
    rcases List.mem_append.mp hn with hn | hn
    · exact (Query.fits_rowsSql horigin).names n hn
    · exact (Query.fits_countSql horigin).names n hn

def filteredStart : Query := ⟨"T", "t", [], [], [], [], .asc, .empty, 0⟩

/-- a condition of the caller with a name of its own, a search and a filter with two values -/
def filteredSteps : List Step :=
  [.bind "p" (.bool true), .restrict "a = @p", .search "x" ["n"],
    .filter ⟨[("k", ⟨"b", .text⟩)]⟩ "k__in" "u,v"]

theorem numbered_after_filteredSteps :
    filteredStart.madeNames filteredSteps = ["search_0", "filter_1_0", "filter_1_1"] ∧
      ∃ rows, numbered (filteredStart.after filteredSteps).rowsSql
        (filteredStart.after filteredSteps).parameters = .ok rows := by
  have hstart : Query.make "T" "t" = .ok filteredStart := by decide +kernel
  have htexts : ∀ t ∈ "T" :: "t" :: filteredSteps.flatMap Step.texts,
      Fits (filteredStart.after filteredSteps).parameters.Binds t := by
    decide +kernel
  exact ⟨by decide +kernel, (numbered_after_steps hstart filteredSteps htexts).1⟩

end PagedSql

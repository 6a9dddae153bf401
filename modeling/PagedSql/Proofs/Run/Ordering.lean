import PagedSql.Query.Step
import PagedSql.Proofs.Run.FilterFailure

/-!
# What a page is ordered by

A page is ordered by the column of the request if there is one, whatever else was asked for; or else by
the subject's own ordering, which is the default of a listing or the last call of the caller that ordered
the query; or else by the first column.  Two readings of the request's direction are in use, one that
refuses and one that does not, and on every direction that is not refused they agree.

* `Step.order?`, `lastOrder?`     calls that order, and the last of them;
* `Step.order_run`, `Query.order_after`   one step, and all steps;
* `callClause`, `callersClause`   what one call and all of a caller's calls come to;
* `isAscending_of_read`           the two readings of a direction;
* `OrderedBy`                     a batch whose rows have some clause between source and window;
* `run_of_unsorted`               a direction without a column;
* `fault?_eq_sortFault?`          a request that nothing is refused of but its ordering;
* `effective_ordering`            the ordering of a page, and the runs that fail for it.
-/

namespace PagedSql
open PagedSql.Text

/-! ## the last call -/

/-- columns and direction, if the step orders -/
def Step.order? : Step → Option (List String × Direction)
  | .orderBy columns direction => some (columns, direction)
  | _ => none

def lastOrder? (steps : List Step) : Option (List String × Direction) :=
  (steps.filterMap Step.order?).getLast?

def Query.order (q : Query) : List String × Direction := (q.ordering, q.direction)

def nonBlanks (columns : List String) : List String := columns.filter fun c => ¬ Blank c

/-- columns and direction as they are kept -/
def kept (o : List String × Direction) : List String × Direction := (nonBlanks o.1, o.2)

/-- **One step.**  A call that orders replaces the ordering; no other touches it. -/
theorem Step.order_run (q : Query) (s : Step) :
    (s.run q).1.order = (s.order?.map kept).getD q.order := by
  cases s with
  | orderBy columns direction => rfl
  | project fragment =>
    simp only [run, Query.project]
    split
    · rfl
    · rfl
  | join kind table label condition =>
    simp only [run, Query.join]
    cases Join.make kind table label condition with
    | error e => rfl
    | ok j => rfl
  | restrict condition =>
    simp only [run]
    rw [Query.restrict_eq]
    rfl
  | search term columns =>
    simp only [run]
    rw [q.search_eq_lay]
    rfl
  | bind name value => rfl
  | nextName stem => rfl
  | filter columns rawKey value =>
    rw [run_filter]
    rfl

/-- **All steps.**  The last call that orders is the one that counts. -/
theorem Query.order_after (q : Query) (steps : List Step) :
    (q.after steps).order = ((lastOrder? steps).map kept).getD q.order := by
  induction steps generalizing q with
  | nil => rfl
  | cons s steps ih =>
    rw [after_cons, ih, s.order_run]
    unfold lastOrder?
    cases hs : s.order? with
    | none => rw [List.filterMap_cons_none hs, Option.map_none, Option.getD_none]
    | some o =>
      rw [List.filterMap_cons_some hs, List.getLast?_cons]
      cases (steps.filterMap Step.order?).getLast? with
      | none => rfl
      | some later => rfl

/-- the clause of one call -/
def callClause (columns : List String) (direction : Direction) : String :=
  if ∀ c ∈ columns, Blank c then "ORDER BY 1"
  else "ORDER BY " ++ join ", " ((nonBlanks columns).map fun c => c ++ " " ++ direction.sql)

/-- the clause that the calls of a caller come to -/
def callersClause (steps : List Step) : String :=
  match lastOrder? steps with
  | none => "ORDER BY 1"
  | some (columns, direction) => callClause columns direction

theorem orderingSql_kept (columns : List String) (direction : Direction) :
    orderingSql (kept (columns, direction)).1 (kept (columns, direction)).2 =
      callClause columns direction := by
  have hnone : nonBlanks columns = [] ↔ ∀ c ∈ columns, Blank c := by
    unfold nonBlanks
    rw [List.filter_eq_nil_iff]
    simp
  unfold orderingSql kept callClause
  simp only [hnone]

theorem orderingSql_after {table label : String} {start : Query}
    (h : Query.make table label = .ok start) (steps : List Step) :
    orderingSql (start.after steps).order.1 (start.after steps).order.2 = callersClause steps := by
  have hstart : start.order = ([], .asc) := by
    unfold Query.make at h
    dsimp only at h
    split at h
    · cases h
    · cases h
      rfl
  rw [start.order_after steps, hstart]
  unfold callersClause
  cases lastOrder? steps with
  | none => rfl
  | some o => exact orderingSql_kept o.1 o.2

/-! ## directions -/

namespace Request

def directionWord (r : Request) : String := r.sortDirection.getD "asc"

/-- ascending, unless the direction is read as the other -/
theorem isAscending_of_read {r : Request} {direction : Direction}
    (h : Direction.read r.directionWord = some direction) :
    r.isAscending = true ↔ direction = .asc := by
  unfold directionWord at h
  unfold isAscending
  cases hword : r.sortDirection with
  | none =>
    rw [hword, Option.getD_none] at h
    have hasc : Direction.read "asc" = some .asc := by decide
    rw [hasc] at h
    exact ⟨fun _ => (Option.some.inj h).symm, fun _ => rfl⟩
  | some w =>
    rw [hword, Option.getD_some] at h
    dsimp only
    rw [decide_eq_true_iff]
    unfold Direction.read at h
    dsimp only at h
    split at h
    · next hasc =>
      cases h
      refine ⟨fun _ => rfl, fun _ hdesc => ?_⟩
      have hboth : SameWord "asc" "desc" := hasc.symm.trans hdesc
      exact absurd hboth (by decide)
    · split at h
      · next hdesc =>
        cases h
        exact ⟨fun hnot => absurd hdesc hnot, fun heq => by cases heq⟩
      · cases h

theorem read_eq_none_iff {r : Request} (h : TrimmedIfAny r.sortDirection) :
    Direction.read r.directionWord = none ↔
      ¬ SameWord r.directionWord "asc" ∧ ¬ SameWord r.directionWord "desc" := by
  have htrim : trim r.directionWord = r.directionWord := by
    unfold directionWord
    cases hword : r.sortDirection with
    | none => decide
    | some w => exact (h w hword).2
  unfold Direction.read
  rw [htrim]
  dsimp only
  by_cases hasc : SameWord r.directionWord "asc"
  · rw [if_pos hasc]
    exact ⟨fun hread => absurd hread (Option.some_ne_none _), fun hneither => absurd hasc hneither.1⟩
  · rw [if_neg hasc]
    by_cases hdesc : SameWord r.directionWord "desc"
    · rw [if_pos hdesc]
      exact ⟨fun hread => absurd hread (Option.some_ne_none _),
        fun hneither => absurd hdesc hneither.2⟩
    · rw [if_neg hdesc]
      exact ⟨fun _ => ⟨hasc, hdesc⟩, fun _ => rfl⟩

end Request

/-! ## the clause of a batch -/

/-- the rows of a batch stand in the order of a clause: it is what there is between the source, which
the count has as well, and the window -/
def OrderedBy (s : Subject) (batch : Batch) (clause : String) : Prop :=
  ∃ source, batch.countSql = "SELECT COUNT(1) " ++ source ∧
    batch.rowsSql = "SELECT " ++ projectionSql s.base.projection s.base.label ++ " " ++ source ++ " " ++
      clause ++ " OFFSET @Offset ROWS FETCH NEXT @PageSize ROWS ONLY"

theorem windowSql_page (statement : String) : windowSql statement offsetName sizeName =
    statement ++ " OFFSET @Offset ROWS FETCH NEXT @PageSize ROWS ONLY" := by
  have hwindow : " OFFSET @" ++ (offsetName ++ (" ROWS FETCH NEXT @" ++ (sizeName ++ " ROWS ONLY"))) =
      " OFFSET @Offset ROWS FETCH NEXT @PageSize ROWS ONLY" := by decide
  unfold windowSql
  simp only [String.append_assoc]
  rw [hwindow]

namespace Subject

section
variable {s : Subject} {r : Request} {α : Type} {l : Limits} {executor : Batch → Reply α} {batch : Batch}
  (h : batch ∈ (s.run r l executor).batches)
include h

theorem orderedBy_of_mem_batches :
    OrderedBy s batch (orderingSql (s.ordering r).1 (s.ordering r).2) := by
  obtain ⟨offset, _, rfl⟩ := exists_of_mem_batches h
  exact ⟨(s.paged r).source, rfl, windowSql_page (s.paged r).rowsSql⟩

theorem orderedBy_column {column : String} (hcolumn : r.sortColumn = some column) :
    OrderedBy s batch ("ORDER BY " ++ column ++ if r.isAscending then " ASC" else " DESC") := by
  have hordered := orderedBy_of_mem_batches h
  obtain ⟨direction, hread⟩ := (served_of_mem_batches h).direction column hcolumn
  have hordering : s.ordering r = ([column], direction) := by
    unfold ordering
    rw [hcolumn]
    dsimp only
    rw [hread, Option.getD_some]
  have hword : " " ++ direction.sql = if r.isAscending then " ASC" else " DESC" := by
    have hasc := Request.isAscending_of_read hread
    cases direction with
    | asc =>
      rw [if_pos (hasc.mpr rfl)]
      rfl
    | desc =>
      rw [if_neg fun hup => by cases hasc.mp hup]
      rfl
  rw [hordering, orderingSql_singleton, String.append_assoc, String.append_assoc,
    ← String.append_assoc, hword] at hordered
  exact hordered

theorem orderedBy_own (hnone : r.sortColumn = none) :
    OrderedBy s batch (orderingSql s.ownOrdering.1 s.ownOrdering.2) := by
  have hordered := orderedBy_of_mem_batches h
  unfold ordering at hordered
  rw [hnone] at hordered
  exact hordered

end

/-! ## directions without a column -/

section
variable {r : Request} (hnone : r.sortColumn = none) (direction : Option String)
include hnone

theorem plan_of_unsorted (s : Subject) :
    s.plan { r with sortDirection := direction } = s.plan r := by
  have hsort : ∀ q, laySort s.place { r with sortDirection := direction } s.otherwise q =
      laySort s.place r s.otherwise q := by
    intro q
    unfold laySort
    dsimp only
    rw [hnone]
  rw [plan_eq, plan_eq]
  unfold layAll
  simp only [hsort]
  rfl

theorem run_of_unsorted (s : Subject) {α : Type} (l : Limits) (executor : Batch → Reply α) :
    s.run { r with sortDirection := direction } l executor = s.run r l executor := by
  rw [run_eq, run_eq, plan_of_unsorted hnone direction s]
  rfl

end

end Subject

/-! ## failures -/

/-- the failure is one of the ordering -/
def Failure.IsOfSort (f : Failure) : Prop :=
  ∃ column direction message, f.cause = .sort column direction message

/-- the request names no direction, or sorts by a column that is none -/
def Request.Missorted (r : Request) (column : String) : Prop :=
  (¬ SameWord r.directionWord "asc" ∧ ¬ SameWord r.directionWord "desc") ∨
    Identifier.fault? column ≠ none

section
variable {place : Place} {r : Request} {default : Option (String × Direction)} {column : String}
  (hcolumn : r.sortColumn = some column)
include hcolumn

theorem sortFault?_of_unread (hread : Direction.read r.directionWord = none) :
    sortFault? place r default =
      some ⟨place, .sort column r.directionWord "Sort direction must be 'asc' or 'desc'"⟩ := by
  unfold Request.directionWord at hread ⊢
  unfold sortFault?
  simp only [hcolumn, hread]

theorem sortFault?_of_read {direction : Direction}
    (hread : Direction.read r.directionWord = some direction) :
    sortFault? place r default = orderingFault? place (column, direction) := by
  unfold Request.directionWord at hread
  unfold sortFault?
  simp only [hcolumn, hread]

theorem cause_of_sortFault? {f : Failure} (h : sortFault? place r default = some f) :
    ∃ direction message, f = ⟨place, .sort column direction message⟩ := by
  cases hread : Direction.read r.directionWord with
  | none =>
    rw [sortFault?_of_unread hcolumn hread] at h
    exact ⟨_, _, (Option.some.inj h).symm⟩
  | some direction =>
    rw [sortFault?_of_read hcolumn hread] at h
    obtain ⟨fault, _, rfl⟩ := Option.map_eq_some_iff.mp h
    exact ⟨_, _, rfl⟩

theorem sortFault?_ne_none_iff (hr : r.Normal) :
    sortFault? place r default ≠ none ↔ r.Missorted column := by
  unfold Request.Missorted
  rw [← Request.read_eq_none_iff hr.direction]
  cases hread : Direction.read r.directionWord with
  | none =>
    rw [sortFault?_of_unread hcolumn hread]
    exact ⟨fun _ => Or.inl rfl, fun _ => Option.some_ne_none _⟩
  | some direction =>
    have hfault : orderingFault? place (column, direction) ≠ none ↔
        Identifier.fault? column ≠ none := by
      unfold orderingFault?
      rw [Ne, Option.map_eq_none_iff]
    rw [sortFault?_of_read hcolumn hread, hfault]
    exact ⟨Or.inr, fun h => h.resolve_left (Option.some_ne_none _)⟩

end

namespace Subject
variable {s : Subject} {r : Request} (hr : r.Normal) (htable : Identifier.fault? s.tableName = none)
  (hsearch : r.searchTerm ≠ none → ∀ c ∈ s.searchable, Identifier.fault? c = none)
  (hfilters : ∀ rawKey value, r.filters.find? rawKey = some value → ¬ s.Refuses rawKey value)
include hr htable hsearch hfilters

theorem fault?_eq_sortFault? : s.fault? r = sortFault? s.place r s.defaultSort := by
  have hnone : filtersFault? s.place s.filterable r = none := by
    refine Option.eq_none_iff_forall_ne_some.mpr fun f hf => ?_
    obtain ⟨rawKey, value, hfind, hrefuses⟩ := (exists_filtersFault?_iff hr.filters).mp ⟨f, hf⟩
    exact hfilters rawKey value hfind hrefuses
  rw [fault?_of_valid htable hsearch, hnone, Option.none_or]

theorem fails_of_missorted {column : String} (hcolumn : r.sortColumn = some column)
    (h : r.Missorted column) {α : Type} (l : Limits) (executor : Batch → Reply α) :
    ∃ direction message, (s.run r l executor).outcome =
      some (.error ⟨s.place, .sort column direction message⟩) := by
  have hfault := fault?_eq_sortFault? hr htable hsearch hfilters
  obtain ⟨f, hf⟩ := Option.ne_none_iff_exists'.mp ((sortFault?_ne_none_iff hcolumn hr).mpr h)
  obtain ⟨direction, message, rfl⟩ := cause_of_sortFault? hcolumn hf
  rw [← hfault] at hf
  exact ⟨direction, message, (run_of_fault l executor hf).1⟩

theorem missorted_of_fails {column : String} (hcolumn : r.sortColumn = some column) {α : Type}
    {l : Limits} {executor : Batch → Reply α} {f : Failure}
    (h : (s.run r l executor).outcome = some (.error f)) (hsort : f.IsOfSort) :
    r.Missorted column := by
  have hclient : f.isClientError = true := by
    obtain ⟨column', direction, message, hcause⟩ := hsort
    unfold Failure.isClientError
    rw [hcause]
    rfl
  have hfails := (outcome_eq_error_iff hr.toInRange).mp h
  have hfault : s.fault? r = some f := hfails.client_iff.mp hclient
  rw [fault?_eq_sortFault? hr htable hsearch hfilters] at hfault
  have hsome : sortFault? s.place r s.defaultSort ≠ none := by
    rw [hfault]
    exact Option.some_ne_none f
  exact (sortFault?_ne_none_iff hcolumn hr).mp hsome

end Subject

/-! ## the ordering of a page -/

/-- the clause of a listing where a request has no column to sort by -/
def Listing.defaultClause (l : Listing) : String :=
  match l.defaultSort with
  | none => "ORDER BY 1"
  | some (column, direction) => "ORDER BY " ++ column ++ " " ++ direction.sql

theorem Listing.orderingSql_ownOrdering (l : Listing) :
    orderingSql (Subject.table l).ownOrdering.1 (Subject.table l).ownOrdering.2 =
      l.defaultClause := by
  unfold Subject.ownOrdering defaultClause
  dsimp only
  cases l.defaultSort with
  | none => rfl
  | some default => exact orderingSql_singleton default.1 default.2

/-- **What a page is ordered by.**  If the request has a column to sort by, the rows are ordered by it
and by nothing else, descending exactly if the request is not ascending.  If it has none, its direction
means nothing; a listing is ordered by its default, and a query of the caller's by the last call that
ordered it, blank columns left out; and if that leaves no column, by the first.  Where nothing else of a
request with a column is refused, the run fails for the ordering exactly if the direction is none or the
column is none, and the failure names the column. -/
theorem effective_ordering {s : Subject} {r : Request} (hr : r.Reachable) {α : Type} (limits : Limits)
    (executor : Batch → Reply α) :
    (∀ batch ∈ (s.run r limits executor).batches,
      (∀ column, r.sortColumn = some column →
        OrderedBy s batch ("ORDER BY " ++ column ++ if r.isAscending then " ASC" else " DESC")) ∧
      (r.sortColumn = none → ∀ l, s = .table l → OrderedBy s batch l.defaultClause) ∧
      (r.sortColumn = none → ∀ j, s = .query j → ∀ table label start steps,
        Query.make table label = .ok start → j.query = start.after steps →
          OrderedBy s batch (callersClause steps))) ∧
    (r.sortColumn = none → ∀ direction,
      s.run { r with sortDirection := direction } limits executor = s.run r limits executor) ∧
    (∀ column, r.sortColumn = some column → Identifier.fault? s.tableName = none →
      (r.searchTerm ≠ none → ∀ c ∈ s.searchable, Identifier.fault? c = none) →
      (∀ rawKey value, r.filters.find? rawKey = some value → ¬ s.Refuses rawKey value) →
      ((∃ f : Failure, (s.run r limits executor).outcome = some (.error f) ∧ f.IsOfSort) ↔
        r.Missorted column) ∧
      (r.Missorted column → ∃ direction message, (s.run r limits executor).outcome =
        some (.error ⟨s.place, .sort column direction message⟩))) := by
  have hnormal := hr.normal
  refine ⟨fun batch hbatch => ⟨fun column hcolumn => ?_, fun hnone l hs => ?_, ?_⟩,
    fun hnone direction => Subject.run_of_unsorted hnone direction s limits executor, ?_⟩
  · exact Subject.orderedBy_column hbatch hcolumn
  · subst hs
    rw [← l.orderingSql_ownOrdering]
    exact Subject.orderedBy_own hbatch hnone
  · rintro hnone j rfl table label start steps hstart hquery
    have hown := Subject.orderedBy_own hbatch hnone
    have hcalls := orderingSql_after hstart steps
    rw [← hquery] at hcalls
    rw [← hcalls]
    exact hown
  · intro column hcolumn htable hsearch hfilters
    have hfails := fun h : r.Missorted column =>
      Subject.fails_of_missorted hnormal htable hsearch hfilters hcolumn h limits executor
    refine ⟨⟨?_, fun h => ?_⟩, hfails⟩
    · rintro ⟨f, hf, hsort⟩
      exact Subject.missorted_of_fails hnormal htable hsearch hfilters hcolumn hf hsort
    · obtain ⟨direction, message, houtcome⟩ := hfails h
      exact ⟨_, houtcome, column, direction, message, rfl⟩

/-- two calls that order, the second with a blank column -/
def inspectedSteps : List Step :=
  [.orderBy ["i.Id"] .asc, .restrict "i.Open", .orderBy ["i.Grade", " ", "i.City"] .desc,
    .project "i.Grade"]

def inspectedStart : Query := ⟨"Inspections", "i", [], [], [], [], .asc, .empty, 0⟩

def inspections : Joined := ⟨inspectedStart.after inspectedSteps, "Inspections", none, []⟩

def noInspections (_ : Batch) : Reply Nat := ⟨some 0, .ok ⟨[], 0⟩⟩

def inspectionsBy (column direction : String) : Request :=
  (Request.make 1 10).edit (.sort column direction)

/-- without a column the second call counts, with one the request does, and a column that is none is
refused -/
theorem effective_ordering_of_inspections :
    (∃ batch ∈ ((Subject.query inspections).run (.make 1 10) ⟨none, none⟩ noInspections).batches,
      OrderedBy (.query inspections) batch "ORDER BY i.Grade DESC, i.City DESC") ∧
    (∃ batch ∈ ((Subject.query inspections).run (inspectionsBy "i.Id" "Asc") ⟨none, none⟩
        noInspections).batches,
      OrderedBy (.query inspections) batch "ORDER BY i.Id ASC") ∧
    ∃ direction message, ((Subject.query inspections).run (inspectionsBy "i.Id;" "desc") ⟨none, none⟩
      noInspections).outcome =
        some (.error ⟨⟨.joined, "Inspections"⟩, .sort "i.Id;" direction message⟩) := by
  have hmake : (Request.make 1 10).Reachable := .make 1 10
  have hby : ∀ column direction, (inspectionsBy column direction).Reachable :=
    fun column direction => .edit _ _ hmake
  refine ⟨?_, ?_, ?_⟩
  · have hsent : ((Subject.query inspections).run (.make 1 10) ⟨none, none⟩ noInspections).batches
        ≠ [] := by decide +kernel
    obtain ⟨batch, hbatch⟩ := List.exists_mem_of_ne_nil _ hsent
    have hclause : callersClause inspectedSteps = "ORDER BY i.Grade DESC, i.City DESC" := by decide
    refine ⟨batch, hbatch, ?_⟩
    rw [← hclause]
    exact ((effective_ordering hmake ⟨none, none⟩ noInspections).1 batch hbatch).2.2 rfl inspections rfl
      "Inspections" "i" inspectedStart inspectedSteps (by decide) rfl
  · have hsent : ((Subject.query inspections).run (inspectionsBy "i.Id" "Asc") ⟨none, none⟩
        noInspections).batches ≠ [] := by decide +kernel
    obtain ⟨batch, hbatch⟩ := List.exists_mem_of_ne_nil _ hsent
    refine ⟨batch, hbatch, ?_⟩
    exact ((effective_ordering (hby "i.Id" "Asc") ⟨none, none⟩ noInspections).1 batch hbatch).1 "i.Id"
      (by decide)
  · refine ((effective_ordering (hby "i.Id;" "desc") ⟨none, none⟩ noInspections).2.2 "i.Id;"
      (by decide) (by decide) (fun hterm => absurd rfl hterm) (fun rawKey value hfind => ?_)).2 ?_
    · cases hfind
    · exact Or.inr (by decide)

end PagedSql

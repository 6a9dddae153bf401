import PagedSql.Proofs.Request.Normal
import PagedSql.Proofs.Run.RequestNames
import PagedSql.Proofs.Run.Subject

/-!
# What is checked before anything is sent

A run is refused by one of four checks: of the table, of the columns to search, of the filters and of the
ordering.  None of them looks at the query, so that each can be asked by itself, and the first that finds
a fault is the one that is reported.  A request that passes them all comes to one batch.

* `searchFault?`, `filtersFault?`, `sortFault?`   three of the checks (`tableFault?` is the fourth);
* `RefusedFor`              a result that is a failure exactly for a fault, `RefusedFor.andThen` two stages;
* `Subject.checks`          the four in their order, `Subject.fault?` the first fault among them;
* `refusedFor_plan`         a plan is refused exactly for that fault;
* `IsRefusal`               a failure of the client's, at the place of the run;
* `isClientError_of_settle` a failure behind the checks is not of the client's making;
* `Subject.batch`           the batch of a request;
* `run_of_fault`, `run_of_faultless`   the run of a request that is refused, and of one that is not.
-/

namespace PagedSql
open PagedSql.Text

/-! ## the checks -/

/-- columns are looked at only if something is searched for -/
def searchFault? (place : Place) (r : Request) (searchable : List String) : Option Failure :=
  r.searchTerm.bind fun term => (searchable.findSome? Identifier.fault?).map fun fault =>
    ⟨place, .search term searchable ("Error applying search criteria: " ++ fault.message)⟩

def filterFault? (place : Place) (columns : Columns) (filter : String × String) : Option Failure :=
  match columns.resolve filter.1 filter.2 with
  | .error e => some (filterFailure place filter.1 filter.2 e)
  | .ok _ => none

/-- filters are looked at in the order of their keys, and only if any column may be filtered -/
def filtersFault? (place : Place) (columns : Option Columns) (r : Request) : Option Failure :=
  columns.bind fun columns => r.filters.entries.findSome? (filterFault? place columns)

def orderingFault? (place : Place) (ordering : String × Direction) : Option Failure :=
  (Identifier.fault? ordering.1).map fun fault =>
    ⟨place, .sort ordering.1 ordering.2.sql ("Error applying sort criteria: " ++ fault.message)⟩

/-- the ordering of a request, its direction first, or else the default one -/
def sortFault? (place : Place) (r : Request) (default : Option (String × Direction)) :
    Option Failure :=
  match r.sortColumn with
  | none => default.bind (orderingFault? place)
  | some column =>
    match Direction.read (r.sortDirection.getD "asc") with
    | none =>
      some ⟨place, .sort column (r.sortDirection.getD "asc")
        "Sort direction must be 'asc' or 'desc'"⟩
    | some direction => orderingFault? place (column, direction)

/-! ## refused for a fault -/

/-- a result that fails exactly for a fault, and with it -/
def RefusedFor {β : Type} (result : Except Failure β) (fault? : Option Failure) : Prop :=
  ∀ f, result = .error f ↔ fault? = some f

theorem refusedFor_error {β : Type} (f : Failure) :
    RefusedFor (.error f : Except Failure β) (some f) := by
  intro g
  rw [Except.error.injEq, Option.some.injEq]

theorem refusedFor_ok {β : Type} (b : β) : RefusedFor (.ok b : Except Failure β) none := by
  intro f
  constructor
  · intro h
    cases h
  · intro h
    cases h

theorem RefusedFor.exists_ok {β : Type} {result : Except Failure β} (h : RefusedFor result none) :
    ∃ b, result = .ok b := by
  cases result with
  | ok b => exact ⟨b, rfl⟩
  | error f => cases (h f).mp rfl

/-- the faults of the first stage come before those of the second -/
theorem RefusedFor.andThen {p : Plan} {next : Query → Plan} {a b : Option Failure}
    (hp : RefusedFor p.query a) (hnext : ∀ q, RefusedFor (next q).query b) :
    RefusedFor (p.andThen next).query (a.or b) := by
  unfold Plan.andThen
  cases hq : p.query with
  | error f =>
    have ha : a = some f := (hp f).mp hq
    rw [ha]
    exact refusedFor_error f
  | ok q =>
    have ha : a = none := by
      cases a with
      | none => rfl
      | some f =>
        have herror := (hp f).mpr rfl
        rw [hq] at herror
        cases herror
    rw [ha, Option.none_or]
    exact hnext q

section
variable (place : Place) (r : Request) (q : Query)

theorem refusedFor_laySearch (searchable : List String) :
    RefusedFor (laySearch place r searchable q) (searchFault? place r searchable) := by
  unfold laySearch searchFault?
  cases r.searchTerm with
  | none => exact refusedFor_ok q
  | some term =>
    rw [Option.bind_some]
    dsimp only
    cases searchable.findSome? Identifier.fault? with
    | none => exact refusedFor_ok _
    | some fault => exact refusedFor_error _

/-- filters that are passed over and filters that are laid on the query leave the later ones as they
are -/
theorem refusedFor_layFilters (columns : Columns) (entries : List (String × String)) :
    RefusedFor (layFilters place columns entries q).query
      (entries.findSome? (filterFault? place columns)) := by
  induction entries generalizing q with
  | nil => exact refusedFor_ok q
  | cons e entries ih =>
    obtain ⟨rawKey, value⟩ := e
    rw [List.findSome?_cons]
    simp only [layFilters, Columns.filter, filterFault?]
    cases columns.resolve rawKey value with
    | error e => exact refusedFor_error _
    | ok found =>
      cases found with
      | none => exact ih q
      | some e => exact ih (q.impose e.1.column e.2)

theorem refusedFor_layFilters? (columns : Option Columns) :
    RefusedFor (layFilters? place columns r q).query (filtersFault? place columns r) := by
  cases columns with
  | none => exact refusedFor_ok q
  | some columns => exact refusedFor_layFilters place q columns r.filters.entries

theorem refusedFor_sortBy (column : String) (direction : Direction) :
    RefusedFor (sortBy place column direction q) (orderingFault? place (column, direction)) := by
  unfold sortBy orderingFault?
  cases Identifier.fault? column with
  | none => exact refusedFor_ok _
  | some fault => exact refusedFor_error _

theorem refusedFor_laySort {otherwise : Query → Except Failure Query}
    {default : Option (String × Direction)}
    (h : ∀ q, RefusedFor (otherwise q) (default.bind (orderingFault? place))) :
    RefusedFor (laySort place r otherwise q) (sortFault? place r default) := by
  unfold laySort sortFault?
  cases r.sortColumn with
  | none => exact h q
  | some column =>
    dsimp only
    cases Direction.read (r.sortDirection.getD "asc") with
    | none => exact refusedFor_error _
    | some direction => exact refusedFor_sortBy place q column direction

theorem refusedFor_layAll (searchable : List String) (columns : Option Columns)
    {otherwise : Query → Except Failure Query} {default : Option (String × Direction)}
    (h : ∀ q, RefusedFor (otherwise q) (default.bind (orderingFault? place))) :
    RefusedFor (layAll place r searchable columns otherwise q).query
      (((searchFault? place r searchable).or (filtersFault? place columns r)).or
        (sortFault? place r default)) := by
  have hsearch : RefusedFor (Plan.ofExcept (laySearch place r searchable q)).query
      (searchFault? place r searchable) := by
    rw [Plan.ofExcept_query]
    exact refusedFor_laySearch place r q searchable
  have hfilters := hsearch.andThen fun q => refusedFor_layFilters? place r q columns
  refine hfilters.andThen fun q => ?_
  rw [Plan.ofExcept_query]
  exact refusedFor_laySort place r q h

end

/-! ## the faults of a run -/

namespace Subject

/-- the name of the table that is checked -/
def tableName : Subject → String
  | table l => l.table
  | query j => j.mainTable

def defaultSort : Subject → Option (String × Direction)
  | table l => l.defaultSort
  | query _ => none

def checks (s : Subject) (r : Request) : List (Option Failure) :=
  [tableFault? s.place s.tableName, searchFault? s.place r s.searchable,
    filtersFault? s.place s.filterable r, sortFault? s.place r s.defaultSort]

/-- the first fault that a check finds -/
def fault? (s : Subject) (r : Request) : Option Failure := (s.checks r).findSome? id

def plan (s : Subject) (r : Request) : Plan :=
  match s with
  | table l => l.plan r
  | query j => j.plan r

theorem fault?_eq (s : Subject) (r : Request) :
    s.fault? r = (tableFault? s.place s.tableName).or
      (((searchFault? s.place r s.searchable).or (filtersFault? s.place s.filterable r)).or
        (sortFault? s.place r s.defaultSort)) := by
  unfold fault? checks
  cases tableFault? s.place s.tableName <;> cases searchFault? s.place r s.searchable <;>
    cases filtersFault? s.place s.filterable r <;> cases sortFault? s.place r s.defaultSort <;> rfl

theorem refusedFor_otherwise (s : Subject) (q : Query) :
    RefusedFor (s.otherwise q) (s.defaultSort.bind (orderingFault? s.place)) := by
  cases s with
  | query j => exact refusedFor_ok q
  | table l =>
    show RefusedFor (l.sortByDefault q) (l.defaultSort.bind (orderingFault? l.place))
    unfold Listing.sortByDefault
    cases l.defaultSort with
    | none => exact refusedFor_ok q
    | some ordering => exact refusedFor_sortBy l.place q ordering.1 ordering.2

/-- behind the check of the table both entry points lay the request on their query -/
theorem plan_eq (s : Subject) (r : Request) :
    s.plan r = match tableFault? s.place s.tableName with
      | some f => .fail f
      | none => layAll s.place r s.searchable s.filterable s.otherwise s.base := by
  unfold plan place tableName searchable filterable otherwise base
  cases s with
  | query j =>
    dsimp only
    unfold Joined.plan
    cases tableFault? j.place j.mainTable <;> rfl
  | table l =>
    dsimp only
    unfold Listing.plan
    cases hfault : tableFault? l.place l.table with
    | some f => rfl
    | none => rw [Listing.baseQuery_eq hfault]

theorem refusedFor_plan (s : Subject) (r : Request) :
    RefusedFor (s.plan r).query (s.fault? r) := by
  rw [s.plan_eq r, s.fault?_eq r]
  cases tableFault? s.place s.tableName with
  | some f => exact refusedFor_error f
  | none =>
    rw [Option.none_or]
    exact refusedFor_layAll s.place r s.base s.searchable s.filterable s.refusedFor_otherwise

theorem plan_of_faultless {s : Subject} {r : Request} (h : s.fault? r = none) :
    (s.plan r).query = .ok (s.paged r) := by
  have hplan := s.refusedFor_plan r
  rw [h] at hplan
  obtain ⟨q, hq⟩ := hplan.exists_ok
  have htable : tableFault? s.place s.tableName = none := by
    rw [s.fault?_eq r] at h
    exact (Option.or_eq_none_iff.mp h).1
  rw [hq]
  rw [s.plan_eq r, htable] at hq
  rw [(paged_of_layAll hq).2]

end Subject

/-! ## failures of the checks -/

/-- of the client's making, at the place of the run; of the parameters only the table is refused -/
structure IsRefusal (place : Place) (f : Failure) : Prop where
  place_eq : f.place = place
  client : f.isClientError = true
  parameter : ∀ parameter message, f.cause = .invalidParameters parameter message →
    parameter = place.entry.tableParameter

theorem isRefusal_tableFault? {place : Place} {table : String} {f : Failure}
    (h : tableFault? place table = some f) : IsRefusal place f := by
  have hparameter : ∃ message,
      f = ⟨place, .invalidParameters place.entry.tableParameter message⟩ := by
    unfold tableFault? at h
    split at h
    · exact ⟨_, (Option.some.inj h).symm⟩
    · obtain ⟨fault, _, rfl⟩ := Option.map_eq_some_iff.mp h
      exact ⟨_, rfl⟩
  obtain ⟨message, rfl⟩ := hparameter
  refine ⟨rfl, rfl, fun parameter text heq => ?_⟩
  cases heq
  rfl

theorem isRefusal_searchFault? {place : Place} {r : Request} {searchable : List String} {f : Failure}
    (h : searchFault? place r searchable = some f) : IsRefusal place f := by
  obtain ⟨term, _, hterm⟩ := Option.bind_eq_some_iff.mp h
  obtain ⟨fault, _, rfl⟩ := Option.map_eq_some_iff.mp hterm
  exact ⟨rfl, rfl, fun _ _ heq => by cases heq⟩

theorem filterFault?_eq_some {place : Place} {columns : Columns} {rawKey value : String}
    {f : Failure} : filterFault? place columns (rawKey, value) = some f ↔
      ∃ e, columns.resolve rawKey value = .error e ∧ f = filterFailure place rawKey value e := by
  unfold filterFault?
  dsimp only
  cases columns.resolve rawKey value with
  | error e => simp [eq_comm]
  | ok found => simp

/-- a fault of the filters is the one of some filter -/
theorem exists_of_filtersFault? {place : Place} {columns : Option Columns} {r : Request} {f : Failure}
    (h : filtersFault? place columns r = some f) :
    ∃ cs rawKey value e, columns = some cs ∧ (rawKey, value) ∈ r.filters.entries ∧
      cs.resolve rawKey value = .error e ∧ f = filterFailure place rawKey value e := by
  obtain ⟨cs, hcolumns, hcs⟩ := Option.bind_eq_some_iff.mp h
  obtain ⟨⟨rawKey, value⟩, hmem, hfilter⟩ := List.exists_of_findSome?_eq_some hcs
  obtain ⟨e, he, hf⟩ := filterFault?_eq_some.mp hfilter
  exact ⟨cs, rawKey, value, e, hcolumns, hmem, he, hf⟩

theorem isRefusal_filtersFault? {place : Place} {columns : Option Columns} {r : Request}
    {f : Failure} (h : filtersFault? place columns r = some f) : IsRefusal place f := by
  obtain ⟨_, _, _, _, _, _, _, rfl⟩ := exists_of_filtersFault? h
  exact ⟨rfl, rfl, fun _ _ heq => by cases heq⟩

theorem isRefusal_orderingFault? {place : Place} {ordering : String × Direction} {f : Failure}
    (h : orderingFault? place ordering = some f) : IsRefusal place f := by
  obtain ⟨fault, _, rfl⟩ := Option.map_eq_some_iff.mp h
  exact ⟨rfl, rfl, fun _ _ heq => by cases heq⟩

theorem isRefusal_sortFault? {place : Place} {r : Request} {default : Option (String × Direction)}
    {f : Failure} (h : sortFault? place r default = some f) : IsRefusal place f := by
  unfold sortFault? at h
  split at h
  · obtain ⟨ordering, _, hordering⟩ := Option.bind_eq_some_iff.mp h
    exact isRefusal_orderingFault? hordering
  · split at h
    · cases h
      exact ⟨rfl, rfl, fun _ _ heq => by cases heq⟩
    · exact isRefusal_orderingFault? h

theorem Subject.isRefusal_fault? {s : Subject} {r : Request} {f : Failure}
    (h : s.fault? r = some f) : IsRefusal s.place f := by
  rw [s.fault?_eq r] at h
  rcases Option.or_eq_some_iff.mp h with h | ⟨_, h⟩
  · exact isRefusal_tableFault? h
  rcases Option.or_eq_some_iff.mp h with h | ⟨_, h⟩
  · rcases Option.or_eq_some_iff.mp h with h | ⟨_, h⟩
    · exact isRefusal_searchFault? h
    · exact isRefusal_filtersFault? h
  · exact isRefusal_sortFault? h

/-! ## runs -/

/-- a failure behind the checks is not of the client's making -/
theorem isClientError_of_settle {α : Type} {place : Place} {r : Request} {l : Limits} {batch : Batch}
    {answer : Except ExecutorError (Rows α)} {ending : Ending} {f : Failure}
    (h : settle place r l batch answer ending = .error f) : f.isClientError = false := by
  cases ending with
  | cancelled =>
    cases h
    rfl
  | timedOut =>
    cases h
    rfl
  | completed =>
    cases answer with
    | error e =>
      cases h
      cases e <;> rfl
    | ok rows =>
      have hpage : pageOf place r rows = .error f := h
      unfold pageOf at hpage
      split at hpage
      · cases hpage
        rfl
      · cases hpage

/-- the rows in front of a page in range can be counted by a signed word -/
theorem Request.InRange.offset?_eq {r : Request} (h : r.InRange) :
    r.offset? = some (Int64.ofNat r.skip.toNat) := by
  have hlt := h.toNat_skip_lt
  have hfits : Decimal.FitsInt64 r.skip.toNat := by
    show (-9223372036854775808 : Int) ≤ r.skip.toNat ∧ (r.skip.toNat : Int) ≤ 9223372036854775807
    omega
  unfold offset? Decimal.int64?
  rw [if_pos hfits]
  rfl

namespace Subject

def batch (s : Subject) (r : Request) : Batch :=
  (s.paged r).batch (Int64.ofNat r.skip.toNat) r.pageSize

section
variable {α : Type} {s : Subject} {r : Request} (l : Limits) (executor : Batch → Reply α)

theorem run_eq (s : Subject) (r : Request) :
    s.run r l executor = (s.plan r).run s.place r l executor := by
  cases s <;> rfl

theorem run_of_fault {f : Failure} (h : s.fault? r = some f) :
    (s.run r l executor).outcome = some (.error f) ∧ (s.run r l executor).batches = [] := by
  have hplan : (s.plan r).query = .error f := (s.refusedFor_plan r f).mpr h
  rw [run_eq]
  unfold Plan.run
  rw [hplan]
  exact ⟨rfl, rfl⟩

theorem execute_of_inRange (hr : r.InRange) (place : Place) (q : Query) :
    execute place r l executor q =
      let batch := q.batch (Int64.ofNat r.skip.toNat) r.pageSize
      let reply := executor batch
      let outcome := (race l reply.after).map (settle place r l batch reply.answer)
      ⟨outcome, if l.cancelledBefore then [] else [batch],
        (outcome.map (outcomeEvent place)).toList⟩ := by
  unfold execute
  rw [hr.offset?_eq]

theorem run_of_faultless (hr : r.InRange) (h : s.fault? r = none) :
    (s.run r l executor).outcome = (race l (executor (s.batch r)).after).map
        (settle s.place r l (s.batch r) (executor (s.batch r)).answer) ∧
      (s.run r l executor).batches = if l.cancelledBefore then [] else [s.batch r] := by
  rw [run_eq]
  unfold Plan.run
  rw [plan_of_faultless h]
  dsimp only
  rw [execute_of_inRange l executor hr]
  exact ⟨rfl, rfl⟩

end
end Subject

end PagedSql

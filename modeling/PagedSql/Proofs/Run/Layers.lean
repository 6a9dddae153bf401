import PagedSql.Run
import PagedSql.Proofs.Query.Layer

/-!
# What a request lays on a query

If a run gets as far as its batch, then what the request has laid on the query is one layer, and it
depends on the query by its next number only.

* `Request.tests`   the tests behind the filters of a request, unknown keys passed over;
* `Request.layer`   the search and these tests, one after the other;
* `Request.Accepted`   a request whose search and filters are not refused;
* `layAll_eq_ok`    the query of a plan is the query before it with that layer, ordered;
* `Joined.exists_of_mem_batches`, `Listing.exists_of_mem_batches`   where a batch of a run comes from.
-/

namespace PagedSql
open PagedSql.Text

/-! ## layers of a request -/

namespace Request

def searchLayer (r : Request) (k : Nat) (searchable : List String) : Layer :=
  match r.searchTerm with
  | none => .empty
  | some term => PagedSql.searchLayer k term searchable

/-- the column and the test of a filter, if it is neither passed over nor refused -/
def test? (columns : Columns) (filter : String × String) : Option (Column × Test) :=
  match columns.resolve filter.1 filter.2 with
  | .ok found => found
  | .error _ => none

theorem test?_of_resolve {columns : Columns} {rawKey value : String}
    {found : Option (Column × Test)} (h : columns.resolve rawKey value = .ok found) :
    test? columns (rawKey, value) = found := by
  rw [test?, h]

def tests (r : Request) : Option Columns → List (Column × Test)
  | none => []
  | some columns => r.filters.entries.filterMap (test? columns)

/-- tests are asked of columns that may be filtered -/
theorem column_of_mem_tests {r : Request} {columns : Option Columns} {t : Column × Test}
    (h : t ∈ r.tests columns) : ∃ cs key, columns = some cs ∧ cs.find? key = some t.1 := by
  cases columns with
  | none => exact absurd h List.not_mem_nil
  | some cs =>
    obtain ⟨filter, _, hfilter⟩ := List.mem_filterMap.mp h
    unfold test? at hfilter
    split at hfilter
    · next found hfound =>
      subst hfilter
      exact ⟨cs, _, rfl, (Columns.of_resolve_some hfound).1⟩
    · cases hfilter

def layer (r : Request) (k : Nat) (searchable : List String) (columns : Option Columns) : Layer :=
  (r.searchLayer k searchable).and
    (testsLayer (k + (r.searchLayer k searchable).used) (r.tests columns))

end Request

/-- nothing that the search or the filters of a request ask for is refused -/
structure Request.Accepted (r : Request) (searchable : List String) (columns : Option Columns) :
    Prop where
  search : ∀ term, r.searchTerm = some term → ∀ c ∈ searchable, Identifier.fault? c = none
  filters : ∀ cs, columns = some cs → ∀ e ∈ r.filters.entries,
    ∃ found, cs.resolve e.1 e.2 = .ok found

/-! ## layers of a plan -/

theorem Plan.andThen_eq_ok {p : Plan} {next : Query → Plan} {laid : Query}
    (h : (p.andThen next).query = .ok laid) :
    ∃ q, p.query = .ok q ∧ (next q).query = .ok laid := by
  unfold andThen at h
  cases hp : p.query with
  | error f =>
    rw [hp] at h
    cases h
  | ok q =>
    rw [hp] at h
    exact ⟨q, rfl, h⟩

theorem Plan.ofExcept_query (e : Except Failure Query) : (Plan.ofExcept e).query = e := by
  cases e <;> rfl

section
variable {place : Place} {r : Request} {searchable : List String} {q laid : Query}

theorem laySearch_eq_ok (h : laySearch place r searchable q = .ok laid) :
    laid = q.lay (r.searchLayer q.counter searchable) := by
  unfold laySearch at h
  unfold Request.searchLayer
  cases ht : r.searchTerm with
  | none =>
    rw [ht] at h
    cases h
    exact q.lay_empty.symm
  | some term =>
    rw [ht] at h
    dsimp only at h ⊢
    split at h
    · cases h
    · rw [← q.search_eq_lay]
      exact (Except.ok.inj h).symm

theorem laySearch_faultless (h : laySearch place r searchable q = .ok laid) {term : String}
    (ht : r.searchTerm = some term) : ∀ c ∈ searchable, Identifier.fault? c = none := by
  unfold laySearch at h
  rw [ht] at h
  dsimp only at h
  split at h
  · cases h
  · next hnone => exact List.findSome?_eq_none_iff.mp hnone

theorem layFilters_eq_ok {columns : Columns} {entries : List (String × String)}
    (h : (layFilters place columns entries q).query = .ok laid) :
    laid = q.lay (testsLayer q.counter (entries.filterMap (Request.test? columns))) := by
  induction entries generalizing q with
  | nil =>
    cases h
    exact laid.lay_empty.symm
  | cons e entries ih =>
    obtain ⟨rawKey, value⟩ := e
    simp only [layFilters, Columns.filter] at h
    cases hr : columns.resolve rawKey value with
    | error e =>
      rw [hr] at h
      cases h
    | ok found =>
      rw [hr] at h
      cases found with
      | none =>
        have hskip : Request.test? columns (rawKey, value) = none := by
          rw [Request.test?, hr]
        rw [List.filterMap_cons_none hskip]
        exact ih h
      | some e =>
        have htake : Request.test? columns (rawKey, value) = some e := by
          rw [Request.test?, hr]
        rw [List.filterMap_cons_some htake, testsLayer_cons, Query.lay_and, ← q.impose_eq_lay]
        have hcounter : (q.impose e.1.column e.2).counter =
            q.counter + (e.2.layer q.counter e.1.column).used := by
          rw [q.impose_eq_lay, Query.lay]
        rw [← hcounter]
        exact ih h

theorem layFilters_resolved {columns : Columns} {entries : List (String × String)}
    (h : (layFilters place columns entries q).query = .ok laid) :
    ∀ e ∈ entries, ∃ found, columns.resolve e.1 e.2 = .ok found := by
  induction entries generalizing q with
  | nil => exact fun e he => absurd he List.not_mem_nil
  | cons e entries ih =>
    obtain ⟨rawKey, value⟩ := e
    simp only [layFilters, Columns.filter] at h
    intro d hd
    cases hr : columns.resolve rawKey value with
    | error e =>
      rw [hr] at h
      cases h
    | ok found =>
      rw [hr] at h
      rcases List.mem_cons.mp hd with rfl | hd
      · exact ⟨found, hr⟩
      · cases found with
        | none => exact ih h d hd
        | some e => exact ih h d hd

/-- the ordering is what a request says, or what is there otherwise -/
theorem laySort_eq_ok {otherwise : Query → Except Failure Query}
    (h : laySort place r otherwise q = .ok laid) :
    (r.sortColumn = none ∧ otherwise q = .ok laid) ∨
      ∃ column direction, r.sortColumn = some column ∧
        Direction.read (r.sortDirection.getD "asc") = some direction ∧
        sortBy place column direction q = .ok laid := by
  unfold laySort at h
  cases hc : r.sortColumn with
  | none =>
    rw [hc] at h
    exact Or.inl ⟨rfl, h⟩
  | some column =>
    rw [hc] at h
    dsimp only at h
    cases hd : Direction.read (r.sortDirection.getD "asc") with
    | none =>
      rw [hd] at h
      cases h
    | some direction =>
      rw [hd] at h
      exact Or.inr ⟨column, direction, rfl, rfl, h⟩

theorem sortBy_eq_ok {column : String} {direction : Direction}
    (h : sortBy place column direction q = .ok laid) :
    Identifier.fault? column = none ∧ laid = q.orderBy [column] direction := by
  unfold sortBy at h
  split at h
  · cases h
  · next hf => exact ⟨hf, (Except.ok.inj h).symm⟩

theorem layAll_eq_ok {columns : Option Columns} {otherwise : Query → Except Failure Query}
    (h : (layAll place r searchable columns otherwise q).query = .ok laid) :
    r.Accepted searchable columns ∧
      laySort place r otherwise (q.lay (r.layer q.counter searchable columns)) = .ok laid := by
  unfold layAll at h
  obtain ⟨filtered, hfiltered, hsort⟩ := Plan.andThen_eq_ok h
  obtain ⟨found, hsearch, hfilters⟩ := Plan.andThen_eq_ok hfiltered
  rw [Plan.ofExcept_query] at hsearch hsort
  have hfound := laySearch_eq_ok hsearch
  have hcounter : found.counter = q.counter + (r.searchLayer q.counter searchable).used := by
    rw [hfound, Query.lay]
  have hlaid : filtered = q.lay (r.layer q.counter searchable columns) := by
    unfold Request.layer
    rw [Query.lay_and, ← hfound, ← hcounter]
    cases columns with
    | none =>
      cases hfilters
      exact filtered.lay_empty.symm
    | some columns => exact layFilters_eq_ok hfilters
  rw [← hlaid]
  refine ⟨⟨fun term ht => laySearch_faultless hsearch ht, fun cs hcs => ?_⟩, hsort⟩
  subst hcs
  exact layFilters_resolved hfilters

end

/-! ## batches -/

section
variable {α : Type} {r : Request} {l : Limits} {executor : Batch → Reply α} {batch : Batch}

theorem exists_of_mem_execute {place : Place} {q : Query}
    (h : batch ∈ (execute place r l executor q).batches) :
    ∃ offset, r.offset? = some offset ∧ batch = q.batch offset r.pageSize := by
  unfold execute at h
  cases ho : r.offset? with
  | none =>
    rw [ho] at h
    exact absurd h List.not_mem_nil
  | some offset =>
    rw [ho] at h
    dsimp only at h
    split at h
    · exact absurd h List.not_mem_nil
    · exact ⟨offset, rfl, List.mem_singleton.mp h⟩

theorem Plan.exists_of_mem_batches {p : Plan} {place : Place}
    (h : batch ∈ (p.run place r l executor).batches) :
    ∃ q offset, p.query = .ok q ∧ r.offset? = some offset ∧ batch = q.batch offset r.pageSize := by
  unfold run at h
  cases hp : p.query with
  | error f =>
    rw [hp] at h
    exact absurd h List.not_mem_nil
  | ok q =>
    rw [hp] at h
    obtain ⟨offset, ho, hb⟩ := exists_of_mem_execute h
    exact ⟨q, offset, rfl, ho, hb⟩

theorem Joined.exists_of_mem_batches {j : Joined} (h : batch ∈ (j.run r l executor).batches) :
    ∃ q offset, laySort j.place r .ok (j.query.lay (r.layer j.query.counter j.searchable j.filterable)) =
        .ok q ∧ r.offset? = some offset ∧ batch = q.batch offset r.pageSize := by
  obtain ⟨q, offset, hq, ho, hb⟩ := Plan.exists_of_mem_batches h
  unfold plan at hq
  split at hq
  · cases hq
  · exact ⟨q, offset, (layAll_eq_ok hq).2, ho, hb⟩

theorem Listing.exists_of_mem_batches {listing : Listing}
    (h : batch ∈ (listing.run r l executor).batches) :
    ∃ base q offset, tableFault? listing.place listing.table = none ∧
      listing.baseQuery = .ok base ∧ r.Accepted listing.searchable listing.filterable ∧
      laySort listing.place r listing.sortByDefault
        (base.lay (r.layer base.counter listing.searchable listing.filterable)) = .ok q ∧
      r.offset? = some offset ∧ batch = q.batch offset r.pageSize := by
  obtain ⟨q, offset, hq, ho, hb⟩ := Plan.exists_of_mem_batches h
  unfold plan at hq
  split at hq
  · cases hq
  · next hfault =>
    cases hbase : listing.baseQuery with
    | error e =>
      rw [hbase] at hq
      cases hq
    | ok base =>
      rw [hbase] at hq
      obtain ⟨haccepted, hsort⟩ := layAll_eq_ok hq
      exact ⟨base, q, offset, hfault, rfl, haccepted, hsort, ho, hb⟩

end

end PagedSql

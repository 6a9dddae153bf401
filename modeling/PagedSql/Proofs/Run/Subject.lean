import PagedSql.Proofs.Positional.Refinement

/-!
# What a page is cut from

Both entry points lay a request on a query and differ only in where the query and its ordering come
from.  So the query that a batch is made of can be written down for both at once.

* `Subject`              one table, or a query of the caller's own;
* `Subject.ordering`     the ordering of a page: the request's, or else the subject's own;
* `Subject.paged`        the query of a page;
* `Subject.Served`       a request that nothing is refused of;
* `served_of_mem_batches`, `exists_of_mem_batches`   the batch of a run is the one of that query.
-/

namespace PagedSql
open PagedSql.Text

inductive Subject where
  | table (l : Listing)
  | query (j : Joined)

def Query.ordered (q : Query) (o : List String × Direction) : Query :=
  { q with ordering := o.1, direction := o.2 }

namespace Subject

def run {α : Type} (r : Request) (limits : Limits) (executor : Batch → Reply α) : Subject → Report α
  | table l => l.run r limits executor
  | query j => j.run r limits executor

def filterable : Subject → Option Columns
  | table l => l.filterable
  | query j => j.filterable

def searchable : Subject → List String
  | table l => l.searchable
  | query j => j.searchable

def place : Subject → Place
  | table l => l.place
  | query j => j.place

/-- the query before a request is laid on it -/
def base : Subject → Query
  | table l => l.bare
  | query j => j.query

/-- the ordering where a request has none -/
def ownOrdering : Subject → List String × Direction
  | table l =>
    match l.defaultSort with
    | none => ([], .asc)
    | some (column, direction) => ([column], direction)
  | query j => (j.query.ordering, j.query.direction)

/-- the direction of a request is ascending if it has none -/
def ordering (s : Subject) (r : Request) : List String × Direction :=
  match r.sortColumn with
  | none => s.ownOrdering
  | some column => ([column], (Direction.read (r.sortDirection.getD "asc")).getD .asc)

def paged (s : Subject) (r : Request) : Query :=
  (s.base.lay (r.layer s.base.counter s.searchable s.filterable)).ordered (s.ordering r)

structure Served (s : Subject) (r : Request) : Prop where
  accepted : r.Accepted s.searchable s.filterable
  column : ∀ column, r.sortColumn = some column → Identifier.fault? column = none
  direction : ∀ column, r.sortColumn = some column →
    ∃ direction, Direction.read (r.sortDirection.getD "asc") = some direction

/-! ## the query of a run -/

/-- what becomes of a query that a request does not order -/
def otherwise : Subject → Query → Except Failure Query
  | table l => l.sortByDefault
  | query _ => .ok

theorem orderBy_faultless (q : Query) {column : String} (h : Identifier.fault? column = none)
    (direction : Direction) : q.orderBy [column] direction = q.ordered ([column], direction) :=
  orderBy_isWord q (isWord_of_fault? h) direction

section
variable {s : Subject} {r : Request}

theorem otherwise_eq_ok {layer : Layer} {q : Query}
    (h : s.otherwise (s.base.lay layer) = .ok q) :
    q = (s.base.lay layer).ordered s.ownOrdering := by
  cases s with
  | query j => exact (Except.ok.inj h).symm
  | table l =>
    unfold otherwise Listing.sortByDefault at h
    unfold ownOrdering
    dsimp only at h ⊢
    cases hd : l.defaultSort with
    | none =>
      rw [hd] at h
      exact (Except.ok.inj h).symm
    | some d =>
      obtain ⟨column, direction⟩ := d
      rw [hd] at h
      obtain ⟨hfault, rfl⟩ := sortBy_eq_ok h
      exact orderBy_faultless _ hfault direction

theorem paged_of_layAll {q : Query}
    (h : (layAll s.place r s.searchable s.filterable s.otherwise s.base).query = .ok q) :
    s.Served r ∧ q = s.paged r := by
  obtain ⟨haccepted, hsort⟩ := layAll_eq_ok h
  unfold paged ordering
  rcases laySort_eq_ok hsort with ⟨hnone, hown⟩ | ⟨column, direction, hcolumn, hread, hby⟩
  · rw [hnone]
    refine ⟨⟨haccepted, fun c hc => ?_, fun c hc => ?_⟩, otherwise_eq_ok hown⟩
    · rw [hnone] at hc
      cases hc
    · rw [hnone] at hc
      cases hc
  · obtain ⟨hfault, rfl⟩ := sortBy_eq_ok hby
    rw [hcolumn]
    refine ⟨⟨haccepted, fun c hc => ?_, fun _ _ => ⟨direction, hread⟩⟩, ?_⟩
    · rw [hcolumn] at hc
      cases hc
      exact hfault
    · dsimp only
      rw [hread]
      exact orderBy_faultless _ hfault direction

/-! ## batches -/

variable {α : Type} {limits : Limits} {executor : Batch → Reply α} {batch : Batch}

theorem layAll_of_mem_batches (h : batch ∈ (s.run r limits executor).batches) :
    ∃ q offset, (layAll s.place r s.searchable s.filterable s.otherwise s.base).query = .ok q ∧
      r.offset? = some offset ∧ batch = q.batch offset r.pageSize := by
  cases s with
  | query j =>
    obtain ⟨q, offset, hq, ho, hb⟩ := Plan.exists_of_mem_batches h
    refine ⟨q, offset, ?_, ho, hb⟩
    unfold Joined.plan at hq
    split at hq
    · cases hq
    · exact hq
  | table l =>
    obtain ⟨q, offset, hq, ho, hb⟩ := Plan.exists_of_mem_batches h
    refine ⟨q, offset, ?_, ho, hb⟩
    unfold Listing.plan at hq
    split at hq
    · cases hq
    · next hfault =>
      rw [Listing.baseQuery_eq hfault] at hq
      exact hq

theorem served_of_mem_batches (h : batch ∈ (s.run r limits executor).batches) : s.Served r := by
  obtain ⟨q, offset, hq, _, _⟩ := layAll_of_mem_batches h
  exact (paged_of_layAll hq).1

theorem exists_of_mem_batches (h : batch ∈ (s.run r limits executor).batches) :
    ∃ offset, r.offset? = some offset ∧ batch = (s.paged r).batch offset r.pageSize := by
  obtain ⟨q, offset, hq, ho, hb⟩ := layAll_of_mem_batches h
  rw [(paged_of_layAll hq).2] at hb
  exact ⟨offset, ho, hb⟩

end

end Subject
end PagedSql

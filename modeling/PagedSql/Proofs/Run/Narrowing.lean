import PagedSql.Proofs.Query.Asked
import PagedSql.Proofs.Request.Reachable
import PagedSql.Proofs.Run.Subject

/-!
# A request narrows the query of the caller

Whatever is asked for is laid behind the caller's own conditions, each condition in parentheses of its
own and joined to the others by `AND`.  As long as the caller's texts are balanced, nothing in one
condition reaches another.

* `Columns.Compiles`     the condition that a filter is compiled to;
* `Request.applied`      the filters that apply, in the order of their keys;
* `forall₂_testsAsked`   one condition for each of them, in the same order;
* `Request.searchAsked`, `Request.filtersAsked`   what a request asks for;
* `conditions_layer`     the conditions of its layer;
* `Joined.Narrows`       the statements of a batch, condition by condition;
* `request_only_narrows` every batch is of that kind, and its conditions keep to themselves.
-/

namespace PagedSql
open PagedSql.Text

/-! ## filters -/

/-- the filter's operator and value as a test on the column behind its key, under some name -/
def Columns.Compiles (columns : Columns) (filter : String × String) (condition : String) : Prop :=
  ∃ target op test k, columns.find? (splitKey filter.1).1 = some target ∧
    Operator.read (splitKey filter.1).2 = .ok op ∧ Test.ofFilter op target.kind filter.2 = .ok test ∧
    condition = trim (test.condition (madeName "filter" k) target.column)

/-- filters whose column may be filtered -/
def Request.applied (r : Request) : Option Columns → List (String × String)
  | none => []
  | some columns => r.filters.entries.filter fun e => (columns.find? (splitKey e.1).1).isSome

theorem contents_cons {c : String} (h : trim c ≠ "") (asked : List String) :
    contents (c :: asked) = trim c :: contents asked := by
  unfold contents
  rw [List.map_cons, List.filter_cons_of_pos (by simpa using h)]

theorem forall₂_testsAsked {columns : Columns} {entries : List (String × String)}
    (h : ∀ e ∈ entries, ∃ found, columns.resolve e.1 e.2 = .ok found) (k : Nat) :
    List.Forall₂ columns.Compiles
      (entries.filter fun e => (columns.find? (splitKey e.1).1).isSome)
      (contents (testsAsked k (entries.filterMap (Request.test? columns)))) := by
  induction entries generalizing k with
  | nil => exact List.Forall₂.nil
  | cons e entries ih =>
    obtain ⟨rawKey, value⟩ := e
    obtain ⟨found, hfound⟩ := h _ List.mem_cons_self
    have hlater := ih fun e he => h e (List.mem_cons_of_mem _ he)
    have htest := Request.test?_of_resolve hfound
    cases found with
    | none =>
      have hkey := Columns.of_resolve_none hfound
      rw [List.filterMap_cons_none htest, List.filter_cons_of_neg (by simp [hkey])]
      exact hlater k
    | some t =>
      obtain ⟨target, test⟩ := t
      obtain ⟨hkey, op, hop, hof⟩ := Columns.of_resolve_some hfound
      rw [List.filterMap_cons_some htest, List.filter_cons_of_pos (by simp [hkey]), testsAsked,
        contents_cons (trim_condition_ne _ _ test)]
      exact List.Forall₂.cons ⟨target, op, test, k, hkey, hop, hof, rfl⟩ (hlater _)

/-! ## layers -/

namespace Request
variable (r : Request) (k : Nat) (searchable : List String) (columns : Option Columns)

def searchAsked : List String :=
  match r.searchTerm with
  | none => []
  | some term => PagedSql.searchAsked k term searchable

/-- the search first, then the filters -/
def filtersAsked : List String :=
  testsAsked (k + (r.searchLayer k searchable).used) (r.tests columns)

theorem conditions_layer : (r.layer k searchable columns).conditions =
    (contents (r.searchAsked k searchable) ++ contents (r.filtersAsked k searchable columns)).map
      bracketed := by
  have hsearch : (r.searchLayer k searchable).conditions =
      (r.searchAsked k searchable).flatMap restriction := by
    unfold searchLayer searchAsked
    cases r.searchTerm with
    | none => rfl
    | some term => exact conditions_searchLayer k term searchable
  rw [List.map_append, ← flatMap_restriction, ← flatMap_restriction, ← hsearch, filtersAsked,
    ← conditions_testsLayer, layer, Layer.conditions_and]

theorem contents_searchAsked : contents (r.searchAsked k searchable) = [] ∨
    contents (r.searchAsked k searchable) =
      [trim (Query.searchCondition (madeName "search" k) (searched searchable))] := by
  unfold searchAsked PagedSql.searchAsked
  cases r.searchTerm with
  | none => exact Or.inl rfl
  | some term =>
    dsimp only
    split
    · exact Or.inl rfl
    · next h =>
      refine Or.inr (contents_cons (trim_searchCondition_ne _ (not_or.mp h).2) [])

theorem balanced_filtersAsked {columns : Option Columns}
    (h : ∀ cs, columns = some cs → ∀ e ∈ cs.entries, Balanced e.2.column) :
    ∀ c ∈ r.filtersAsked k searchable columns, Balanced c := by
  refine balanced_testsAsked _ fun t ht => ?_
  obtain ⟨cs, key, hcs, hfind⟩ := column_of_mem_tests ht
  exact h cs hcs (key, t.1) (KeyMap.mem_of_find? hfind)

/-- the columns of a search that is not refused are words -/
theorem balanced_searchAsked {r : Request} {searchable : List String} {columns : Option Columns}
    (h : r.Accepted searchable columns) : ∀ c ∈ r.searchAsked k searchable, Balanced c := by
  unfold searchAsked
  cases ht : r.searchTerm with
  | none => exact fun c hc => absurd hc List.not_mem_nil
  | some term =>
    have hwords := h.isWord term ht
    exact PagedSql.balanced_searchAsked k term fun c hc => (hwords c hc).flat.balanced

end Request

/-! ## batches -/

/-- Table, label, joins and projection are the caller's.  The conditions are the caller's own, then one
for the search, if there is one, then one for each filter that applies, in the order of the keys. -/
structure Joined.Narrows (j : Joined) (r : Request) (batch : Batch) (search filters : List String) :
    Prop where
  countSql : batch.countSql = "SELECT COUNT(1) " ++
    sourceSql j.query.table j.query.label j.query.joins
      (j.query.conditions ++ (search ++ filters).map bracketed)
  rowsSql : batch.rowsSql = windowSql
    ("SELECT " ++ projectionSql j.query.projection j.query.label ++ " " ++
      sourceSql j.query.table j.query.label j.query.joins
        (j.query.conditions ++ (search ++ filters).map bracketed) ++ " " ++
      orderingSql ((Subject.query j).ordering r).1 ((Subject.query j).ordering r).2)
    offsetName sizeName
  search : search = [] ∨ search =
    [trim (Query.searchCondition (madeName "search" j.query.counter) (searched j.searchable))]
  filters : List.Forall₂ (fun filter condition => ∃ columns, j.filterable = some columns ∧
    columns.Compiles filter condition) (r.applied j.filterable) filters
  ordered : r.filters.Ordered

section
variable {α : Type} {j : Joined} {r : Request} {limits : Limits} {executor : Batch → Reply α}
  {batch : Batch} (hr : r.Reachable) (h : batch ∈ (j.run r limits executor).batches)
include h

theorem Joined.served_of_mem_batches : (Subject.query j).Served r := Subject.served_of_mem_batches h

include hr

theorem narrows_of_mem_batches :
    j.Narrows r batch (contents (r.searchAsked j.query.counter j.searchable))
      (contents (r.filtersAsked j.query.counter j.searchable j.filterable)) := by
  have haccepted : r.Accepted j.searchable j.filterable := (Joined.served_of_mem_batches h).accepted
  obtain ⟨offset, _, rfl⟩ := Subject.exists_of_mem_batches (s := .query j) h
  have hconditions := r.conditions_layer j.query.counter j.searchable j.filterable
  have hsource : ((Subject.query j).paged r).source =
      sourceSql j.query.table j.query.label j.query.joins
        (j.query.conditions ++ (r.layer j.query.counter j.searchable j.filterable).conditions) := rfl
  refine ⟨?_, ?_, r.contents_searchAsked j.query.counter j.searchable, ?_, hr.wellFormed.filters⟩
  · rw [← hconditions, ← hsource]
    rfl
  · rw [← hconditions, ← hsource]
    rfl
  · unfold Request.filtersAsked Request.applied
    cases hcolumns : j.filterable with
    | none => exact List.Forall₂.nil
    | some columns =>
      have hcompiled := forall₂_testsAsked (haccepted.filters columns hcolumns)
        (j.query.counter + (r.searchLayer j.query.counter j.searchable).used)
      exact hcompiled.imp fun _ _ hc => ⟨columns, rfl, hc⟩

end

/-! ## a condition with an OR in it -/

def bookingsStart : Query := ⟨"Bookings", "b", [], [], [], [], .asc, .empty, 0⟩

/-- a parenthesis in quotes, and an `OR` outside of them -/
def bookingsSteps : List Step :=
  [.join .left "Guests" "g" "g.Id = b.GuestId", .restrict "b.Open OR b.Note = ':)'", .restrict " "]

def openBookings : Joined where
  query := bookingsStart.after bookingsSteps
  mainTable := "Bookings"
  filterable := some ⟨[("guest", ⟨"COALESCE(g.Name, b.Name)", .text⟩)]⟩
  searchable := ["b.Note", "g.Name"]

def guestRequest : Request :=
  ((Request.make 1 10).edit (.search (some "late"))).edit (.filter "guest__in" "Ada, Bob")

theorem reachable_guestRequest : guestRequest.Reachable := .edit _ _ (.edit _ _ (.make 1 10))

def noBookings (_ : Batch) : Reply Nat := ⟨some 0, .ok ⟨[], 0⟩⟩

end PagedSql

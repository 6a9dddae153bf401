import PagedSql.Proofs.KeyMap
import PagedSql.Proofs.Run.Checks

/-!
# Filters under keys that are not public

A filter is looked at only if its key is public.  The others are passed over before their operator or
their value is read, and take no number of the names.  So two runs come to the same if the filters that
are looked at are the same, in whatever order all of them were given.

* `Subject.LooksAt`         filters whose key is public;
* `Report.Alike`            reports that differ at most in the filters they say were ignored;
* `Plan.alike_run`          plans with the same query are run alike;
* `query_layFilters`        filters that are passed over leave the query as it would be without them;
* `Subject.alike_of_find?`, `Subject.alike_without_columns`, `Subject.alike_edit_filter`   runs that
                            differ in filters that are passed over;
* `only_public_filters_matter`   the filters given, no whitelist at all, and a filter too many.
-/

namespace PagedSql
open PagedSql.Text

/-! ## reports -/

/-- a line about the outcome, not about a filter that was ignored -/
def Event.isOfOutcome : Event → Bool
  | .ignoredFilter _ => false
  | _ => true

structure Report.Alike {α : Type} (a b : Report α) : Prop where
  outcome : a.outcome = b.outcome
  batches : a.batches = b.batches
  events : a.events.filter Event.isOfOutcome = b.events.filter Event.isOfOutcome

namespace Plan
section
variable {α : Type} (place : Place) (r : Request) (l : Limits) (executor : Batch → Reply α)

theorem filter_events_run (p : Plan) : (p.run place r l executor).events.filter Event.isOfOutcome =
    ((p.run place r l executor).outcome.map (outcomeEvent place)).toList := by
  have hignored : (p.ignored.map Event.ignoredFilter).filter Event.isOfOutcome = [] := by
    rw [List.filter_map]
    simp [Event.isOfOutcome, Function.comp_def]
  have houtcome : ∀ o : Option (Except Failure (Page α)),
      (o.map (outcomeEvent place)).toList.filter Event.isOfOutcome =
        (o.map (outcomeEvent place)).toList := by
    rintro (_ | (f | page)) <;> rfl
  unfold run
  rw [List.filter_append, hignored, List.nil_append]
  cases p.query with
  | error f => rfl
  | ok q =>
    dsimp only
    unfold execute
    cases r.offset? with
    | none => rfl
    | some offset => exact houtcome _

/-- a run looks at the query of its plan, and at page and page size of the request -/
theorem alike_run {p p' : Plan} (h : p.query = p'.query) (filters : KeyMap String) :
    (p.run place r l executor).Alike
      (p'.run place { r with filters := filters } l executor) := by
  have hruns : (p.run place r l executor).outcome =
        (p'.run place { r with filters := filters } l executor).outcome ∧
      (p.run place r l executor).batches =
        (p'.run place { r with filters := filters } l executor).batches := by
    unfold run
    rw [h]
    cases p'.query with
    | error f => exact ⟨rfl, rfl⟩
    | ok q => exact ⟨rfl, rfl⟩
  refine ⟨hruns.1, hruns.2, ?_⟩
  rw [filter_events_run, filter_events_run, hruns.1]

end

theorem query_andThen_congr {p p' : Plan} {next next' : Query → Plan} (h : p.query = p'.query)
    (hnext : ∀ q, (next q).query = (next' q).query) :
    (p.andThen next).query = (p'.andThen next').query := by
  unfold andThen
  rw [h]
  cases p'.query with
  | error f => rfl
  | ok q => exact hnext q

end Plan

/-! ## filters that are passed over -/

def Columns.isPublic (columns : Columns) (rawKey : String) : Bool :=
  (columns.find? (splitKey rawKey).1).isSome

/-- an operator is not even read under a key that is not public -/
theorem Columns.filter_of_not_public {columns : Columns} {rawKey : String}
    (h : columns.isPublic rawKey = false) (q : Query) (value : String) :
    columns.filter q rawKey value = .ok none := by
  have hnone : columns.find? (splitKey rawKey).1 = none :=
    Option.isNone_iff_eq_none.mp (Option.isSome_eq_false_iff.mp h)
  unfold filter resolve
  rw [hnone]

theorem query_layFilters (place : Place) (columns : Columns) (entries : List (String × String))
    (q : Query) : (layFilters place columns entries q).query =
      (layFilters place columns (entries.filter fun e => columns.isPublic e.1) q).query := by
  induction entries generalizing q with
  | nil => rfl
  | cons e entries ih =>
    obtain ⟨rawKey, value⟩ := e
    cases hpublic : columns.isPublic rawKey with
    | false =>
      rw [List.filter_cons_of_neg (by simp [hpublic]), layFilters,
        Columns.filter_of_not_public hpublic]
      exact ih q
    | true =>
      rw [List.filter_cons_of_pos (by simp [hpublic]), layFilters, layFilters]
      cases columns.filter q rawKey value with
      | error e => rfl
      | ok found =>
        cases found with
        | none => exact ih q
        | some filtered => exact ih filtered

section
variable (place : Place) (r : Request) {columns columns' : Option Columns} {filters : KeyMap String}

theorem query_layFilters?_congr (hr : r.filters.Ordered) (hf : filters.Ordered)
    (h : ∀ cs, columns = some cs → ∀ rawKey, cs.isPublic rawKey = true →
      r.filters.find? rawKey = filters.find? rawKey) (q : Query) :
    (layFilters? place columns r q).query =
      (layFilters? place columns { r with filters := filters } q).query := by
  cases columns with
  | none => rfl
  | some cs =>
    unfold layFilters?
    dsimp only
    rw [query_layFilters, hr.filter_congr hf (h cs rfl), ← query_layFilters]

/-- search and ordering do not look at the filters -/
theorem query_layAll_congr
    (h : ∀ q, (layFilters? place columns r q).query =
      (layFilters? place columns' { r with filters := filters } q).query)
    (searchable : List String) (otherwise : Query → Except Failure Query) (q : Query) :
    (layAll place r searchable columns otherwise q).query =
      (layAll place { r with filters := filters } searchable columns' otherwise q).query := by
  have hsearch : laySearch place { r with filters := filters } searchable q =
      laySearch place r searchable q := by
    simp only [laySearch]
  have hsort : ∀ q, laySort place { r with filters := filters } otherwise q =
      laySort place r otherwise q := by
    intro q
    simp only [laySort]
  unfold layAll
  rw [hsearch]
  refine Plan.query_andThen_congr (Plan.query_andThen_congr rfl h) fun q => ?_
  rw [hsort q]

end

/-! ## runs -/

namespace Subject

/-- filters that are not passed over -/
def LooksAt (s : Subject) (rawKey : String) : Prop :=
  ∃ columns, s.filterable = some columns ∧ columns.isPublic rawKey = true

/-- the same subject with other columns that may be filtered -/
def filteredBy (columns : Option Columns) : Subject → Subject
  | table l => .table { l with filterable := columns }
  | query j => .query { j with filterable := columns }

theorem filteredBy_self (s : Subject) : s.filteredBy s.filterable = s := by
  cases s <;> rfl

theorem plan_filteredBy (s : Subject) (columns : Option Columns) (r : Request) :
    (s.filteredBy columns).plan r = match tableFault? s.place s.tableName with
      | some f => .fail f
      | none => layAll s.place r s.searchable columns s.otherwise s.base := by
  have hplace : (s.filteredBy columns).place = s.place := by cases s <;> rfl
  have htable : (s.filteredBy columns).tableName = s.tableName := by cases s <;> rfl
  have hsearchable : (s.filteredBy columns).searchable = s.searchable := by cases s <;> rfl
  have hfilterable : (s.filteredBy columns).filterable = columns := by cases s <;> rfl
  have hotherwise : (s.filteredBy columns).otherwise = s.otherwise := by cases s <;> rfl
  have hbase : (s.filteredBy columns).base = s.base := by cases s <;> rfl
  have hplan := (s.filteredBy columns).plan_eq r
  rw [hplace, htable, hsearchable, hfilterable, hotherwise, hbase] at hplan
  refine hplan.trans ?_
  cases tableFault? s.place s.tableName <;> rfl

theorem alike_of_filters (s : Subject) {r : Request} {columns columns' : Option Columns}
    {filters : KeyMap String}
    (h : ∀ q, (layFilters? s.place columns r q).query =
      (layFilters? s.place columns' { r with filters := filters } q).query)
    {α : Type} (l : Limits) (executor : Batch → Reply α) :
    ((s.filteredBy columns).run r l executor).Alike
      ((s.filteredBy columns').run { r with filters := filters } l executor) := by
  have hplace : (s.filteredBy columns).place = (s.filteredBy columns').place := by cases s <;> rfl
  rw [run_eq, run_eq, hplace]
  refine Plan.alike_run _ r l executor ?_ filters
  rw [plan_filteredBy, plan_filteredBy]
  cases tableFault? s.place s.tableName with
  | some f => rfl
  | none => exact query_layAll_congr s.place r h s.searchable s.otherwise s.base

theorem alike_of_find? (s : Subject) {r : Request} {filters : KeyMap String}
    (hr : r.filters.Ordered) (hf : filters.Ordered)
    (h : ∀ rawKey, s.LooksAt rawKey → r.filters.find? rawKey = filters.find? rawKey)
    {α : Type} (l : Limits) (executor : Batch → Reply α) :
    (s.run r l executor).Alike (s.run { r with filters := filters } l executor) := by
  have hlaid := query_layFilters?_congr s.place r hr hf fun cs hcs rawKey hpublic =>
    h rawKey ⟨cs, hcs, hpublic⟩
  have halike := s.alike_of_filters hlaid l executor
  rwa [s.filteredBy_self] at halike

/-- without a whitelist no filter is looked at, and with an empty one each is passed over -/
theorem alike_without_columns (s : Subject) (r : Request) {α : Type} (l : Limits)
    (executor : Batch → Reply α) :
    ((s.filteredBy none).run r l executor).Alike ((s.filteredBy (some .empty)).run r l executor) := by
  have hnone : r.filters.entries.filter (fun e => Columns.isPublic .empty e.1) = [] := by
    simp [Columns.isPublic, KeyMap.find?_empty]
  refine s.alike_of_filters (fun q => ?_) l executor
  unfold layFilters?
  dsimp only
  rw [query_layFilters, hnone]
  rfl

theorem alike_edit_filter (s : Subject) {r : Request} (hr : r.filters.Ordered) {rawKey : String}
    (hkey : ¬ s.LooksAt rawKey) (value : String) {α : Type} (l : Limits)
    (executor : Batch → Reply α) :
    (s.run r l executor).Alike (s.run (r.edit (.filter rawKey value)) l executor) := by
  have hedit : r.edit (.filter rawKey value) =
      { r with filters := r.filters.insert rawKey value } := rfl
  rw [hedit]
  refine s.alike_of_find? hr (hr.insert rawKey value) (fun other hlooks => ?_) l executor
  have hne : other ≠ rawKey := by
    rintro rfl
    exact hkey hlooks
  rw [KeyMap.find?_insert, if_neg hne]

end Subject

/-- **Only public filters matter.**  Two requests that differ in their filters only come to the same
outcome and the same batches if under every public key the same value was given last, in whatever order
and however often filters were given.  Without a whitelist all is as with an empty one, and a filter under
a key that is not public can be added to any request. -/
theorem only_public_filters_matter (s : Subject) {α : Type} (l : Limits)
    (executor : Batch → Reply α) :
    (∀ (r r' : Request) (given given' : List (String × String)), r.Built given → r'.Built given' →
      r' = { r with filters := r'.filters } →
      (∀ rawKey, s.LooksAt rawKey →
        given.reverse.lookup rawKey = given'.reverse.lookup rawKey) →
      (s.run r l executor).Alike (s.run r' l executor)) ∧
    (∀ r : Request, ((s.filteredBy none).run r l executor).Alike
      ((s.filteredBy (some .empty)).run r l executor)) ∧
    ∀ (r : Request) (rawKey value : String), r.Reachable → ¬ s.LooksAt rawKey →
      (s.run r l executor).Alike (s.run (r.edit (.filter rawKey value)) l executor) := by
  refine ⟨?_, fun r => s.alike_without_columns r l executor, ?_⟩
  · intro r r' given given' hr hr' hsame hgiven
    rw [hsame]
    refine s.alike_of_find? hr.normal.filters hr'.normal.filters (fun rawKey hlooks => ?_) l executor
    rw [hr.find?_filters, hr'.find?_filters, hgiven rawKey hlooks]
  · intro r rawKey value hr hkey
    exact s.alike_edit_filter hr.normal.filters hkey value l executor

def parksStart : Query := ⟨"Parks", "p", [], [], [], [], .asc, .empty, 0⟩

def knownParks : Joined where
  query := parksStart
  mainTable := "Parks"
  filterable := some (.ofList [("area", ⟨"p.Area", .integer⟩), ("town", ⟨"p.Town", .text⟩)])
  searchable := []

def parksGiven : List (String × String) :=
  [("town", "Rome"), ("owner__like", "A%"), ("area__between", "1, 9"), ("town", "Oslo")]

/-- the same two filters the other way round, and an unknown key that sorts between them -/
def parksGivenAgain : List (String × String) :=
  [("area__between", "1, 9"), ("price__gt", "cheap"), ("town", "Oslo")]

def givenParks : Request := (Request.make 1 10).edit (.filters parksGiven)

def givenParksAgain : Request := (Request.make 1 10).edit (.filters parksGivenAgain)

def noParks (_ : Batch) : Reply Nat := ⟨some 0, .ok ⟨[], 0⟩⟩

theorem knownParks_look_at_two_filters :
    (knownParks.run givenParks ⟨none, none⟩ noParks).batches ≠ [] ∧
      (knownParks.run givenParks ⟨none, none⟩ noParks).Alike
        (knownParks.run givenParksAgain ⟨none, none⟩ noParks) := by
  have hlooks : ∀ rawKey, (Subject.query knownParks).LooksAt rawKey →
      parksGiven.reverse.lookup rawKey = parksGivenAgain.reverse.lookup rawKey := by
    rintro rawKey ⟨columns, hcolumns, hpublic⟩
    rw [← Option.some.inj hcolumns] at hpublic
    have howner : (rawKey == "owner__like") = false := by
      refine beq_false_of_ne ?_
      rintro rfl
      exact absurd hpublic (by decide)
    have hprice : (rawKey == "price__gt") = false := by
      refine beq_false_of_ne ?_
      rintro rfl
      exact absurd hpublic (by decide)
    by_cases htown : (rawKey == "town") = true
    · simp only [parksGiven, parksGivenAgain, List.reverse_cons, List.reverse_nil, List.nil_append,
        List.cons_append, List.lookup_cons, htown]
    · simp only [parksGiven, parksGivenAgain, List.reverse_cons, List.reverse_nil, List.nil_append,
        List.cons_append, List.lookup_cons, htown, howner, hprice]
  refine ⟨by decide +kernel, ?_⟩
  exact (only_public_filters_matter (.query knownParks) ⟨none, none⟩ noParks).1 givenParks
    givenParksAgain parksGiven parksGivenAgain (.edit _ _ _ (.make 1 10)) (.edit _ _ _ (.make 1 10))
    rfl hlooks

end PagedSql

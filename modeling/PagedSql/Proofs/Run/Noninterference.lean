import PagedSql.Proofs.Request.Reachable
import PagedSql.Proofs.Query.BlankLayer
import PagedSql.Proofs.Run.Subject

/-!
# Values of a request stay out of the text

Two requests that differ in values only come to the same statements and bind the same names.  For what
a request does to the text is settled by its sketch: whether it searches, and the forms of its tests,
whose columns are the subject's own.  The one text that it supplies itself is the column to sort by.

* `Request.forms`         the tests of a request without their values;
* `Request.AgreesWith`    requests that differ in values, page and page size only;
* `Request.AgreesWith.forms_eq`   they have the same forms;
* `Request.blank_layer`   the layer of a request is the one of its sketch but for the values;
* `Subject.sketch`        the query that a sketch comes to, `Subject.front` its rows up to an ordering;
* `request_values_stay_out_of_sql`   one run and its sketch, and two runs that agree.
-/

namespace PagedSql
open PagedSql.Text

/-! ## requests that agree -/

def Request.forms (r : Request) (columns : Option Columns) : List (Column × Form) :=
  formsOf (r.tests columns)

structure Request.AgreesWith (columns : Option Columns) (r r' : Request) : Prop where
  column : r.sortColumn = r'.sortColumn
  direction : Direction.read (r.sortDirection.getD "asc") =
    Direction.read (r'.sortDirection.getD "asc")
  search : r.hasSearch = r'.hasSearch
  keys : ∀ key, (r.filters.find? key).isSome = (r'.filters.find? key).isSome
  /-- lists on a column that may be filtered are of the same length -/
  entries : ∀ cs, columns = some cs → ∀ key value value', r.filters.find? key = some value →
    r'.filters.find? key = some value' → (cs.find? (splitKey key).1).isSome →
    ∀ op, Operator.read (splitKey key).2 = .ok op → op.isList = true →
    entryCount value = entryCount value'

theorem Columns.form_congr {columns : Columns} {key value value' : String}
    {found found' : Option (Column × Test)} (h : columns.resolve key value = .ok found)
    (h' : columns.resolve key value' = .ok found')
    (hentries : (columns.find? (splitKey key).1).isSome →
      ∀ op, Operator.read (splitKey key).2 = .ok op → op.isList = true →
        entryCount value = entryCount value') :
    found.map (fun e => (e.1, e.2.form)) = found'.map fun e => (e.1, e.2.form) := by
  cases found with
  | none =>
    have hnone := of_resolve_none h
    cases found' with
    | none => rfl
    | some e' =>
      have hsome := (of_resolve_some h').1
      rw [hnone] at hsome
      cases hsome
  | some e =>
    obtain ⟨hfind, op, hop, htest⟩ := of_resolve_some h
    cases found' with
    | none =>
      rw [of_resolve_none h'] at hfind
      cases hfind
    | some e' =>
      obtain ⟨hfind', op', hop', htest'⟩ := of_resolve_some h'
      have htarget : e.1 = e'.1 := Option.some.inj (hfind.symm.trans hfind')
      have hsame : op = op' := Except.ok.inj (hop.symm.trans hop')
      have hform : op.form (entryCount value) = op.form (entryCount value') := by
        refine Operator.form_congr fun hlist => hentries ?_ op hop hlist
        rw [hfind]
        rfl
      rw [Option.map_some, Option.map_some, htarget, Test.form_of_ofFilter htest,
        Test.form_of_ofFilter htest', hform, hsame]

theorem Request.AgreesWith.forms_eq {columns : Option Columns} {r r' : Request}
    {searchable : List String} (h : r.AgreesWith columns r') (hr : r.WellFormed) (hr' : r'.WellFormed)
    (ha : r.Accepted searchable columns) (ha' : r'.Accepted searchable columns) :
    r.forms columns = r'.forms columns := by
  cases columns with
  | none => rfl
  | some cs =>
    have hkeys := hr.filters.keys_eq hr'.filters h.keys
    show ((r.filters.entries.filterMap (Request.test? cs)).map _) =
      ((r'.filters.entries.filterMap (Request.test? cs)).map _)
    rw [List.map_filterMap, List.map_filterMap]
    refine KeyMap.filterMap_congr_of_keys hkeys fun e he e' he' hkey => ?_
    obtain ⟨key, value⟩ := e
    obtain ⟨key', value'⟩ := e'
    cases show key = key' from hkey
    obtain ⟨found, hfound⟩ := ha.filters cs rfl _ he
    obtain ⟨found', hfound'⟩ := ha'.filters cs rfl _ he'
    have hvalue := hr.filters.find?_of_mem he
    have hvalue' := hr'.filters.find?_of_mem he'
    rw [Request.test?_of_resolve hfound, Request.test?_of_resolve hfound']
    exact Columns.form_congr hfound hfound' (h.entries cs rfl key value value' hvalue hvalue')

/-- every column of a form may be filtered -/
theorem Request.column_of_mem_forms {columns : Option Columns} {r : Request} {e : Column × Form}
    (h : e ∈ r.forms columns) : ∃ cs key, columns = some cs ∧ cs.find? key = some e.1 := by
  obtain ⟨t, ht, rfl⟩ := List.mem_map.mp h
  exact Request.column_of_mem_tests ht

/-! ## layers -/

theorem Request.blank_searchLayer {r : Request} (h : r.WellFormed) (k : Nat)
    (searchable : List String) : (r.searchLayer k searchable).blank =
      (if r.hasSearch then PagedSql.searchLayer k anyTerm searchable else .empty).blank := by
  unfold searchLayer hasSearch
  cases ht : r.searchTerm with
  | none => rfl
  | some term => exact PagedSql.blank_searchLayer k (h.search term ht) trim_anyTerm searchable

theorem Request.blank_layer {r : Request} (h : r.WellFormed) (k : Nat) (searchable : List String)
    (columns : Option Columns) : (r.layer k searchable columns).blank =
      (sketchLayer k searchable r.hasSearch (r.forms columns)).blank := by
  have hsearch := Request.blank_searchLayer h k searchable
  have hused := Layer.used_eq_of_blank hsearch
  unfold Request.layer sketchLayer
  rw [Layer.blank_and, Layer.blank_and, hsearch, hused, Request.forms, blank_testsLayer]

/-! ## pages -/

namespace Subject
variable (s : Subject)

/-- the query that a request comes to, as far as its text is known without any value -/
def sketch (searches : Bool) (forms : List (Column × Form)) : Query :=
  s.base.lay (sketchLayer s.base.counter s.searchable searches forms)

/-- the rows of a sketch up to the ordering -/
def front (searches : Bool) (forms : List (Column × Form)) : String :=
  "SELECT " ++ projectionSql s.base.projection s.base.label ++ " " ++
    (s.sketch searches forms).source ++ " "

section
variable {r : Request} (h : r.WellFormed)
include h

theorem source_paged :
    (s.paged r).source = (s.sketch r.hasSearch (r.forms s.filterable)).source :=
  source_lay_congr (Request.blank_layer h s.base.counter s.searchable s.filterable) s.base

theorem countSql_paged :
    (s.paged r).countSql = (s.sketch r.hasSearch (r.forms s.filterable)).countSql :=
  congrArg ("SELECT COUNT(1) " ++ ·) (s.source_paged h)

theorem rowsSql_paged : (s.paged r).rowsSql =
    s.front r.hasSearch (r.forms s.filterable) ++ orderingSql (s.ordering r).1 (s.ordering r).2 := by
  show "SELECT " ++ projectionSql s.base.projection s.base.label ++ " " ++ (s.paged r).source ++
    " " ++ orderingSql (s.ordering r).1 (s.ordering r).2 = _
  rw [s.source_paged h, front]

theorem names_paged (offset : Int64) (size : UInt32) :
    ((s.paged r).batch offset size).parameters.names =
      ((s.sketch r.hasSearch (r.forms s.filterable)).parameters.bindAll
        [(offsetName, .null), (sizeName, .null)]).names := by
  have hblank := Request.blank_layer h s.base.counter s.searchable s.filterable
  have hnames := names_lay_congr hblank s.base
  have hwindow : [(offsetName, Value.int offset),
      (sizeName, .int (Int64.ofNat size.toNat))].map Prod.fst =
        [(offsetName, Value.null), (sizeName, .null)].map Prod.fst := rfl
  exact Bindings.names_bindAll_congr hnames hwindow

end

theorem ordering_congr {r r' : Request} (hcolumn : r.sortColumn = r'.sortColumn)
    (hdirection : Direction.read (r.sortDirection.getD "asc") =
      Direction.read (r'.sortDirection.getD "asc")) : s.ordering r = s.ordering r' := by
  unfold ordering
  rw [hcolumn, hdirection]

end Subject

/-- **Values of a request stay out of the text.**  A request that can come about and gets as far as a
batch comes to the same two statements, and binds the same names in the same order, as any other that
differs in values, page and page size only.  What it does to the text is known from whether it searches
and from forms on columns of the subject's own; all else is the column to sort by, a name without
fault. -/
theorem request_values_stay_out_of_sql (s : Subject) {α : Type} {r : Request} {limits : Limits}
    {executor : Batch → Reply α} {batch : Batch} (hr : r.Reachable)
    (h : batch ∈ (s.run r limits executor).batches) :
    (∀ (β : Type) (r' : Request) (limits' : Limits) (executor' : Batch → Reply β),
      r'.Reachable → r.AgreesWith s.filterable r' →
      ∀ batch' ∈ (s.run r' limits' executor').batches,
        batch'.rowsSql = batch.rowsSql ∧ batch'.countSql = batch.countSql ∧
          batch'.parameters.names = batch.parameters.names) ∧
    ∃ (searches : Bool) (forms : List (Column × Form)),
      (∀ e ∈ forms, ∃ columns key, s.filterable = some columns ∧ columns.find? key = some e.1) ∧
      batch.countSql = (s.sketch searches forms).countSql ∧
      ∀ column, r.sortColumn = some column → Identifier.fault? column = none ∧
        ∃ direction, Direction.read (r.sortDirection.getD "asc") = some direction ∧
          batch.rowsSql =
            windowSql (s.front searches forms ++ ("ORDER BY " ++ column ++ " " ++ direction.sql))
              offsetName sizeName := by
  have hwell := hr.wellFormed
  have hserved := Subject.served_of_mem_batches h
  obtain ⟨offset, _, rfl⟩ := Subject.exists_of_mem_batches h
  refine ⟨?_, r.hasSearch, r.forms s.filterable, fun e he => Request.column_of_mem_forms he,
    s.countSql_paged hwell, ?_⟩
  · intro β r' limits' executor' hr' hagree batch' h'
    have hwell' := hr'.wellFormed
    have hserved' := Subject.served_of_mem_batches h'
    obtain ⟨offset', _, rfl⟩ := Subject.exists_of_mem_batches h'
    have hforms := hagree.forms_eq hwell hwell' hserved.accepted hserved'.accepted
    have hordering := s.ordering_congr hagree.column hagree.direction
    refine ⟨?_, ?_, ?_⟩
    · show windowSql (s.paged r').rowsSql offsetName sizeName =
        windowSql (s.paged r).rowsSql offsetName sizeName
      rw [s.rowsSql_paged hwell, s.rowsSql_paged hwell', hagree.search, hforms, hordering]
    · show (s.paged r').countSql = (s.paged r).countSql
      rw [s.countSql_paged hwell, s.countSql_paged hwell', hagree.search, hforms]
    · rw [s.names_paged hwell, s.names_paged hwell', hagree.search, hforms]
  · intro column hcolumn
    obtain ⟨direction, hread⟩ := hserved.direction column hcolumn
    have hordering : s.ordering r = ([column], direction) := by
      unfold Subject.ordering
      rw [hcolumn]
      dsimp only
      rw [hread, Option.getD_some]
    refine ⟨hserved.column column hcolumn, direction, hread, ?_⟩
    show windowSql (s.paged r).rowsSql offsetName sizeName = _
    rw [s.rowsSql_paged hwell, hordering, orderingSql_singleton]

/-- towns by name, of some countries -/
def townsJoined : Joined where
  query := ⟨"Towns", "t", [], [], ["(t.Open)"], ["t.Id"], .asc, .empty, 0⟩
  mainTable := "Towns"
  filterable := some ⟨[("country", ⟨"t.Country", .text⟩)]⟩
  searchable := ["t.Name"]

/-- a request for towns that differs from others of its kind in values only -/
def townsRequest (page : Int64) (term countries : String) : Request :=
  (((Request.make page 10).edit (.search (some term))).edit (.sort "t.Name" "desc")).edit
    (.filter "country__in" countries)

theorem reachable_townsRequest (page : Int64) (term countries : String) :
    (townsRequest page term countries).Reachable :=
  .edit _ _ (.edit _ _ (.edit _ _ (.make page 10)))

def noTowns (_ : Batch) : Reply Nat := ⟨some 0, .ok ⟨[], 0⟩⟩

theorem agrees_townsRequest :
    (townsRequest 1 "berg" "NL, BE").AgreesWith townsJoined.filterable
      (townsRequest 7 "x' OR 1=1 --" "'), DROP") where
  column := by decide +kernel
  direction := by decide +kernel
  search := by decide +kernel
  keys := by
    intro key
    show ((KeyMap.empty.insert "country__in" "NL, BE").find? key).isSome =
      ((KeyMap.empty.insert "country__in" "'), DROP").find? key).isSome
    rw [KeyMap.find?_insert, KeyMap.find?_insert]
    split
    · rfl
    · rfl
  entries := by
    intro cs _ key value value' hvalue hvalue' _ _ _ _
    have hfirst : (KeyMap.empty.insert "country__in" "NL, BE").find? key = some value := hvalue
    have hsecond : (KeyMap.empty.insert "country__in" "'), DROP").find? key = some value' := hvalue'
    rw [KeyMap.find?_insert] at hfirst hsecond
    by_cases hkey : key = "country__in"
    · rw [if_pos hkey] at hfirst hsecond
      cases hfirst
      cases hsecond
      decide +kernel
    · rw [if_neg hkey] at hfirst
      cases hfirst

/-- two requests with quotes, comments and parentheses in the values of one of them -/
theorem townsRequest_values_stay_out :
    ∃ batch ∈ ((Subject.query townsJoined).run (townsRequest 1 "berg" "NL, BE") ⟨none, none⟩
        noTowns).batches,
      ∃ batch' ∈ ((Subject.query townsJoined).run (townsRequest 7 "x' OR 1=1 --" "'), DROP")
          ⟨none, none⟩ noTowns).batches,
        batch'.rowsSql = batch.rowsSql ∧ batch'.countSql = batch.countSql ∧
          batch'.parameters.names = batch.parameters.names := by
  have hsent : ((Subject.query townsJoined).run (townsRequest 1 "berg" "NL, BE") ⟨none, none⟩
      noTowns).batches ≠ [] := by
    decide +kernel
  have hsent' : ((Subject.query townsJoined).run (townsRequest 7 "x' OR 1=1 --" "'), DROP")
      ⟨none, none⟩ noTowns).batches ≠ [] := by
    decide +kernel
  obtain ⟨batch, hbatch⟩ := List.exists_mem_of_ne_nil _ hsent
  obtain ⟨batch', hbatch'⟩ := List.exists_mem_of_ne_nil _ hsent'
  have hruns := request_values_stay_out_of_sql (.query townsJoined)
    (reachable_townsRequest 1 "berg" "NL, BE") hbatch
  refine ⟨batch, hbatch, batch', hbatch', ?_⟩
  exact hruns.1 Nat _ ⟨none, none⟩ noTowns (reachable_townsRequest 7 "x' OR 1=1 --" "'), DROP")
    agrees_townsRequest batch' hbatch'

end PagedSql

import PagedSql.Proofs.Positional.Layers

/-!
# Named parameters refine direct positions

A page of one table is compiled with made-up names, bound, put together as text, and scanned again to
number the names.  The outcome is the one of the compiler that writes positions from the start.

* `Listing.bare`          the query of a listing before a request is laid on it;
* `ordering_of_laySort`   the ordering in the two;
* `agrees_layer`          the layer of a request and the conjuncts, `newNames_conditions` their names;
* `spelled_rowsPieces`, `spelled_countPieces`   the statements once the names have places;
* `listing_refines_positional`   both statements of a batch are numbered to the compiler's own.
-/

namespace PagedSql
open PagedSql.Text

/-! ## the query of a listing -/

theorem Query.project_eq (q : Query) (fragment : String) : q.project fragment =
    { q with projection := q.projection ++ if Blank fragment then [] else [fragment] } := by
  unfold project
  by_cases h : Blank fragment
  · rw [if_pos h, if_pos h, List.append_nil]
  · rw [if_neg h, if_neg h]

namespace Listing

def fragments (l : Listing) : List String :=
  match l.columns with
  | none => []
  | some columns => if Blank columns then [] else [columns]

def bare (l : Listing) : Query :=
  ⟨l.table, l.label, l.fragments, [], l.restrictions, [], .asc, .empty, 0⟩

section
variable {l : Listing} (h : tableFault? l.place l.table = none)
include h

theorem faultless_table : Identifier.fault? l.table = none := by
  unfold tableFault? at h
  split at h
  · cases h
  · exact Option.map_eq_none_iff.mp h

theorem isWord_table : IsWord l.table := isWord_of_fault? (faultless_table h)

theorem isWord_label : IsWord l.label := isWord_lastPart (faultless_table h)

theorem baseQuery_eq : l.baseQuery = .ok l.bare := by
  have htable := isWord_table h
  have hlabel := isWord_label h
  have hmake : Query.make l.table l.label =
      .ok ⟨l.table, l.label, [], [], [], [], .asc, .empty, 0⟩ := by
    unfold Query.make
    rw [htable.trim_eq, hlabel.trim_eq]
    dsimp only
    rw [if_neg htable.ne_empty, if_neg hlabel.ne_empty]
  unfold baseQuery bare fragments restrictions
  rw [hmake]
  dsimp only
  cases l.columns with
  | none =>
    cases l.baseCondition with
    | none => rfl
    | some condition => simp only [Query.restrict_eq, List.nil_append]
  | some columns =>
    cases l.baseCondition with
    | none => simp only [Query.project_eq, List.nil_append]
    | some condition => simp only [Query.project_eq, Query.restrict_eq, List.nil_append]

end

theorem projection_eq (l : Listing) : Positional.projection l = projectionSql l.fragments l.label := by
  unfold Positional.projection fragments
  cases l.columns with
  | none => rfl
  | some columns =>
    dsimp only
    split
    · rfl
    · rfl

end Listing

/-! ## ordering -/

theorem orderBy_isWord (q : Query) {column : String} (h : IsWord column) (direction : Direction) :
    q.orderBy [column] direction = { q with ordering := [column], direction := direction } := by
  have hkeep : [column].filter (fun c => ¬ Blank c) = [column] := by
    rw [List.filter_eq_self]
    intro c hc
    rw [List.mem_singleton.mp hc]
    exact decide_eq_true h.not_blank
  unfold Query.orderBy
  rw [hkeep]

theorem orderingSql_singleton (column : String) (direction : Direction) :
    orderingSql [column] direction = "ORDER BY " ++ column ++ " " ++ direction.sql := by
  unfold orderingSql
  rw [if_neg (List.cons_ne_nil _ _), List.map_singleton, join_singleton]
  simp only [String.append_assoc]

theorem ordering_of_laySort {l : Listing} {r : Request} {base q : Query}
    (h : laySort l.place r l.sortByDefault base = .ok q) (hbase : base.ordering = []) :
    ∃ columns direction, q = { base with ordering := columns, direction := direction } ∧
      (∀ c ∈ columns, IsWord c) ∧
      Positional.ordering l r = some (orderingSql columns direction) := by
  rcases laySort_eq_ok h with ⟨hnone, hdefault⟩ | ⟨column, direction, hcolumn, hread, hsort⟩
  · unfold Listing.sortByDefault at hdefault
    unfold Positional.ordering
    rw [hnone]
    cases hd : l.defaultSort with
    | none =>
      rw [hd] at hdefault
      refine ⟨[], base.direction, ?_, fun c hc => absurd hc List.not_mem_nil, rfl⟩
      rw [← hbase, ← Except.ok.inj hdefault]
    | some d =>
      obtain ⟨column, direction⟩ := d
      rw [hd] at hdefault
      obtain ⟨hfault, rfl⟩ := sortBy_eq_ok hdefault
      have hword := isWord_of_fault? hfault
      refine ⟨[column], direction, orderBy_isWord base hword direction, ?_, ?_⟩
      · exact fun c hc => List.mem_singleton.mp hc ▸ hword
      · rw [orderingSql_singleton]
  · obtain ⟨hfault, rfl⟩ := sortBy_eq_ok hsort
    have hword := isWord_of_fault? hfault
    refine ⟨[column], direction, orderBy_isWord base hword direction, ?_, ?_⟩
    · exact fun c hc => List.mem_singleton.mp hc ▸ hword
    · unfold Positional.ordering
      rw [hcolumn]
      dsimp only
      rw [hread, Option.map_some, orderingSql_singleton]

/-! ## conditions -/

/-- the metadata of a listing keeps its quotes closed and uses no names -/
structure Listing.Inert (l : Listing) : Prop where
  columns : ∀ c, l.columns = some c → PagedSql.Inert c
  base : ∀ c, l.baseCondition = some c → PagedSql.Inert c
  filterable : ∀ columns, l.filterable = some columns →
    ∀ e ∈ columns.entries, PagedSql.Inert e.2.column

theorem Request.Accepted.isWord {r : Request} {searchable : List String} {columns : Option Columns}
    (h : r.Accepted searchable columns) :
    ∀ term, r.searchTerm = some term → ∀ c ∈ searchable, IsWord c :=
  fun term ht c hc => isWord_of_fault? (h.search term ht c hc)

theorem inert_tests {l : Listing} (hl : l.Inert) (r : Request) :
    ∀ t ∈ r.tests l.filterable, PagedSql.Inert t.1.column := by
  unfold Request.tests
  cases hcolumns : l.filterable with
  | none => exact fun t ht => absurd ht List.not_mem_nil
  | some columns => exact inert_of_mem_tests (hl.filterable columns hcolumns)

section
variable {l : Listing} {r : Request} (hl : l.Inert) (hr : r.Accepted l.searchable l.filterable)
include hl hr

/-- the conditions of a listing and a request in any order that begins with the names of the layer -/
theorem agrees_layer (rest : List (List Char))
    (hnodup : ((r.layer 0 l.searchable l.filterable).names.map String.toList ++ rest).Nodup) :
    ∃ cs, Positional.conjuncts l r = some cs ∧
      Agrees ((r.layer 0 l.searchable l.filterable).names.map String.toList ++ rest)
        (Layer.and ⟨l.restrictions, [], 0⟩ (r.layer 0 l.searchable l.filterable)) cs := by
  generalize horder : (r.layer 0 l.searchable l.filterable).names.map String.toList ++ rest = order
    at hnodup
  have hbase := agrees_base order hl.base
  have hwords := hr.isWord
  unfold Request.layer at horder ⊢
  rw [Layer.names_and, List.map_append] at horder
  have hplace : ∀ name ∈ (r.searchLayer 0 l.searchable).names, order.idxOf name.toList = 0 := by
    rw [← horder, List.append_assoc]
    exact idxOf_searchLayer hwords 0 _
  have hsearch := agrees_search hwords hplace
  unfold Positional.conjuncts
  cases hcolumns : l.filterable with
  | none =>
    refine ⟨_, rfl, hbase.and ?_⟩
    have hnone := hsearch.and (Agrees.empty order)
    rw [List.append_nil] at hnone
    exact hnone
  | some columns =>
    rw [hcolumns] at horder
    obtain ⟨fs, hfs, hfilters⟩ := agrees_tests (hl.filterable columns hcolumns)
      (hr.filters columns hcolumns) (0 + (r.searchLayer 0 l.searchable).used) horder.symm hnodup
    rw [List.length_map, ← hsearch.length_values] at hfs
    dsimp only
    rw [hfs, Option.map_some]
    refine ⟨_, rfl, ?_⟩
    rw [List.append_assoc]
    exact hbase.and (hsearch.and hfilters)

/-- the names of a request are met in the order in which they are bound -/
theorem newNames_conditions (rest : List (List Char))
    (hnodup : ((r.layer 0 l.searchable l.filterable).names.map String.toList ++ rest).Nodup) :
    newNames [] ((l.restrictions ++ (r.layer 0 l.searchable l.filterable).conditions).flatMap
        placeholders ++ rest) =
      (r.layer 0 l.searchable l.filterable).names.map String.toList ++ rest := by
  have hsearch := newNames_searchLayer hr.isWord 0
  have htests := placeholders_testsLayer (0 + (r.searchLayer 0 l.searchable).used)
    (inert_tests hl r)
  unfold Request.layer at hnodup ⊢
  rw [Layer.names_and, List.map_append, List.append_assoc] at hnodup
  rw [Layer.names_and, Layer.and]
  dsimp only
  rw [List.flatMap_append, placeholders_restrictions hl.base, List.nil_append, List.flatMap_append,
    List.append_assoc, newNames_append, hsearch, List.nil_append, htests, List.map_append,
    List.append_assoc]
  refine congrArg _ (newNames_of_nodup (List.nodup_append.mp hnodup).2.1 fun n hn hs => ?_)
  exact (List.nodup_append.mp hnodup).2.2 n hs n hn rfl

end

/-! ## statements -/

theorem Scans.inert {s : String} {ps : List Piece} (h : Scans s ps) (hn : names ps = []) :
    Inert s := by
  refine ⟨h.closed, ?_⟩
  rw [h.placeholders_eq, hn]

theorem Scans.spelled_eq {s : String} {ps : List Piece} (h : Scans s ps) (hn : names ps = [])
    (order : List (List Char)) : spelled order ps = s := by
  rw [← h.scan_eq]
  exact (h.inert hn).spelled_eq order

theorem flatMap_placeholders {ts : List String} (h : ∀ t ∈ ts, Inert t) :
    ts.flatMap placeholders = [] :=
  List.flatMap_eq_nil_iff.mpr fun t ht => (h t ht).names

theorem inert_fragments {l : Listing} (h : l.Inert) : ∀ f ∈ l.fragments, Inert f := by
  intro f hf
  unfold Listing.fragments at hf
  cases hc : l.columns with
  | none =>
    rw [hc] at hf
    exact absurd hf List.not_mem_nil
  | some columns =>
    rw [hc] at hf
    dsimp only at hf
    split at hf
    · exact absurd hf List.not_mem_nil
    · rw [List.mem_singleton.mp hf]
      exact h.columns columns hc

section
variable {l : Listing} (ht : IsWord l.table) (hb : IsWord l.label) (order : List (List Char))
include ht hb

theorem spelled_fromPieces :
    spelled order (fromPieces l.table l.label []) = "FROM " ++ l.table ++ " AS " ++ l.label := by
  have hscans : Scans (fromSql l.table l.label []) (fromPieces l.table l.label []) :=
    scans_fromSql ht.plain.closed hb.plain.closed fun _ hj => absurd hj List.not_mem_nil
  have hnames : names (fromPieces l.table l.label []) = [] := by
    rw [names_fromPieces, ht.plain.inert.names, hb.plain.inert.names]
    rfl
  rw [hscans.spelled_eq hnames, fromSql, joinsSql_nil, String.append_empty]

theorem spelled_source {conditions : List String} {cs : List Numbered}
    (h : conditions.map (fun c => spelled order (scan c)) = cs.map Numbered.sql) :
    spelled order (sourcePieces l.table l.label [] conditions) = Positional.source l cs := by
  unfold sourcePieces Positional.source
  have hfrom := spelled_fromPieces ht hb order
  by_cases hnone : conditions = []
  · have hnil : cs = [] := by
      rw [hnone] at h
      exact List.map_eq_nil_iff.mp h.symm
    rw [if_pos hnone, if_pos hnil, hfrom, String.append_empty]
  · have hsome : cs ≠ [] := by
      rintro rfl
      exact hnone (List.map_eq_nil_iff.mp h)
    have hwhere : " WHERE " = " " ++ "WHERE " := by decide
    rw [if_neg hnone, if_neg hsome, spelled_append, spelled_append, spelled_append, hfrom,
      spelled_chars, spelled_chars, spelled_intercalate, List.map_map, hwhere, ← h]
    simp only [String.append_assoc]
    rfl

end

theorem spelled_projectionPieces {l : Listing} (hb : IsWord l.label)
    (hf : ∀ f ∈ l.fragments, Inert f) (order : List (List Char)) :
    spelled order (projectionPieces l.fragments l.label) = Positional.projection l := by
  have hscans := scans_projectionSql (fun f h => (hf f h).closed) hb.plain.closed
  have hnames : names (projectionPieces l.fragments l.label) = [] := by
    rw [names_projectionPieces, hb.plain.inert.names, flatMap_placeholders hf]
    split <;> rfl
  rw [hscans.spelled_eq hnames, l.projection_eq]

theorem spelled_orderingPieces {columns : List String} (direction : Direction)
    (h : ∀ c ∈ columns, IsWord c) (order : List (List Char)) :
    spelled order (orderingPieces columns direction) = orderingSql columns direction := by
  have hscans := scans_orderingSql direction fun c hc => (h c hc).plain.closed
  refine hscans.spelled_eq ?_ order
  rw [names_orderingPieces, flatMap_placeholders fun c hc => (h c hc).plain.inert]

/-! ## batches -/

/-- a statement whose names are met in the order of some of the entries that are bound -/
theorem numbered_of_entries {sql : String} {ps : List Piece} (b : Bindings)
    {es ds : List (String × Value)} (h : Scans sql ps) (hdistinct : Bindings.Distinct es)
    (hsub : ∀ e ∈ ds, e ∈ es)
    (hnames : newNames [] (names ps) = (ds.map Prod.fst).map String.toList) :
    numbered sql (b.bindAll es) =
      .ok ⟨spelled ((ds.map Prod.fst).map String.toList) ps, ds.map Prod.snd⟩ := by
  have hbound : ∀ n ∈ names ps, (b.bindAll es).Binds n := by
    intro n hn
    have hnew : n ∈ newNames [] (names ps) := mem_newNames.mpr ⟨hn, List.not_mem_nil⟩
    rw [hnames] at hnew
    obtain ⟨name, hname, rfl⟩ := List.mem_map.mp hnew
    obtain ⟨e, he, rfl⟩ := List.mem_map.mp hname
    exact b.binds_bindAll (List.mem_map_of_mem (hsub e he))
  have hvalues : ((ds.map Prod.fst).map String.toList).map (b.bindAll es).value =
      ds.map Prod.snd := by
    rw [List.map_map, List.map_map]
    refine List.map_congr_left fun e he => ?_
    show (b.bindAll es).value e.1.toList = e.2
    rw [Bindings.value, String.ofList_toList, b.find?_bindAll_of_mem hdistinct (hsub e he)]
    rfl
  rw [numbered_of_scans h hnames hbound, hvalues]

/-- the query of a listing with a layer on it, ordered -/
def Listing.laid (l : Listing) (layer : Layer) (columns : List String) (direction : Direction) :
    Query :=
  { l.bare.lay layer with ordering := columns, direction := direction }

section
variable {l : Listing} (ht : IsWord l.table) (hb : IsWord l.label) {layer : Layer}
  {columns : List String} (direction : Direction)
include ht hb

section
variable {order : List (List Char)} {cs : List Numbered}
  (h : Agrees order (Layer.and ⟨l.restrictions, [], 0⟩ layer) cs)
include h

theorem spelled_countPieces : spelled order (l.laid layer columns direction).countPieces =
    "SELECT COUNT(1) " ++ Positional.source l cs := by
  have hsource := spelled_source ht hb order h.texts
  show spelled order (chars "SELECT COUNT(1) " ++
    sourcePieces l.table l.label [] (l.restrictions ++ layer.conditions)) = _
  rw [spelled_append, spelled_chars]
  exact congrArg ("SELECT COUNT(1) " ++ ·) hsource

variable (hl : l.Inert) (hwords : ∀ c ∈ columns, IsWord c)
include hl hwords

theorem all_laid : (l.laid layer columns direction).All Closed where
  table := ht.plain.closed
  label := hb.plain.closed
  projection := fun f hf => (inert_fragments hl f hf).closed
  joins := fun _ hj => absurd hj List.not_mem_nil
  conditions := h.closed
  ordering := fun c hc => (hwords c hc).plain.closed

theorem spelled_rowsPieces : spelled order (l.laid layer columns direction).rowsPieces =
    "SELECT " ++ Positional.projection l ++ " " ++ Positional.source l cs ++ " " ++
      orderingSql columns direction := by
  have hprojection := spelled_projectionPieces hb (inert_fragments hl) order
  have hsource := spelled_source ht hb order h.texts
  have hordering := spelled_orderingPieces direction hwords order
  show spelled order (chars "SELECT " ++ projectionPieces l.fragments l.label ++ chars " " ++
    sourcePieces l.table l.label [] (l.restrictions ++ layer.conditions) ++ chars " " ++
      orderingPieces columns direction) = _
  simp only [spelled_append, spelled_chars]
  rw [hprojection, hordering]
  exact congrArg (fun s => "SELECT " ++ Positional.projection l ++ " " ++ s ++ " " ++
    orderingSql columns direction) hsource

end

theorem sourced_laid : (l.laid layer columns direction).sourced =
    (l.restrictions ++ layer.conditions).flatMap placeholders := by
  show placeholders l.table ++ placeholders l.label ++ [] ++
    (l.restrictions ++ layer.conditions).flatMap placeholders = _
  rw [ht.plain.inert.names, hb.plain.inert.names]
  rfl

theorem names_rowsPieces_laid (hl : l.Inert) (hwords : ∀ c ∈ columns, IsWord c) :
    names (l.laid layer columns direction).rowsPieces =
      (l.restrictions ++ layer.conditions).flatMap placeholders := by
  have hprojected : (l.laid layer columns direction).projected = [] := by
    show (if l.fragments = [] then placeholders l.label else l.fragments.flatMap placeholders) = []
    rw [hb.plain.inert.names, flatMap_placeholders (inert_fragments hl)]
    split <;> rfl
  have hordered : (l.laid layer columns direction).ordering.flatMap placeholders = [] :=
    flatMap_placeholders fun c hc => (hwords c hc).plain.inert
  rw [Query.names_rowsPieces, sourced_laid ht hb, hprojected, hordered, List.append_nil,
    List.nil_append]

end

/-! ## windows -/

def windowNames : List (List Char) := [offsetName.toList, sizeName.toList]

/-- the window comes after all other values -/
theorem spelled_windowPieces {pre : List (List Char)} {ps : List Piece}
    (h : (pre ++ windowNames).Nodup) :
    spelled (pre ++ windowNames) (windowPieces ps offsetName sizeName) =
      spelled (pre ++ windowNames) ps ++ " OFFSET " ++ positionText pre.length ++
        " ROWS FETCH NEXT " ++ positionText (pre.length + 1) ++ " ROWS ONLY" := by
  have hplaces : windowNames.map (pre ++ windowNames).idxOf = List.range' pre.length 2 := by
    rw [← List.append_nil (pre ++ windowNames)] at h ⊢
    exact map_idxOf_segment h
  have hoffset : (pre ++ windowNames).idxOf offsetName.toList = pre.length :=
    (List.cons.inj hplaces).1
  have hsize : (pre ++ windowNames).idxOf sizeName.toList = pre.length + 1 :=
    (List.cons.inj (List.cons.inj hplaces).2).1
  unfold windowPieces
  simp only [spelled_append, spelled_chars, spelled_name, hoffset, hsize]

theorem Request.values_window {r : Request} {offset : Int64} (h : r.offset? = some offset) :
    r.window.map Prod.snd =
      [.int (Int64.ofNat r.skip.toNat), .int (Int64.ofNat r.pageSize.toNat)] := by
  unfold window
  rw [h, offset?_eq_some h]
  rfl

theorem Request.names_window (r : Request) (layer : Layer) :
    ((layer.parameters ++ r.window).map Prod.fst).map String.toList =
      layer.names.map String.toList ++ windowNames := by
  rw [List.map_append, List.map_append]
  rfl

/-! ## listings -/

section
variable {l : Listing} {r : Request} {layer : Layer} {columns : List String}
  (direction : Direction) {cs : List Numbered} {offset : Int64} (hl : l.Inert)
  (ht : IsWord l.table) (hb : IsWord l.label) (hwords : ∀ c ∈ columns, IsWord c)
  (ho : r.offset? = some offset)
  (hdistinct : Bindings.Distinct (layer.parameters ++ r.window))
include hl ht hb hwords ho hdistinct

/-- the rows, when the names of the layer are met in their order and those of the window last -/
theorem numbered_rows_laid (hnodup : (layer.names.map String.toList ++ windowNames).Nodup)
    (hmet : newNames [] ((l.restrictions ++ layer.conditions).flatMap placeholders ++ windowNames) =
      layer.names.map String.toList ++ windowNames)
    (h : Agrees (layer.names.map String.toList ++ windowNames)
      (Layer.and ⟨l.restrictions, [], 0⟩ layer) cs) :
    let batch := (l.laid layer columns direction).batch offset r.pageSize
    numbered batch.rowsSql batch.parameters =
      .ok (Positional.rows l r cs (orderingSql columns direction)) := by
  have hvalues : layer.parameters.map Prod.snd = Positional.values cs := h.values
  have hlength : (layer.names.map String.toList).length = (Positional.values cs).length := by
    rw [List.length_map, ← hvalues, List.length_map, Layer.names, List.length_map]
  have hscans := scans_windowSql (Query.scans_rowsSql (all_laid ht hb direction h hl hwords))
    (by decide : isName offsetName.toList = true) (by decide : isName sizeName.toList = true)
  have hnames : newNames [] (names (windowPieces (l.laid layer columns direction).rowsPieces
      offsetName sizeName)) = ((layer.parameters ++ r.window).map Prod.fst).map String.toList := by
    rw [names_windowPieces, names_rowsPieces_laid ht hb direction hl hwords, r.names_window]
    exact hmet
  have hnumbered := numbered_of_entries .empty hscans hdistinct (fun _ he => he) hnames
  rw [r.names_window, spelled_windowPieces hnodup, hlength,
    spelled_rowsPieces ht hb direction h hl hwords, List.map_append, hvalues,
    Request.values_window ho, Bindings.bindAll_append] at hnumbered
  intro batch
  rw [Query.parameters_batch _ ho]
  exact hnumbered

theorem numbered_count_laid
    (hmet : newNames [] ((l.restrictions ++ layer.conditions).flatMap placeholders) =
      layer.names.map String.toList)
    (h : Agrees (layer.names.map String.toList) (Layer.and ⟨l.restrictions, [], 0⟩ layer) cs) :
    let batch := (l.laid layer columns direction).batch offset r.pageSize
    numbered batch.countSql batch.parameters = .ok (Positional.count l cs) := by
  have hvalues : layer.parameters.map Prod.snd = Positional.values cs := h.values
  have hscans := Query.scans_countSql (all_laid ht hb direction h hl hwords)
  have hnames : newNames [] (names (l.laid layer columns direction).countPieces) =
      (layer.parameters.map Prod.fst).map String.toList := by
    rw [Query.names_countPieces, sourced_laid ht hb direction]
    exact hmet
  have hnumbered := numbered_of_entries .empty hscans hdistinct
    (fun _ he => List.mem_append_left _ he) hnames
  have htext : spelled ((layer.parameters.map Prod.fst).map String.toList)
      (l.laid layer columns direction).countPieces = _ := spelled_countPieces ht hb direction h
  rw [htext, hvalues, Bindings.bindAll_append] at hnumbered
  intro batch
  rw [Query.parameters_batch _ ho]
  exact hnumbered

end

/-- the batch of a listing with the layer of a request on it -/
theorem numbered_laid {l : Listing} {r : Request} {columns : List String} (direction : Direction)
    {offset : Int64} (hl : l.Inert) (hr : r.Accepted l.searchable l.filterable)
    (ht : IsWord l.table) (hb : IsWord l.label) (hwords : ∀ c ∈ columns, IsWord c)
    (ho : r.offset? = some offset) : ∃ cs, Positional.conjuncts l r = some cs ∧
      let batch := (l.laid (r.layer 0 l.searchable l.filterable) columns direction).batch offset
        r.pageSize
      numbered batch.rowsSql batch.parameters =
          .ok (Positional.rows l r cs (orderingSql columns direction)) ∧
        numbered batch.countSql batch.parameters = .ok (Positional.count l cs) := by
  have hdistinct := r.distinct_layer_window 0 l.searchable l.filterable
  have hnodup : ((r.layer 0 l.searchable l.filterable).names.map String.toList ++
      windowNames).Nodup := by
    rw [← r.names_window]
    exact (r.nodup_layer_window 0 l.searchable l.filterable).map
      fun _ _ h => String.toList_injective h
  have hnodupCount : ((r.layer 0 l.searchable l.filterable).names.map String.toList ++ []).Nodup := by
    rw [List.append_nil]
    exact (List.nodup_append.mp hnodup).1
  obtain ⟨cs, hcs, hrows⟩ := agrees_layer hl hr windowNames hnodup
  obtain ⟨ds, hds, hcount⟩ := agrees_layer hl hr [] hnodupCount
  rw [hcs] at hds
  obtain rfl := Option.some.inj hds
  have hmetRows := newNames_conditions hl hr windowNames hnodup
  have hmetCount := newNames_conditions hl hr [] hnodupCount
  rw [List.append_nil, List.append_nil] at hmetCount
  rw [List.append_nil] at hcount
  refine ⟨cs, hcs, ?_, ?_⟩
  · exact numbered_rows_laid direction hl ht hb hwords ho hdistinct hnodup hmetRows hrows
  · exact numbered_count_laid direction hl ht hb hwords ho hdistinct hmetCount hcount

/-- **Names refine positions.**  A run on a listing whose metadata keeps its quotes closed and uses no
names gets as far as a batch only if the request can be compiled without names, and then both
statements of the batch are numbered, to the statements and the values of the compiler. -/
theorem listing_refines_positional {α : Type} {l : Listing} {r : Request} {limits : Limits}
    {executor : Batch → Reply α} {batch : Batch} (hl : l.Inert)
    (h : batch ∈ (l.run r limits executor).batches) :
    ∃ rows count, Positional.compile l r = some (rows, count) ∧
      numbered batch.rowsSql batch.parameters = .ok rows ∧
      numbered batch.countSql batch.parameters = .ok count := by
  obtain ⟨base, q, offset, hfault, hbase, hr, hsort, ho, rfl⟩ := Listing.exists_of_mem_batches h
  have ht := Listing.isWord_table hfault
  have hb := Listing.isWord_label hfault
  rw [Listing.baseQuery_eq hfault] at hbase
  obtain rfl := Except.ok.inj hbase
  obtain ⟨columns, direction, rfl, hwords, hordering⟩ := ordering_of_laySort hsort rfl
  obtain ⟨cs, hcs, hrows, hcount⟩ := numbered_laid direction hl hr ht hb hwords ho
  refine ⟨_, _, ?_, hrows, hcount⟩
  rw [Positional.compile, hcs, hordering]

def shortListing : Listing :=
  ⟨"T", none, ["n"], some ⟨[("k", ⟨"b", .integer⟩)]⟩, some "a > 0", none⟩

/-- the second page of rows with an `X` and one of two numbers -/
def shortRequest : Request :=
  (Request.make 2 10).editAll [.search (some "X"), .filter "k__in" "7, 8"]

def shortRows : Numbered where
  sql := "SELECT T.* FROM T AS T WHERE (a > 0) AND (LOWER(n) LIKE $1) AND (b IN ($2, $3)) ORDER BY 1 OFFSET $4 ROWS FETCH NEXT $5 ROWS ONLY"
  values := [.text "%x%", .int 7, .int 8, .int 10, .int 10]

theorem shortListing_refines_positional :
    ∃ batch ∈ (shortListing.run shortRequest ⟨none, none⟩ fun _ => ⟨some 0, .ok ⟨[()], 1⟩⟩).batches,
      numbered batch.rowsSql batch.parameters = .ok shortRows := by
  have hinert : shortListing.Inert := by
    refine ⟨fun c hc => ?_, fun c hc => ?_, fun columns hcolumns => ?_⟩
    · cases hc
    · cases hc
      decide +kernel
    · cases hcolumns
      decide +kernel
  have hbatches : (shortListing.run shortRequest ⟨none, none⟩
      fun _ => ⟨some 0, .ok ⟨[()], 1⟩⟩).batches ≠ [] := by
    decide +kernel
  obtain ⟨batch, hbatch⟩ := List.exists_mem_of_ne_nil _ hbatches
  obtain ⟨rows, count, hcompile, hrows, _⟩ := listing_refines_positional hinert hbatch
  have hshort : (Positional.compile shortListing shortRequest).map Prod.fst = some shortRows := by
    decide +kernel
  rw [hcompile] at hshort
  obtain rfl := Option.some.inj hshort
  exact ⟨batch, hbatch, hrows⟩

end PagedSql

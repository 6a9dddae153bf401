import PagedSql.Query.Statement
import PagedSql.Proofs.Placeholder.Parts

/-!
# The clauses of a statement, piece by piece

Every clause sets its texts between separators, so that the scan of a statement is made of the scans
of the texts that it was built from.

* `Query.All`        a property of every text that a query holds;
* `projectionPieces`, `fromPieces`, `sourcePieces`, `orderingPieces`   the pieces of the clauses;
* `windowPieces`     the pieces of a statement that is cut down to one page;
* `Query.scans_rowsSql`, `Query.scans_countSql`, `scans_windowSql`     those of the statements;
* `names_rowsPieces`, `names_countPieces`   the names in the statements are those in the texts.
-/

namespace PagedSql
open PagedSql.Text

structure Join.All (P : String → Prop) (j : Join) : Prop where
  table : P j.table
  label : P j.label
  condition : P j.condition

structure Query.All (P : String → Prop) (q : Query) : Prop where
  table : P q.table
  label : P q.label
  projection : ∀ f ∈ q.projection, P f
  joins : ∀ j ∈ q.joins, j.All P
  conditions : ∀ c ∈ q.conditions, P c
  ordering : ∀ c ∈ q.ordering, P c

theorem Join.All.imp {P Q : String → Prop} (h : ∀ t, P t → Q t) {j : Join} (hj : j.All P) :
    j.All Q :=
  ⟨h _ hj.table, h _ hj.label, h _ hj.condition⟩

theorem Query.All.imp {P Q : String → Prop} (h : ∀ t, P t → Q t) {q : Query} (hq : q.All P) :
    q.All Q where
  table := h _ hq.table
  label := h _ hq.label
  projection := fun f hf => h f (hq.projection f hf)
  joins := fun j hj => (hq.joins j hj).imp h
  conditions := fun c hc => h c (hq.conditions c hc)
  ordering := fun c hc => h c (hq.ordering c hc)

/-! ## projection -/

def projectionPieces (fragments : List String) (label : String) : List Piece :=
  if fragments = [] then scan label ++ chars ".*"
  else List.intercalate (chars ", ") (fragments.map scan)

theorem scans_projectionSql {fragments : List String} {label : String}
    (hf : ∀ f ∈ fragments, Closed f) (hl : Closed label) :
    Scans (projectionSql fragments label) (projectionPieces fragments label) := by
  unfold projectionSql projectionPieces
  split
  · exact (Scans.self hl).trailing (by decide) (by decide)
  · exact Scans.join (by decide) hf

theorem names_intercalate_scan {sep : String} (ss : List String) :
    names (List.intercalate (chars sep) (ss.map scan)) = ss.flatMap placeholders := by
  rw [names_intercalate (names_chars sep), List.flatMap_map]
  rfl

theorem names_projectionPieces (fragments : List String) (label : String) :
    names (projectionPieces fragments label) =
      if fragments = [] then placeholders label else fragments.flatMap placeholders := by
  unfold projectionPieces
  split
  · rw [names_append, names_chars, List.append_nil]
    rfl
  · exact names_intercalate_scan fragments

/-! ## tables -/

def Join.pieces (j : Join) : List Piece :=
  chars (j.kind.sql ++ " ") ++ scan j.table ++ chars " AS " ++ scan j.label ++ chars " ON " ++
    scan j.condition

theorem Join.scans_sql {j : Join} (h : j.All Closed) : Scans j.sql j.pieces := by
  have hk : Lead (j.kind.sql ++ " ") := by cases j.kind <;> decide
  have htable := Scans.lead hk (.self h.table)
  have hlabel := htable.separated (by decide : Separator " AS ") (.self h.label)
  exact hlabel.separated (by decide) (.self h.condition)

/-- names of the joins' own texts, in the order in which they are written -/
def Join.placeholders (j : Join) : List (List Char) :=
  PagedSql.placeholders j.table ++ PagedSql.placeholders j.label ++
    PagedSql.placeholders j.condition

theorem Join.names_pieces (j : Join) : names j.pieces = j.placeholders := by
  unfold pieces placeholders
  simp only [names_append, names_chars, List.nil_append, List.append_nil]
  rfl

theorem scans_joinsSql {a : String} {ps : List Piece} (ha : Scans a ps) {js : List Join}
    (h : ∀ j ∈ js, j.All Closed) :
    Scans (a ++ joinsSql js) (ps ++ js.flatMap fun j => chars " " ++ j.pieces) := by
  induction js generalizing a ps with
  | nil =>
    rw [joinsSql_nil, String.append_empty, List.flatMap_nil, List.append_nil]
    exact ha
  | cons j js ih =>
    have hj := Join.scans_sql (h j List.mem_cons_self)
    have hnext := ih (ha.separated (by decide : Separator " ") hj) fun k hk =>
      h k (List.mem_cons_of_mem _ hk)
    rw [joinsSql_cons, List.flatMap_cons, ← String.append_assoc, ← String.append_assoc,
      ← List.append_assoc, ← List.append_assoc]
    exact hnext

def fromPieces (table label : String) (joins : List Join) : List Piece :=
  chars "FROM " ++ scan table ++ chars " AS " ++ scan label ++
    joins.flatMap fun j => chars " " ++ j.pieces

theorem scans_fromSql {table label : String} {joins : List Join} (ht : Closed table)
    (hl : Closed label) (hj : ∀ j ∈ joins, j.All Closed) :
    Scans (fromSql table label joins) (fromPieces table label joins) := by
  have h : Scans ("FROM " ++ table) (chars "FROM " ++ scan table) := .lead (by decide) (.self ht)
  exact scans_joinsSql (h.separated (by decide) (.self hl)) hj

theorem names_fromPieces (table label : String) (joins : List Join) :
    names (fromPieces table label joins) =
      placeholders table ++ placeholders label ++ joins.flatMap Join.placeholders := by
  have hj : names (joins.flatMap fun j => chars " " ++ j.pieces) =
      joins.flatMap Join.placeholders := by
    induction joins with
    | nil => rfl
    | cons j js ih =>
      rw [List.flatMap_cons, names_append, names_append, names_chars, List.nil_append, ih,
        j.names_pieces, List.flatMap_cons]
  unfold fromPieces
  simp only [names_append, names_chars, List.nil_append, List.append_nil, hj]
  rfl

/-! ## conditions -/

def sourcePieces (table label : String) (joins : List Join) (conditions : List String) :
    List Piece :=
  if conditions = [] then fromPieces table label joins
  else fromPieces table label joins ++ chars " " ++
    (chars "WHERE " ++ List.intercalate (chars " AND ") (conditions.map scan))

theorem scans_sourceSql {table label : String} {joins : List Join} {conditions : List String}
    (ht : Closed table) (hl : Closed label) (hj : ∀ j ∈ joins, j.All Closed)
    (hc : ∀ c ∈ conditions, Closed c) :
    Scans (sourceSql table label joins conditions) (sourcePieces table label joins conditions) := by
  have hfrom := scans_fromSql ht hl hj
  unfold sourceSql sourcePieces conditionsSql
  split
  · exact hfrom
  · exact hfrom.separated (by decide) (.lead (by decide) (.join (by decide) hc))

theorem names_sourcePieces (table label : String) (joins : List Join) (conditions : List String) :
    names (sourcePieces table label joins conditions) =
      placeholders table ++ placeholders label ++ joins.flatMap Join.placeholders ++
        conditions.flatMap placeholders := by
  unfold sourcePieces
  split
  · next h => rw [names_fromPieces, h, List.flatMap_nil, List.append_nil]
  · rw [names_append, names_append, names_append, names_chars, names_chars, List.append_nil,
      List.nil_append, names_fromPieces, names_intercalate_scan]

/-! ## ordering -/

def orderingPieces (columns : List String) (direction : Direction) : List Piece :=
  if columns = [] then chars "ORDER BY 1"
  else chars "ORDER BY " ++
    List.intercalate (chars ", ") (columns.map fun c => scan c ++ chars " " ++ chars direction.sql)

theorem scans_orderingSql {columns : List String} (direction : Direction)
    (h : ∀ c ∈ columns, Closed c) :
    Scans (orderingSql columns direction) (orderingPieces columns direction) := by
  have hd : Plain direction.sql := by cases direction <;> decide
  have hitem : ∀ c ∈ columns, Scans (c ++ " " ++ direction.sql)
      (scan c ++ chars " " ++ chars direction.sql) := fun c hc =>
    (Scans.self (h c hc)).separated (by decide) (.plain hd)
  have hmap : (columns.map fun c => c ++ " " ++ direction.sql).map scan =
      columns.map fun c => scan c ++ chars " " ++ chars direction.sql := by
    rw [List.map_map]
    exact List.map_congr_left fun c hc => (hitem c hc).scan_eq
  unfold orderingSql orderingPieces
  split
  · exact .plain (by decide)
  · rw [← hmap]
    refine .lead (by decide) (.join (by decide) fun s hs => ?_)
    obtain ⟨c, hc, rfl⟩ := List.mem_map.mp hs
    exact (hitem c hc).closed

theorem names_orderingPieces (columns : List String) (direction : Direction) :
    names (orderingPieces columns direction) = columns.flatMap placeholders := by
  unfold orderingPieces
  split
  · next h => rw [h, names_chars, List.flatMap_nil]
  · rw [names_append, names_chars, List.nil_append, names_intercalate (names_chars _),
      List.flatMap_map]
    refine List.flatMap_congr fun c _ => ?_
    rw [names_append, names_append, names_chars, names_chars, List.append_nil, List.append_nil]
    rfl

/-! ## statements -/

theorem windowSql_eq (statement offset size : String) :
    windowSql statement offset size = statement ++ " OFFSET " ++ ("@" ++ offset) ++
      " ROWS FETCH NEXT " ++ ("@" ++ size) ++ " ROWS ONLY" := by
  have ho : " OFFSET @" = " OFFSET " ++ "@" := by decide
  have hs : " ROWS FETCH NEXT @" = " ROWS FETCH NEXT " ++ "@" := by decide
  rw [windowSql, ho, hs]
  simp only [String.append_assoc]

/-- a statement cut down to one page -/
def windowPieces (ps : List Piece) (offset size : String) : List Piece :=
  ps ++ chars " OFFSET " ++ [.name offset.toList] ++ chars " ROWS FETCH NEXT " ++
    [.name size.toList] ++ chars " ROWS ONLY"

theorem scans_windowSql {statement offset size : String} {ps : List Piece} (h : Scans statement ps)
    (ho : isName offset.toList = true) (hs : isName size.toList = true) :
    Scans (windowSql statement offset size) (windowPieces ps offset size) := by
  rw [windowSql_eq]
  have hoffset := h.separated (by decide : Separator " OFFSET ") (.placeholder ho)
  have hsize := hoffset.separated (by decide : Separator " ROWS FETCH NEXT ") (.placeholder hs)
  exact hsize.trailing (by decide) (by decide)

theorem names_windowPieces (ps : List Piece) (offset size : String) :
    names (windowPieces ps offset size) = names ps ++ [offset.toList, size.toList] := by
  unfold windowPieces
  simp only [names_append, names_chars, List.append_nil, List.append_assoc]
  rfl

namespace Query

def sourcePieces (q : Query) : List Piece :=
  PagedSql.sourcePieces q.table q.label q.joins q.conditions

def rowsPieces (q : Query) : List Piece :=
  chars "SELECT " ++ projectionPieces q.projection q.label ++ chars " " ++ q.sourcePieces ++
    chars " " ++ orderingPieces q.ordering q.direction

def countPieces (q : Query) : List Piece := chars "SELECT COUNT(1) " ++ q.sourcePieces

section
variable {q : Query} (h : q.All Closed)
include h

theorem scans_source : Scans q.source q.sourcePieces :=
  scans_sourceSql h.table h.label h.joins h.conditions

theorem scans_rowsSql : Scans q.rowsSql q.rowsPieces := by
  have hp := Scans.lead (by decide : Lead "SELECT ") (scans_projectionSql h.projection h.label)
  have hs := hp.separated (by decide : Separator " ") (scans_source h)
  exact hs.separated (by decide) (scans_orderingSql q.direction h.ordering)

theorem scans_countSql : Scans q.countSql q.countPieces := .lead (by decide) (scans_source h)

end

/-- names of the projection, from the label if there is no projection -/
def projected (q : Query) : List (List Char) :=
  if q.projection = [] then placeholders q.label else q.projection.flatMap placeholders

/-- names of tables, joins and conditions -/
def sourced (q : Query) : List (List Char) :=
  placeholders q.table ++ placeholders q.label ++ q.joins.flatMap Join.placeholders ++
    q.conditions.flatMap placeholders

theorem names_rowsPieces (q : Query) :
    names q.rowsPieces = q.projected ++ q.sourced ++ q.ordering.flatMap placeholders := by
  unfold rowsPieces sourcePieces projected sourced
  simp only [names_append, names_chars, names_projectionPieces, names_sourcePieces,
    names_orderingPieces, List.nil_append, List.append_nil]

theorem names_countPieces (q : Query) : names q.countPieces = q.sourced := by
  rw [countPieces, names_append, names_chars, List.nil_append]
  exact names_sourcePieces _ _ _ _

end Query
end PagedSql

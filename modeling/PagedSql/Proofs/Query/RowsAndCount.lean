import PagedSql.Query.Statement
import PagedSql.Proofs.Placeholder.Numbering

/-!
# Rows and count are read from one source

The two statements of a query are numbered one by one, and the projection may use up numbers that the
count does not know.  Still the source of both is one text to the reader of the database: the
positions of the count have counterparts among the positions of the rows, with the same values.

* `Query.head`   the statement for the rows in front of its source;
* `Query.tail`   what follows the source;
* `scan_windowSql`, `scan_countSql`   the source is cut into the same pieces in both statements.
-/

namespace PagedSql

namespace Query

def head (q : Query) : String := "SELECT " ++ projectionSql q.projection q.label

def tail (q : Query) (offset size : String) : String :=
  " " ++ windowSql (orderingSql q.ordering q.direction) offset size

theorem windowSql_rowsSql (q : Query) (offset size : String) :
    windowSql q.rowsSql offset size = q.head ++ " " ++ (q.source ++ q.tail offset size) := by
  simp only [windowSql, rowsSql, head, tail, String.append_assoc]

theorem breaksFirst_tail (q : Query) (offset size : String) :
    BreaksFirst (q.tail offset size).toList := by
  have h : Separator " " := by decide
  exact h.breaksFirst _

/-- the scan behind the source; it may still be inside of quotes -/
def tailPieces (q : Query) (offset size : String) : List Piece :=
  pieces (resume (quoteAfter none q.source.toList)) (q.tail offset size).toList

theorem scan_source_tail (q : Query) (offset size : String) :
    scan (q.source ++ q.tail offset size) = scan q.source ++ q.tailPieces offset size := by
  unfold scan
  rw [String.toList_append, pieces_append (q.breaksFirst_tail offset size)]
  rfl

theorem scan_windowSql (q : Query) (offset size : String)
    (hp : Closed (projectionSql q.projection q.label)) :
    scan (windowSql q.rowsSql offset size) =
      scan q.head ++ chars " " ++ (scan q.source ++ q.tailPieces offset size) := by
  have hl : Lead "SELECT " := by decide
  have hc : Closed q.head := hl.plain.closed.append hp
  rw [windowSql_rowsSql, scan_separated hc (by decide), scan_source_tail]

theorem scan_countSql (q : Query) :
    scan q.countSql = chars "SELECT COUNT(1) " ++ scan q.source :=
  scan_lead (by decide) _

theorem placeholders_countSql (q : Query) : placeholders q.countSql = placeholders q.source := by
  unfold placeholders
  rw [scan_countSql, names_append, names_chars, List.nil_append]

section
variable {q : Query} (hp : Closed (projectionSql q.projection q.label)) (offset size : String)
include hp

theorem placeholders_windowSql : placeholders (windowSql q.rowsSql offset size) =
    placeholders q.head ++ (placeholders q.source ++ names (q.tailPieces offset size)) := by
  unfold placeholders
  rw [scan_windowSql q offset size hp, names_append, names_append, names_append, names_chars,
    List.append_nil]

theorem marks_windowSql (names : List (List Char)) :
    marks names (windowSql q.rowsSql offset size) =
      marks names q.head ++ (chars " ").map (Piece.mark names) ++
        (marks names q.source ++ (q.tailPieces offset size).map (Piece.mark names)) := by
  unfold marks
  rw [scan_windowSql q offset size hp, List.map_append, List.map_append, List.map_append]

theorem mem_order_windowSql {n : List Char}
    (h : n ∈ placeholders q.head ∨ n ∈ placeholders q.source) :
    n ∈ order (windowSql q.rowsSql offset size) := by
  rw [mem_order, placeholders_windowSql hp]
  rcases h with h | h
  · exact List.mem_append_left _ h
  · exact List.mem_append_right _ (List.mem_append_left _ h)

end

theorem mem_order_countSql {q : Query} {n : List Char} :
    n ∈ order q.countSql ↔ n ∈ placeholders q.source := by
  rw [mem_order, q.placeholders_countSql]

theorem marks_countSql (q : Query) (names : List (List Char)) :
    marks names q.countSql =
      (chars "SELECT COUNT(1) ").map (Piece.mark names) ++ marks names q.source := by
  unfold marks
  rw [scan_countSql, List.map_append]

end Query

/-- **Rows and count describe the same rows once they are numbered.**  If the rows of a page can be
numbered, so can the count; every position of the count goes to one of the rows' own, no two to the
same, and carries the same value; and the source in the rows is the source in the count with each
position replaced by the one it goes to.  `front` and `body` are the projection and the source with
positions for placeholders: text that merely looks like a position is not touched. -/
theorem rows_and_count_share_source (q : Query) (b : Bindings) (offset size : String)
    (hp : Closed (projectionSql q.projection q.label)) {rows : Numbered}
    (h : numbered (windowSql q.rowsSql offset size) b = .ok rows) :
    ∃ count, numbered q.countSql b = .ok count ∧
      ∃ (f : Nat → Nat) (rowNames countNames : List (List Char)) (front body back : List Mark),
        rows.sql = spell front ++ " " ++ (spell (body.map (Mark.move f)) ++ spell back) ∧
        count.sql = "SELECT COUNT(1) " ++ spell body ∧
        Marks rowNames ("SELECT " ++ projectionSql q.projection q.label) front ∧
        Marks rowNames q.source (body.map (Mark.move f)) ∧
        Marks countNames q.source body ∧
        (∀ k, Mark.place k ∈ body → k < count.values.length) ∧
        Set.InjOn f {k | k < count.values.length} ∧
        ∀ k < count.values.length,
          f k < rows.values.length ∧ rows.values[f k]? = count.values[k]? := by
  obtain ⟨hrows, hr⟩ := numbered_eq_ok_iff.mp h
  have hlarge : ∀ n ∈ placeholders q.source, n ∈ order (windowSql q.rowsSql offset size) :=
    fun _ hn => Query.mem_order_windowSql hp offset size (Or.inr hn)
  have hfront : ∀ n ∈ placeholders q.head, n ∈ order (windowSql q.rowsSql offset size) :=
    fun _ hn => Query.mem_order_windowSql hp offset size (Or.inl hn)
  have hsmall : ∀ n ∈ placeholders q.source, n ∈ order q.countSql :=
    fun _ hn => Query.mem_order_countSql.mpr hn
  have hsub : ∀ n ∈ order q.countSql, n ∈ order (windowSql q.rowsSql offset size) :=
    fun n hn => hlarge n (Query.mem_order_countSql.mp hn)
  have hcount : ∀ n ∈ placeholders q.countSql, b.Binds n :=
    fun n hn => hrows n (mem_order.mp (hsub n (mem_order.mpr hn)))
  generalize order (windowSql q.rowsSql offset size) = large at hr hlarge hfront hsub
  have hnum := numbered_eq hcount
  have hnodup := nodup_order q.countSql
  generalize order q.countSql = small at hnum hnodup hsmall hsub
  have hmove : (marks small q.source).map (Mark.move (transfer small large)) = marks large q.source :=
    map_move_mark large hsmall
  refine ⟨_, hnum, transfer small large, large, small, marks large q.head, marks small q.source,
    (q.tailPieces offset size).map (Piece.mark large), ?_, ?_, map_piece_mark hfront, ?_,
    map_piece_mark hsmall, ?_, ?_, ?_⟩
  · rw [hr, hmove]
    show spell (marks large (windowSql q.rowsSql offset size)) = _
    rw [Query.marks_windowSql hp, spell_append, spell_append, spell_append, spell_chars]
  · show spell (marks small q.countSql) = _
    rw [q.marks_countSql, spell_append, spell_chars]
  · rw [hmove]
    exact map_piece_mark hlarge
  · intro k hk
    rw [List.length_map]
    exact lt_length_of_place_mem hsmall hk
  · rw [List.length_map]
    exact transfer_injOn hsub hnodup
  · intro k hk
    rw [List.length_map] at hk
    rw [hr, List.length_map]
    refine ⟨transfer_lt hsub hk, ?_⟩
    rw [List.getElem?_map, List.getElem?_map, getElem?_transfer hsub hk]

/-- a query whose projection uses up the first number -/
def projectedQuery : Query where
  table := "T"
  label := "t"
  projection := ["@b,'@'"]
  joins := []
  conditions := ["(x=@a)", "(y='$1'OR z=@b)"]
  ordering := []
  direction := .asc
  parameters := ⟨[("a", .bool true), ("b", .bool false), ("o", .null), ("n", .null)]⟩
  counter := 0

def projectedRows : Numbered where
  sql := "SELECT $1,'@' FROM T AS t WHERE (x=$2) AND (y='$1'OR z=$1) ORDER BY 1 OFFSET $3 ROWS FETCH NEXT $4 ROWS ONLY"
  values := [.bool false, .bool true, .null, .null]

/-- the first two positions change places between the two statements -/
theorem rows_and_count_of_projectedQuery :
    Closed (projectionSql projectedQuery.projection projectedQuery.label) ∧
      numbered (windowSql projectedQuery.rowsSql "o" "n") projectedQuery.parameters =
        .ok projectedRows ∧
      ∃ count, numbered projectedQuery.countSql projectedQuery.parameters = .ok count ∧
        ∃ f : Nat → Nat, Set.InjOn f {k | k < count.values.length} ∧
          ∀ k < count.values.length,
            f k < projectedRows.values.length ∧ projectedRows.values[f k]? = count.values[k]? := by
  have hp : Closed (projectionSql projectedQuery.projection projectedQuery.label) := by
    decide +kernel
  have h : numbered (windowSql projectedQuery.rowsSql "o" "n") projectedQuery.parameters =
      .ok projectedRows := by
    decide +kernel
  obtain ⟨count, hc, f, _, _, _, _, _, _, _, _, _, _, _, hf, hv⟩ :=
    rows_and_count_share_source projectedQuery projectedQuery.parameters "o" "n" hp h
  exact ⟨hp, h, count, hc, f, hf, hv⟩

end PagedSql

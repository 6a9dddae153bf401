import PagedSql.Proofs.Query.Layer
import PagedSql.Proofs.Filter.Condition

/-!
# The text of a layer, piece by piece

* `isName_madeName`     a stem and a number make a name;
* `scans_restriction`   a condition in parentheses has the pieces of the trimmed condition;
* `searchPieces`        the pieces of a search: its columns, and one placeholder again and again;
* `names_searchPieces`  the names in it.
-/

namespace PagedSql
open PagedSql.Text PagedSql.Decimal

theorem isName_madeName {stem : String} (h : isName stem.toList = true) (k : Nat) :
    isName (madeName stem k).toList = true :=
  isName_underscore h (all_isNameChar_natText k)

theorem isName_searchName (k : Nat) : isName (madeName "search" k).toList = true :=
  isName_madeName (by decide) k

theorem isName_filterName (k : Nat) : isName (madeName "filter" k).toList = true :=
  isName_madeName (by decide) k

/-! ## conditions in parentheses -/

def restrictionPieces (condition : String) : List Piece :=
  chars "(" ++ scan (trim condition) ++ chars ")"

section
variable {condition : String} (h : Closed condition)
include h

theorem scans_restriction :
    Scans ("(" ++ trim condition ++ ")") (restrictionPieces condition) := by
  have hlead : Scans ("(" ++ trim condition) (chars "(" ++ scan (trim condition)) :=
    .lead (by decide) (.self h.trim)
  exact hlead.trailing (by decide) (by decide)

theorem names_restrictionPieces : names (restrictionPieces condition) = placeholders condition := by
  unfold restrictionPieces
  rw [names_append, names_append, names_chars, names_chars, List.nil_append, List.append_nil]
  exact placeholders_trim h

end

/-! ## search -/

theorem searchCondition_eq (name : String) (columns : List String) :
    Query.searchCondition name columns =
      join " OR " (columns.map fun c => "LOWER(" ++ c ++ ") LIKE " ++ ("@" ++ name)) := by
  have h : ") LIKE @" = ") LIKE " ++ "@" := by decide
  unfold Query.searchCondition
  refine congrArg (join " OR ") (List.map_congr_left fun c _ => ?_)
  rw [h]
  simp only [String.append_assoc]

/-- one column of a search -/
def columnPieces (name column : String) : List Piece :=
  chars "LOWER(" ++ scan column ++ chars ") LIKE " ++ [.name name.toList]

def searchPieces (name : String) (columns : List String) : List Piece :=
  List.intercalate (chars " OR ") (columns.map (columnPieces name))

section
variable {name : String} (hn : isName name.toList = true)
include hn

theorem scans_column {column : String} (h : Closed column) :
    Scans ("LOWER(" ++ column ++ ") LIKE " ++ ("@" ++ name)) (columnPieces name column) := by
  have hlead : Scans ("LOWER(" ++ column) (chars "LOWER(" ++ scan column) :=
    .lead (by decide) (.self h)
  exact hlead.separated (by decide) (.placeholder hn)

theorem scans_searchCondition {columns : List String} (h : ∀ c ∈ columns, Closed c) :
    Scans (Query.searchCondition name columns) (searchPieces name columns) := by
  have hmap : (columns.map fun c => "LOWER(" ++ c ++ ") LIKE " ++ ("@" ++ name)).map scan =
      columns.map (columnPieces name) := by
    rw [List.map_map]
    exact List.map_congr_left fun c hc => (scans_column hn (h c hc)).scan_eq
  unfold searchPieces
  rw [searchCondition_eq, ← hmap]
  refine Scans.join (by decide) fun s hs => ?_
  obtain ⟨c, hc, rfl⟩ := List.mem_map.mp hs
  exact (scans_column hn (h c hc)).closed

end

theorem names_searchPieces (name : String) (columns : List String) :
    names (searchPieces name columns) =
      columns.flatMap fun c => placeholders c ++ [name.toList] := by
  unfold searchPieces
  rw [names_intercalate (names_chars _), List.flatMap_map]
  refine List.flatMap_congr fun c _ => ?_
  unfold columnPieces
  rw [names_append, names_append, names_append, names_chars, names_chars, List.nil_append,
    List.append_nil]
  rfl

end PagedSql

import PagedSql.Filter.Test
import PagedSql.Proofs.Placeholder.Parts

/-!
# Conditions of tests, piece by piece

* `isName_append`          names go on with name characters, the digits of a number among them;
* `Test.pieces`            the pieces that a test adds to those of its column;
* `Test.scans_condition`   the scan of its condition;
* `Test.names_pieces`      the placeholders are the names of the parameters, in their order.
-/

namespace PagedSql
open PagedSql.Text PagedSql.Decimal

/-! ## names that are made up -/

theorem isName_append {a b : List Char} (ha : isName a = true) (hb : b.all isNameChar = true) :
    isName (a ++ b) = true := by
  cases a with
  | nil => exact absurd ha (by decide)
  | cons c cs =>
    unfold isName at ha
    rw [Bool.and_eq_true] at ha
    rw [List.cons_append, isName, ha.1, List.all_append, ha.2, hb]
    rfl

theorem all_isNameChar_natText (n : Nat) : (natText n).toList.all isNameChar = true := by
  refine List.all_eq_true.mpr fun c hc => ?_
  rw [toList_natText] at hc
  exact isNameChar_of_mem_toDigits hc

theorem isName_underscore {base : String} (h : isName base.toList = true) {suffix : String}
    (hs : suffix.toList.all isNameChar = true) :
    isName (base ++ "_" ++ suffix).toList = true := by
  rw [String.toList_append, String.toList_append]
  exact isName_append (isName_append h (by decide)) hs

namespace Test

/-! ## pieces -/

/-- the names of a list, with commas between them -/
def listPieces (names : List (List Char)) : List Piece :=
  List.intercalate (chars ", ") (names.map fun n => [.name n])

def pieces (base : String) : Test → List Piece
  | compare c _ => chars (" " ++ c.sql ++ " ") ++ [.name base.toList]
  | pattern _ => chars " LIKE " ++ [.name base.toList]
  | oneOf positive vs =>
    chars (if positive then " IN (" else " NOT IN (") ++
      listPieces ((numberedFrom base 0 vs).map fun e => e.1.toList) ++ chars ")"
  | missing positive => chars (if positive then " IS NULL" else " IS NOT NULL")
  | range _ _ =>
    chars " BETWEEN " ++ [.name (base ++ "_from").toList] ++ chars " AND " ++
      [.name (base ++ "_to").toList]

theorem condition_compare (base column : String) (c : Comparison) (v : Value) :
    condition base column (.compare c v) = column ++ (" " ++ c.sql ++ " ") ++ ("@" ++ base) := by
  have h : " @" = " " ++ "@" := by decide
  rw [condition, h]
  simp only [String.append_assoc]

theorem condition_pattern (base column text : String) :
    condition base column (.pattern text) = column ++ " LIKE " ++ ("@" ++ base) := by
  have h : " LIKE @" = " LIKE " ++ "@" := by decide
  rw [condition, h]
  simp only [String.append_assoc]

theorem condition_range (base column : String) (low high : Value) :
    condition base column (.range low high) =
      column ++ " BETWEEN " ++ ("@" ++ (base ++ "_from")) ++ " AND " ++ ("@" ++ (base ++ "_to")) := by
  have h : " BETWEEN @" = " BETWEEN " ++ "@" := by decide
  have h' : "_from AND @" = "_from" ++ " AND " ++ "@" := by decide
  rw [condition, h, h']
  simp only [String.append_assoc]

theorem isName_numberedFrom {base : String} (h : isName base.toList = true) (i : Nat)
    (vs : List Value) : ∀ e ∈ numberedFrom base i vs, isName e.1.toList = true := by
  intro e he
  obtain ⟨k, hname⟩ := exists_of_mem_numberedFrom (List.mem_map_of_mem he)
  rw [hname]
  exact isName_underscore h (all_isNameChar_natText k)

theorem scans_list {es : List (String × Value)} (h : ∀ e ∈ es, isName e.1.toList = true) :
    Scans (join ", " (es.map fun (name, _) => "@" ++ name))
      (listPieces (es.map fun e => e.1.toList)) := by
  have hmap : (es.map fun (name, _) => "@" ++ name).map scan =
      (es.map fun e => e.1.toList).map fun n => [.name n] := by
    rw [List.map_map, List.map_map]
    exact List.map_congr_left fun e he => scan_placeholder (h e he)
  unfold listPieces
  rw [← hmap]
  refine Scans.join (by decide) fun s hs => ?_
  obtain ⟨e, he, rfl⟩ := List.mem_map.mp hs
  exact closed_placeholder (h e he)

theorem scans_condition {base column : String} (test : Test)
    (hb : test.needsName = true → isName base.toList = true) (hc : Closed column) :
    Scans (test.condition base column) (scan column ++ test.pieces base) := by
  have hcol := Scans.self hc
  cases test with
  | compare c v =>
    have hs : Separator (" " ++ c.sql ++ " ") := by cases c <;> decide
    rw [condition_compare, pieces, ← List.append_assoc]
    exact hcol.separated hs (.placeholder (hb rfl))
  | pattern text =>
    rw [condition_pattern, pieces, ← List.append_assoc]
    exact hcol.separated (by decide) (.placeholder (hb rfl))
  | oneOf positive vs =>
    have hs : Separator (if positive then " IN (" else " NOT IN (") := by cases positive <;> decide
    have hlist := scans_list (isName_numberedFrom (hb rfl) 0 vs)
    rw [condition, pieces, ← List.append_assoc, ← List.append_assoc]
    exact (hcol.separated hs hlist).trailing (by decide) (by decide)
  | missing positive =>
    rw [condition, pieces]
    cases positive
    · exact hcol.trailing (by decide) (by decide)
    · exact hcol.trailing (by decide) (by decide)
  | range low high =>
    have hn := hb rfl
    have hlow : isName (base ++ "_from").toList = true := by
      rw [String.toList_append]
      exact isName_append hn (by decide)
    have hhigh : isName (base ++ "_to").toList = true := by
      rw [String.toList_append]
      exact isName_append hn (by decide)
    rw [condition_range, pieces, ← List.append_assoc, ← List.append_assoc, ← List.append_assoc]
    have h := hcol.separated (by decide : Separator " BETWEEN ") (.placeholder hlow)
    exact h.separated (by decide) (.placeholder hhigh)

/-! ## names -/

theorem names_listPieces (ns : List (List Char)) : names (listPieces ns) = ns := by
  unfold listPieces
  rw [names_intercalate (names_chars _), List.flatMap_map]
  induction ns with
  | nil => rfl
  | cons n ns ih => exact congrArg (n :: ·) ih

theorem names_pieces (base : String) (test : Test) :
    names (test.pieces base) = (test.parameters base).map fun e => e.1.toList := by
  cases test with
  | compare c v => rw [pieces, names_append, names_chars]; rfl
  | pattern text => rw [pieces, names_append, names_chars]; rfl
  | oneOf positive vs =>
    rw [pieces, names_append, names_append, names_chars, names_chars, names_listPieces,
      List.append_nil, List.nil_append]
    rfl
  | missing positive => exact names_chars _
  | range low high =>
    rw [pieces, names_append, names_append, names_append, names_chars, names_chars]
    rfl

end Test
end PagedSql

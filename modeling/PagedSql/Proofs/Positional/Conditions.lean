import PagedSql.Proofs.Filter.Form
import PagedSql.Proofs.Positional.Compiler
import PagedSql.Proofs.Query.LayerNames

/-!
# Conditions with positions

A test has a text with positions of its own, and two ways lead to it: the condition that is written
without names, and the condition with names once they are numbered.

* `Test.at`             the text and the values of a test, from a position on;
* `condition_eq_at`     the compiler writes it, `spelled_condition` the numbering does;
* `spelled_searchCondition`   the same for a search;
* `trim_condition_ne`   no such condition is blank.
-/

namespace PagedSql
open PagedSql.Text

def Test.at (k : Nat) (column : String) : Test → Numbered
  | compare c v => ⟨column ++ " " ++ c.sql ++ " " ++ positionText k, [v]⟩
  | pattern text => ⟨column ++ " LIKE " ++ positionText k, [.text text]⟩
  | oneOf positive vs =>
    ⟨column ++ " " ++ (if positive then "IN" else "NOT IN") ++ " (" ++
      join ", " ((List.range' k vs.length).map positionText) ++ ")", vs⟩
  | missing positive => ⟨column ++ if positive then " IS NULL" else " IS NOT NULL", []⟩
  | range low high =>
    ⟨column ++ " BETWEEN " ++ positionText k ++ " AND " ++ positionText (k + 1), [low, high]⟩

/-! ## without names -/

section
variable {kind : Kind} {raw : String} {test : Test}

theorem readAll_of_reads {raws : List String} {vs : List Value}
    (h : raws.map kind.read = vs.map some) : Positional.readAll kind raws = some vs := by
  induction raws generalizing vs with
  | nil =>
    obtain rfl := List.map_eq_nil_iff.mp h.symm
    rfl
  | cons raw raws ih =>
    obtain ⟨v, vs, rfl, hv, hvs⟩ := List.map_eq_cons_iff.mp h.symm
    have hread : kind.read raw = some v := hv.symm
    rw [Positional.readAll, hread, ih hvs.symm]

theorem comparison_eq_at (c : Comparison) (k : Nat) (column : String)
    (h : Test.ofComparison c kind raw = .ok test) :
    Positional.comparison k column c.sql kind raw = some (test.at k column) := by
  unfold Test.ofComparison at h
  split at h
  · cases h
  · next v hv =>
    cases h
    rw [Positional.comparison, convert_eq_ok hv]
    rfl

theorem list_eq_at (op : Operator) (positive : Bool) (k : Nat) (column : String)
    (h : Test.ofList op positive kind raw = .ok test) :
    Positional.list k column (if positive then "IN" else "NOT IN") kind raw =
      some (test.at k column) := by
  simp only [Test.ofList] at h
  unfold Positional.list
  by_cases hnone : Positional.entries raw = []
  · rw [if_pos (show (listed raw).filter (· ≠ "") = [] from hnone)] at h
    cases h
  · rw [if_neg (show ¬ (listed raw).filter (· ≠ "") = [] from hnone)] at h
    rw [if_neg hnone]
    split at h
    · cases h
    · next vs hvs =>
      cases h
      have hread : Positional.readAll kind (Positional.entries raw) = some vs :=
        readAll_of_reads (reads_of_convertAll hvs)
      rw [hread]
      rfl

theorem range_eq_at (k : Nat) (column : String) (h : Test.ofRange kind raw = .ok test) :
    Positional.range k column kind raw = some (test.at k column) := by
  unfold Test.ofRange listed at h
  unfold Positional.range
  generalize (splitOn ',' raw).map trim = parts at h ⊢
  rcases parts with _ | ⟨low, _ | ⟨high, _ | ⟨more, rest⟩⟩⟩
  · cases h
  · cases h
  · dsimp only at h ⊢
    by_cases hblank : low = "" ∨ high = ""
    · rw [if_pos hblank] at h
      cases h
    · rw [if_neg hblank] at h ⊢
      cases hlo : convert kind low with
      | error fault =>
        rw [hlo] at h
        cases h
      | ok lo =>
        rw [hlo] at h
        cases hhi : convert kind high with
        | error fault =>
          rw [hhi] at h
          cases h
        | ok hi =>
          rw [hhi] at h
          cases h
          rw [convert_eq_ok hlo, convert_eq_ok hhi]
          rfl
  · cases h

/-- the condition of an operator is the test that the operator stands for -/
theorem condition_eq_at (k : Nat) (column : String) {op : Operator}
    (h : Test.ofFilter op kind raw = .ok test) :
    Positional.condition k column kind raw op = some (test.at k column) := by
  cases op with
  | eq => exact comparison_eq_at .eq k column h
  | neq => exact comparison_eq_at .neq k column h
  | gt => exact comparison_eq_at .gt k column h
  | gte => exact comparison_eq_at .gte k column h
  | lt => exact comparison_eq_at .lt k column h
  | lte => exact comparison_eq_at .lte k column h
  | contains =>
    cases h
    rfl
  | startsWith =>
    cases h
    rfl
  | endsWith =>
    cases h
    rfl
  | isIn => exact list_eq_at .isIn true k column h
  | notIn => exact list_eq_at .notIn false k column h
  | isNull =>
    cases h
    rfl
  | isNotNull =>
    cases h
    rfl
  | between => exact range_eq_at k column h

end

/-! ## with names -/

theorem values_at (k : Nat) (base column : String) (test : Test) :
    (test.at k column).values = (test.parameters base).map Prod.snd := by
  cases test with
  | compare c v => rfl
  | pattern text => rfl
  | oneOf positive vs => exact (Test.map_snd_numberedFrom base 0 vs).symm
  | missing positive => rfl
  | range low high => rfl

section
variable {order : List (List Char)}

theorem spelled_listPieces (ns : List (List Char)) : spelled order (Test.listPieces ns) =
    join ", " ((ns.map order.idxOf).map positionText) := by
  unfold Test.listPieces
  rw [spelled_intercalate, List.map_map, List.map_map]
  refine congrArg (join ", ") (List.map_congr_left fun n _ => ?_)
  exact spelled_name order n

/-- the condition of a test whose names stand at the places from `k` on -/
theorem spelled_condition {base column : String} (hc : Inert column) (test : Test) {k : Nat}
    (hplaces : ((test.parameters base).map fun e => e.1.toList).map order.idxOf =
      List.range' k (test.parameters base).length) :
    spelled order (scan column ++ test.pieces base) = (test.at k column).sql := by
  rw [spelled_append, hc.spelled_eq]
  cases test with
  | compare c v =>
    have hk : order.idxOf base.toList = k := (List.cons.inj hplaces).1
    rw [Test.pieces, spelled_append, spelled_chars, spelled_name, hk, Test.at]
    simp only [String.append_assoc]
  | pattern text =>
    have hk : order.idxOf base.toList = k := (List.cons.inj hplaces).1
    rw [Test.pieces, spelled_append, spelled_chars, spelled_name, hk, Test.at]
    simp only [String.append_assoc]
  | oneOf positive vs =>
    have hword : (if positive then " IN (" else " NOT IN (") =
        " " ++ (if positive then "IN" else "NOT IN") ++ " (" := by
      cases positive <;> decide
    rw [Test.parameters, Test.length_numberedFrom] at hplaces
    rw [Test.pieces, spelled_append, spelled_append, spelled_chars, spelled_chars,
      spelled_listPieces, hplaces, hword, Test.at]
    simp only [String.append_assoc]
  | missing positive => rw [Test.pieces, spelled_chars, Test.at]
  | range low high =>
    have hfrom : order.idxOf (base ++ "_from").toList = k := (List.cons.inj hplaces).1
    have hto : order.idxOf (base ++ "_to").toList = k + 1 :=
      (List.cons.inj (List.cons.inj hplaces).2).1
    rw [Test.pieces, spelled_append, spelled_append, spelled_append, spelled_chars, spelled_chars,
      spelled_name, spelled_name, hfrom, hto, Test.at]
    simp only [String.append_assoc]

theorem spelled_searchPieces (name : String) {columns : List String} (h : ∀ c ∈ columns, Inert c) :
    spelled order (searchPieces name columns) =
      join " OR " (columns.map fun c => "LOWER(" ++ c ++ ") LIKE " ++
        positionText (order.idxOf name.toList)) := by
  unfold searchPieces
  rw [spelled_intercalate, List.map_map]
  refine congrArg (join " OR ") (List.map_congr_left fun c hc => ?_)
  show spelled order (columnPieces name c) = _
  unfold columnPieces
  rw [spelled_append, spelled_append, spelled_append, spelled_chars, spelled_chars, spelled_name,
    (h c hc).spelled_eq]

/-- parentheses are put around the trimmed text, with names or with positions -/
theorem spelled_restrictionPieces {condition : String} (h : Closed condition) :
    spelled order (restrictionPieces condition) =
      "(" ++ trim (spelled order (scan condition)) ++ ")" := by
  unfold restrictionPieces
  rw [spelled_append, spelled_append, spelled_chars, spelled_chars, spelled_trim order h]

end

/-! ## not blank -/

theorem mem_toList_placeholder (name : String) : '@' ∈ ("@" ++ name).toList := by
  rw [show ("@" ++ name).toList = '@' :: name.toList from String.toList_append]
  exact List.mem_cons_self

theorem trim_append_ne (a : String) {b : String} {c : Char} (hc : c ∈ b.toList)
    (hb : isBlank c = false) : trim (a ++ b) ≠ "" := by
  refine trim_ne_empty ?_ hb
  rw [String.toList_append]
  exact List.mem_append_right _ hc

theorem trim_condition_ne (base column : String) (test : Test) :
    trim (test.condition base column) ≠ "" := by
  cases test with
  | compare c v =>
    rw [Test.condition_compare]
    exact trim_append_ne _ (mem_toList_placeholder base) (by decide)
  | pattern text =>
    rw [Test.condition_pattern]
    exact trim_append_ne _ (mem_toList_placeholder base) (by decide)
  | oneOf positive vs =>
    rw [Test.condition]
    exact trim_append_ne _ (by decide : ')' ∈ ")".toList) (by decide)
  | missing positive =>
    rw [Test.condition]
    cases positive
    · exact trim_append_ne _ (by decide : 'N' ∈ " IS NOT NULL".toList) (by decide)
    · exact trim_append_ne _ (by decide : 'N' ∈ " IS NULL".toList) (by decide)
  | range low high =>
    rw [Test.condition_range]
    exact trim_append_ne _ (mem_toList_placeholder _) (by decide)

theorem exists_join_cons (sep s : String) (rest : List String) :
    ∃ t, join sep (s :: rest) = s ++ t := by
  cases rest with
  | nil => exact ⟨"", String.append_empty.symm⟩
  | cons t rest =>
    refine ⟨sep ++ join sep (t :: rest), ?_⟩
    rw [join_cons_cons, String.append_assoc]

theorem trim_searchCondition_ne (name : String) {columns : List String} (h : columns ≠ []) :
    trim (Query.searchCondition name columns) ≠ "" := by
  obtain ⟨c, cs, rfl⟩ := List.exists_cons_of_ne_nil h
  obtain ⟨t, ht⟩ := exists_join_cons " OR " ("LOWER(" ++ c ++ ") LIKE @" ++ name)
    (cs.map fun c => "LOWER(" ++ c ++ ") LIKE @" ++ name)
  have hfirst : Query.searchCondition name (c :: cs) =
      "LOWER(" ++ (c ++ (") LIKE @" ++ (name ++ t))) := by
    rw [Query.searchCondition, List.map_cons, ht]
    simp only [String.append_assoc]
  have hmem : 'L' ∈ ("LOWER(" ++ (c ++ (") LIKE @" ++ (name ++ t)))).toList := by
    rw [show ∀ s : String, ("LOWER(" ++ s).toList = "LOWER(".toList ++ s.toList from
      fun s => String.toList_append]
    exact List.mem_append_left _ (by decide)
  rw [hfirst]
  exact trim_ne_empty hmem (by decide)

end PagedSql

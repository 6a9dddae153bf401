import PagedSql.Proofs.Placeholder.Parts

/-!
# Pieces spelled out

Once all names have places in one list, a statement is spelled out piece by piece, and its parts can
be spelled out apart from each other.

* `positionText`       the text of a position;
* `spelled`            the text of pieces with positions for names;
* `Inert`              texts that the numbering leaves as they are;
* `spelled_trim`       a text may be trimmed before or after it is spelled out;
* `map_idxOf_segment`  names that follow each other have places that follow each other;
* `numbered_of_scans`  a statement of known pieces and its values.
-/

namespace PagedSql
open PagedSql.Text PagedSql.Decimal

/-- the text of a position, positions counted from zero -/
def positionText (k : Nat) : String := "$" ++ natText (k + 1)

def spelled (order : List (List Char)) (ps : List Piece) : String :=
  spell (ps.map (Piece.mark order))

/-! ## parts -/

section
variable (order : List (List Char))

theorem spelled_append (ps qs : List Piece) :
    spelled order (ps ++ qs) = spelled order ps ++ spelled order qs := by
  unfold spelled
  rw [List.map_append, spell_append]

theorem spelled_chars (s : String) : spelled order (chars s) = s := spell_chars order s

theorem spelled_name (n : List Char) :
    spelled order [.name n] = positionText (order.idxOf n) := by
  have h : "$".toList = ['$'] := rfl
  unfold spelled spell positionText
  refine String.toList_injective ?_
  rw [String.toList_ofList, String.toList_append, h, toList_natText, List.map_singleton,
    List.flatMap_singleton]
  rfl

theorem spelled_intercalate (sep : String) (pss : List (List Piece)) :
    spelled order (List.intercalate (chars sep) pss) = join sep (pss.map (spelled order)) := by
  induction pss with
  | nil => rfl
  | cons ps pss ih =>
    cases pss with
    | nil => rw [List.intercalate_singleton, List.map_singleton, join_singleton]
    | cons qs pss =>
      rw [List.intercalate_cons_cons, spelled_append, spelled_append, spelled_chars, ih,
        List.map_cons, List.map_cons, List.map_cons, join_cons_cons]

end

/-! ## texts that stay as they are -/

structure Inert (t : String) : Prop where
  closed : Closed t
  names : placeholders t = []

instance (t : String) : Decidable (Inert t) :=
  decidable_of_iff (Closed t ∧ placeholders t = [])
    ⟨fun ⟨hc, hn⟩ => ⟨hc, hn⟩, fun h => ⟨h.closed, h.names⟩⟩

theorem Plain.inert {t : String} (h : Plain t) : Inert t := by
  refine ⟨h.closed, ?_⟩
  rw [placeholders, h.scan_eq, names_chars]

theorem Inert.scan_eq {t : String} (h : Inert t) : scan t = chars t := by
  have hchars := eq_chars_of_names_nil h.names
  rw [scan_source] at hchars
  exact hchars

theorem Inert.spelled_eq {t : String} (h : Inert t) (order : List (List Char)) :
    spelled order (scan t) = t := by
  rw [h.scan_eq, spelled_chars]

theorem Inert.trim {t : String} (h : Inert t) : Inert (trim t) := by
  refine ⟨h.closed.trim, ?_⟩
  rw [placeholders_trim h.closed, h.names]

/-! ## trimming -/

theorem exists_toDigits_concat (n : Nat) :
    ∃ ds d, Nat.toDigits 10 n = ds ++ [d] ∧ isNameChar d = true := by
  rcases List.eq_nil_or_concat (Nat.toDigits 10 n) with hnil | ⟨ds, d, hd⟩
  · exact absurd hnil Nat.toDigits_ne_nil
  · rw [List.concat_eq_append] at hd
    have hmem : d ∈ Nat.toDigits 10 n := hd ▸ List.mem_append_right _ (List.mem_singleton_self d)
    exact ⟨ds, d, hd, isNameChar_of_mem_toDigits hmem⟩

theorem noBlankEnds_spelled (order : List (List Char)) {s : String} (h : NoBlankEnds s.toList) :
    NoBlankEnds (spelled order (scan s)).toList := by
  have hsource := scan_source s
  unfold spelled spell
  rw [String.toList_ofList, List.flatMap_map]
  constructor
  · intro d hd
    cases hps : scan s with
    | nil =>
      rw [hps] at hd
      cases hd
    | cons p ps =>
      rw [hps, List.flatMap_cons] at hd hsource
      cases p with
      | char c =>
        cases hd
        exact h.first d (by rw [← hsource]; rfl)
      | name n =>
        cases hd
        decide
  · intro d hd
    rcases List.eq_nil_or_concat (scan s) with hps | ⟨ps, p, hps⟩
    · rw [hps] at hd
      cases hd
    · rw [List.concat_eq_append] at hps
      rw [hps, List.flatMap_append, List.flatMap_singleton] at hd hsource
      cases p with
      | char c =>
        rw [show (Piece.mark order (.char c)).text = [c] from rfl, List.getLast?_concat] at hd
        cases hd
        refine h.last d ?_
        rw [← hsource]
        exact List.getLast?_concat
      | name n =>
        obtain ⟨ds, e, he, hb⟩ := exists_toDigits_concat (order.idxOf n + 1)
        rw [show (Piece.mark order (.name n)).text = '$' :: Nat.toDigits 10 (order.idxOf n + 1) from rfl,
          he, ← List.cons_append, ← List.append_assoc, List.getLast?_concat] at hd
        cases hd
        exact not_isBlank_of_isNameChar hb

theorem spelled_trim (order : List (List Char)) {s : String} (h : Closed s) :
    spelled order (scan (trim s)) = trim (spelled order (scan s)) := by
  obtain ⟨lead, trail, hl, ht, _, hscan⟩ := exists_scan_trim h
  have hends := noBlankEnds_spelled order (noBlankEnds_trim s)
  rw [hscan, spelled_append, spelled_append, spelled_chars, spelled_chars, trim_padded hl ht,
    trim_of_noBlankEnds hends]

/-! ## places -/

section
variable {α : Type} [BEq α] [LawfulBEq α] {pre ns post : List α}

/-- consecutive places for a segment of a list without repeats -/
theorem map_idxOf_segment (h : (pre ++ ns ++ post).Nodup) :
    ns.map (pre ++ ns ++ post).idxOf = List.range' pre.length ns.length := by
  induction ns generalizing pre with
  | nil => rfl
  | cons n ns ih =>
    have hassoc : pre ++ n :: ns ++ post = pre ++ [n] ++ ns ++ post := by
      rw [List.append_cons]
    have hn : n ∉ pre := by
      intro hmem
      rw [List.append_assoc] at h
      exact (List.nodup_append.mp h).2.2 n hmem n List.mem_cons_self rfl
    have hfirst : (pre ++ n :: ns ++ post).idxOf n = pre.length := by
      rw [List.append_assoc, List.idxOf_append_of_notMem hn, List.cons_append,
        List.idxOf_cons_self, Nat.add_zero]
    have hrest : ns.map (pre ++ n :: ns ++ post).idxOf =
        List.range' (pre.length + 1) ns.length := by
      rw [hassoc] at h ⊢
      rw [ih h, List.length_append, List.length_singleton]
    rw [List.map_cons, hfirst, hrest, List.length_cons, List.range'_succ]

end

/-! ## statements -/

theorem numbered_of_scans {sql : String} {ps : List Piece} {b : Bindings} {order : List (List Char)}
    (h : Scans sql ps) (horder : newNames [] (names ps) = order) (hb : ∀ n ∈ names ps, b.Binds n) :
    numbered sql b = .ok ⟨spelled order ps, order.map b.value⟩ := by
  have hplace : PagedSql.order sql = order := by
    rw [PagedSql.order, h.placeholders_eq, horder]
  have hbound : ∀ n ∈ placeholders sql, b.Binds n := by
    rw [h.placeholders_eq]
    exact hb
  rw [numbered_eq hbound, hplace, marks, h.scan_eq]
  rfl

end PagedSql

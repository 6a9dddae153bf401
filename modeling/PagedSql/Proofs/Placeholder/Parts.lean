import PagedSql.Text.Split
import PagedSql.Proofs.Placeholder.Numbering
import PagedSql.Proofs.Text.Trim

/-!
# The parts of a statement

* `Scans`         a text that ends outside of quotes, and its pieces;
* `Scans.lead`, `Scans.separated`, `Scans.placeholder`, `Scans.join`   the ways in which the text of a
                  statement is put together;
* `exists_scan_trim`   trimming a text takes characters from the ends of its pieces and nothing else.
-/

namespace PagedSql
open PagedSql.Text

structure Scans (s : String) (ps : List Piece) : Prop where
  closed : Closed s
  scan_eq : scan s = ps

namespace Scans

theorem self {s : String} (h : Closed s) : Scans s (scan s) := ⟨h, rfl⟩

theorem plain {s : String} (h : Plain s) : Scans s (chars s) := ⟨h.closed, h.scan_eq⟩

section
variable {a b s : String} {ps qs : List Piece}

theorem append (ha : Scans a ps) (hb : Scans b qs) (h : BreaksFirst b.toList) :
    Scans (a ++ b) (ps ++ qs) := by
  refine ⟨ha.closed.append hb.closed, ?_⟩
  rw [scan_append ha.closed h, ha.scan_eq, hb.scan_eq]

theorem lead (hs : Lead s) (hb : Scans b qs) : Scans (s ++ b) (chars s ++ qs) := by
  refine ⟨hs.plain.closed.append hb.closed, ?_⟩
  rw [scan_lead hs, hb.scan_eq]

theorem separated (ha : Scans a ps) (hs : Separator s) (hb : Scans b qs) :
    Scans (a ++ s ++ b) (ps ++ chars s ++ qs) := by
  refine ⟨(ha.closed.append hs.plain.closed).append hb.closed, ?_⟩
  rw [scan_separated ha.closed hs, ha.scan_eq, hb.scan_eq]

/-- plain text behind a part; it need not end with a break -/
theorem trailing (ha : Scans a ps) (hs : Plain s) (hf : s.toList.head?.map isBreak = some true) :
    Scans (a ++ s) (ps ++ chars s) := by
  refine ha.append (plain hs) ?_
  have h := breaksFirst_of_head? hf []
  rwa [List.append_nil] at h

end

theorem placeholder {n : String} (h : isName n.toList = true) : Scans ("@" ++ n) [.name n.toList] :=
  ⟨closed_placeholder h, scan_placeholder h⟩

theorem join {sep : String} (hs : Separator sep) {ss : List String} (h : ∀ s ∈ ss, Closed s) :
    Scans (Text.join sep ss) (List.intercalate (chars sep) (ss.map scan)) := by
  induction ss with
  | nil => exact ⟨rfl, rfl⟩
  | cons s ss ih =>
    have hself := self (h s List.mem_cons_self)
    cases ss with
    | nil =>
      rw [List.map_singleton, List.intercalate_singleton]
      exact hself
    | cons t ss =>
      rw [join_cons_cons, List.map_cons, List.map_cons, List.intercalate_cons_cons]
      exact hself.separated hs (ih fun u hu => h u (List.mem_cons_of_mem _ hu))

end Scans

/-! ## names in parts -/

theorem Scans.placeholders_eq {s : String} {ps : List Piece} (h : Scans s ps) :
    placeholders s = names ps := by
  rw [placeholders, h.scan_eq]

/-- a separator without names leaves the names of the parts -/
theorem names_intercalate {sep : List Piece} (hs : names sep = []) (pss : List (List Piece)) :
    names (List.intercalate sep pss) = pss.flatMap names := by
  induction pss with
  | nil => rfl
  | cons ps pss ih =>
    cases pss with
    | nil => simp [List.intercalate_singleton]
    | cons qs pss =>
      rw [List.intercalate_cons_cons, names_append, names_append, hs, List.append_nil, ih]
      rfl

/-! ## trimmed parts -/

theorem not_isAlphanum_of_isBlank {c : Char} (h : isBlank c = true) : c.isAlphanum = false := by
  have hA : 'A'.val.toNat = 65 := rfl
  have hZ : 'Z'.val.toNat = 90 := rfl
  have ha : 'a'.val.toNat = 97 := rfl
  have hz : 'z'.val.toNat = 122 := rfl
  have h0 : '0'.val.toNat = 48 := rfl
  have h9 : '9'.val.toNat = 57 := rfl
  simp only [isBlank, Bool.or_eq_true, Bool.and_eq_true, decide_eq_true_eq, Char.toNat] at h
  show ((decide (c.val ≥ 'A'.val ∧ c.val ≤ 'Z'.val) || (c.val ≥ 'a'.val && c.val ≤ 'z'.val)) ||
    (c.val ≥ '0'.val && c.val ≤ '9'.val)) = false
  simp only [Bool.or_eq_false_iff, Bool.and_eq_false_iff, decide_eq_false_iff_not,
    UInt32.le_iff_toNat_le, ge_iff_le]
  omega

theorem isBreak_of_isBlank {c : Char} (h : isBlank c = true) : isBreak c = true := by
  have hne : c ≠ '@' := by
    rintro rfl
    exact absurd h (by decide)
  have hne' : c ≠ '_' := by
    rintro rfl
    exact absurd h (by decide)
  simp [isBreak, isNameChar, not_isAlphanum_of_isBlank h, hne, hne']

theorem not_isBlank_of_isNameChar {c : Char} (h : isNameChar c = true) : isBlank c = false := by
  cases hb : isBlank c with
  | false => rfl
  | true =>
    rw [not_isNameChar_of_isBreak (isBreak_of_isBlank hb)] at h
    cases h

theorem isPlain_of_isBlank {c : Char} (h : isBlank c = true) : isPlain c = true := by
  have hq : isQuote c = false := by
    cases hc : isQuote c with
    | false => rfl
    | true =>
      have hcc : c = '\'' ∨ c = '"' := by simpa [isQuote] using hc
      rcases hcc with rfl | rfl <;> exact absurd h (by decide)
  unfold isPlain
  rw [hq, bne_iff_ne.mpr (ne_at_of_isBreak (isBreak_of_isBlank h))]
  rfl

section
variable {s : String} (h : AllBlank s.toList)
include h

theorem AllBlank.plain : Plain s :=
  List.all_eq_true.mpr fun c hc => isPlain_of_isBlank (h c hc)

theorem AllBlank.breaksFirst : BreaksFirst s.toList := by
  cases hs : s.toList with
  | nil => trivial
  | cons c cs => exact isBreak_of_isBlank (h c (hs ▸ List.mem_cons_self))

theorem AllBlank.scan_append (b : String) : scan (s ++ b) = chars s ++ scan b := by
  by_cases hs : s.toList = []
  · rw [String.toList_eq_nil_iff.mp hs, String.empty_append]
    rfl
  · refine scan_lead ⟨AllBlank.plain h, ?_⟩ b
    rw [List.getLast?_eq_some_getLast hs, Option.map_some,
      isBreak_of_isBlank (h _ (List.getLast_mem hs))]

end

/-- a quote that is open is a quotation mark -/
theorem isQuote_of_quoteAfter {q : Option Char} (hq : ∀ c, q = some c → isQuote c = true)
    {cs : List Char} {d : Char} (h : quoteAfter q cs = some d) : isQuote d = true := by
  induction cs generalizing q with
  | nil =>
    rw [quoteAfter_nil] at h
    exact hq d h
  | cons c cs ih =>
    cases q with
    | none =>
      refine ih (fun e he => ?_) h
      split at he
      · next hc => exact Option.some.inj he ▸ hc
      · cases he
    | some q =>
      refine ih (fun e he => ?_) h
      split at he
      · cases he
      · exact hq e he

/-- blanks neither open nor close a quote -/
theorem quoteAfter_blank {q : Option Char} (hq : ∀ c, q = some c → isQuote c = true)
    {cs : List Char} (h : AllBlank cs) : quoteAfter q cs = q := by
  induction cs with
  | nil => exact quoteAfter_nil q
  | cons c cs ih =>
    have hc := isPlain_of_isBlank (h c List.mem_cons_self)
    have hcs : AllBlank cs := fun d hd => h d (List.mem_cons_of_mem _ hd)
    have hnq : isQuote c = false := isQuote_of_isPlain hc
    cases q with
    | none =>
      show quoteAfter (if isQuote c then some c else none) cs = none
      rw [hnq]
      exact ih hcs
    | some q =>
      have hne : c ≠ q := by
        rintro rfl
        rw [hq c rfl] at hnq
        cases hnq
      show quoteAfter (if c = q then none else some q) cs = some q
      rw [if_neg hne]
      exact ih hcs

theorem Closed.trim {s : String} (h : Closed s) : Closed (trim s) := by
  obtain ⟨lead, trail, hl, ht, hs⟩ := exists_trim s
  have hnone : ∀ c : Char, (none : Option Char) = some c → isQuote c = true := by
    intro c hc
    cases hc
  have hq : quoteAfter none s.toList = none := h
  rw [hs, String.toList_append, String.toList_append, quoteAfter_append, quoteAfter_append,
    quoteAfter_blank hnone hl] at hq
  rwa [quoteAfter_blank (fun c hc => isQuote_of_quoteAfter hnone hc) ht] at hq

theorem exists_scan_trim {s : String} (h : Closed s) :
    ∃ lead trail : String, AllBlank lead.toList ∧ AllBlank trail.toList ∧
      s = lead ++ trim s ++ trail ∧ scan s = chars lead ++ scan (trim s) ++ chars trail := by
  obtain ⟨lead, trail, hl, ht, hs⟩ := exists_trim s
  refine ⟨lead, trail, hl, ht, hs, ?_⟩
  have hscan : scan (lead ++ trim s ++ trail) = chars lead ++ scan (trim s) ++ chars trail := by
    rw [String.append_assoc, AllBlank.scan_append hl, PagedSql.scan_append h.trim
      (AllBlank.breaksFirst ht), (AllBlank.plain ht).scan_eq, List.append_assoc]
  rwa [← hs] at hscan

theorem placeholders_trim {s : String} (h : Closed s) : placeholders (trim s) = placeholders s := by
  obtain ⟨lead, trail, _, _, _, hscan⟩ := exists_scan_trim h
  unfold placeholders
  rw [hscan, names_append, names_append, names_chars, names_chars, List.nil_append, List.append_nil]

end PagedSql

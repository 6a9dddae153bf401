import Mathlib.Data.List.Induction
import PagedSql.Proofs.Placeholder.Occurrence
import PagedSql.Proofs.Placeholder.Spelling

/-!
# Numbered statements are settled

Numbering puts `$` and digits in the place of a name.  Where the name was followed by a sign, the sign
now stands behind a digit; where a sign that opens nothing was followed by a placeholder, it now stands
in front of `$`.  Neither opens a name, so a statement that is numbered has nothing left to number.

* `replaced`            the text that numbering writes for pieces;
* `pieces_position`     a position is read as characters, and no name begins right behind it;
* `Mode.Beside`         the modes in which a text and its numbered form are read side by side;
* `pieces_replaced`     what is written for the pieces of a text is read as characters;
* `quoteAfter_replaced` and it opens and closes the quotes that they do;
* `numbered_again`      a numbered statement is its own numbered form, whatever is bound.
-/

namespace PagedSql
open PagedSql.Text

/-! ## what is written for a piece -/

def replaced (order : List (List Char)) (ps : List Piece) : List Char :=
  ps.flatMap fun p => (p.mark order).text

theorem replaced_nil (order : List (List Char)) : replaced order [] = [] := rfl
theorem replaced_char (order : List (List Char)) (c : Char) (ps : List Piece) :
    replaced order (.char c :: ps) = c :: replaced order ps := rfl
theorem replaced_name (order : List (List Char)) (n : List Char) (ps : List Piece) :
    replaced order (.name n :: ps) = position (order.idxOf n + 1) ++ replaced order ps := rfl
theorem replaced_append (order : List (List Char)) (ps qs : List Piece) :
    replaced order (ps ++ qs) = replaced order ps ++ replaced order qs := by
  simp [replaced, List.flatMap_append]

theorem toList_spelled (order : List (List Char)) (ps : List Piece) :
    (spelled order ps).toList = replaced order ps := by
  unfold spelled spell replaced
  rw [String.toList_ofList, List.flatMap_map]

theorem all_isPlain_position (n : Nat) : (position n).all isPlain = true := by
  refine List.all_eq_true.mpr ?_
  intro c hc
  rcases List.mem_cons.mp hc with rfl | hc
  · decide
  · exact isPlain_of_isNameChar (isNameChar_of_mem_toDigits hc)

theorem getLast?_position (n : Nat) :
    ∃ d, (position n).getLast? = some d ∧ isNameChar d = true := by
  obtain ⟨ds, d, hdigits, hd⟩ := exists_toDigits_concat n
  refine ⟨d, ?_, hd⟩
  show ('$' :: Nat.toDigits 10 n).getLast? = some d
  rw [hdigits, ← List.cons_append, List.getLast?_concat]

/-! ## reading it -/

theorem pieces_position (n : Nat) (before : Option Char) (rest : List Char) :
    ∃ d, isNameChar d = true ∧ pieces (.plain before) (position n ++ rest) =
      (position n).map .char ++ pieces (.plain (some d)) rest := by
  obtain ⟨d, hlast, hd⟩ := getLast?_position n
  refine ⟨d, hd, ?_⟩
  rw [pieces_plain_append (all_isPlain_position n), hlast]
  rfl

/-- behind a name character a sign is a character like any other -/
theorem pieces_behind {d : Char} (h : isNameChar d = true) (c : Char) (cs : List Char) :
    pieces (.plain (some d)) (c :: cs) =
      .char c :: pieces (if isQuote c then .quoted c else .plain (some c)) cs := by
  have hopen : ¬ (c = '@' ∧ opensName (some d) cs = true) := by
    intro hn
    have hbefore := hn.2
    simp only [opensName, h] at hbefore
    exact absurd hbefore (by simp)
  simp only [pieces, if_neg hopen]
  split <;> rfl

/-- where a text is read in the first mode, its numbered form is read in the second -/
inductive Mode.Beside : Mode → Mode → Prop where
  | plain (before : Option Char) : Beside (.plain before) (.plain before)
  | quoted (q : Char) : Beside (.quoted q) (.quoted q)
  | naming (n : List Char) (before : Option Char) : Beside (.naming n) (.plain before)

theorem beside_behind (c : Char) :
    Mode.Beside (if isQuote c then .quoted c else .plain (some c))
      (if isQuote c then .quoted c else .plain (some c)) := by
  split
  · exact .quoted c
  · exact .plain (some c)

section
variable (order : List (List Char))

theorem exists_replaced_naming (n cs : List Char) :
    ∃ rest, replaced order (pieces (.naming n) cs) = '$' :: rest := by
  induction cs generalizing n with
  | nil => exact ⟨_, rfl⟩
  | cons c cs ih =>
    simp only [pieces]
    split
    · exact ih (c :: n)
    · exact ⟨_, rfl⟩

/-- in front of what is written for a text, no sign opens a name that opens none in front of the text -/
theorem opensName_replaced {before b : Option Char} {cs : List Char}
    (h : opensName before (replaced order (pieces (.plain b) cs)) = true) :
    opensName before cs = true := by
  cases cs with
  | nil => exact h
  | cons c cs =>
    simp only [pieces] at h
    split at h
    · exact h
    · split at h
      · obtain ⟨rest, hrest⟩ := exists_replaced_naming order [] cs
        have hsign : isNameStart '$' = false := by decide
        rw [hrest] at h
        simp [opensName, hsign] at h
      · exact h

/-- **Side by side.**  What is written for the pieces of a text is read as characters. -/
theorem pieces_replaced {m m' : Mode} (h : m.Beside m') (cs : List Char) :
    pieces m' (replaced order (pieces m cs)) = (replaced order (pieces m cs)).map .char := by
  induction cs generalizing m m' with
  | nil =>
    cases h with
    | plain before => rfl
    | quoted q => rfl
    | naming n before =>
      show pieces _ (replaced order [.name n.reverse]) = (replaced order [.name n.reverse]).map .char
      rw [replaced_name, replaced_nil, List.append_nil]
      exact pieces_plain (all_isPlain_position _) before
  | cons c cs ih =>
    cases h with
    | plain before =>
      simp only [pieces]
      split
      · next hc =>
        rw [replaced_char]
        simp only [pieces, hc, if_true]
        rw [ih (.quoted c), List.map_cons]
      · next hc =>
        split
        · exact ih (.naming [] before)
        · next hopen =>
          have hstill : ¬ (c = '@' ∧
              opensName before (replaced order (pieces (.plain (some c)) cs)) = true) :=
            fun hn => hopen ⟨hn.1, opensName_replaced order hn.2⟩
          rw [replaced_char]
          simp only [pieces, if_neg hc, if_neg hstill]
          rw [ih (.plain (some c)), List.map_cons]
    | quoted q =>
      have hbeside : Mode.Beside (if c = q then .plain (some c) else .quoted q)
          (if c = q then .plain (some c) else .quoted q) := by
        split
        · exact .plain (some c)
        · exact .quoted q
      simp only [pieces]
      rw [replaced_char]
      simp only [pieces]
      rw [ih hbeside, List.map_cons]
    | naming n before =>
      simp only [pieces]
      split
      · exact ih (.naming (c :: n) before)
      · -- the position ends here, and the text goes on with a character behind its last digit
        rw [replaced_name, replaced_char]
        obtain ⟨d, hd, hposition⟩ := pieces_position (order.idxOf n.reverse + 1) before
          (c :: replaced order (pieces (if isQuote c then .quoted c else .plain (some c)) cs))
        rw [hposition, pieces_behind hd, ih (beside_behind c), List.map_append, List.map_cons]

/-! ## quotes -/

theorem quoteAfter_position (n : Nat) : quoteAfter none (position n) = none :=
  quoteAfter_plain fun c hc => isQuote_of_isPlain (List.all_eq_true.mp (all_isPlain_position n) c hc)

/-- **Quoting is unchanged.**  Behind each piece the same quote is open in the text and in what is
written for it. -/
theorem quoteAfter_replaced {sql : String} {front back : List Piece} (h : scan sql = front ++ back) :
    quoteAfter none (replaced order front) = quoteAfter none (front.flatMap Piece.source) := by
  induction front using List.reverseRecOn generalizing back with
  | nil => rfl
  | append_singleton front p ih =>
    rw [List.append_assoc, List.singleton_append] at h
    have hbefore := ih h
    rw [replaced_append, List.flatMap_append, List.flatMap_singleton, quoteAfter_append,
      quoteAfter_append, hbefore]
    cases p with
    | char c => rfl
    | name n =>
      have hbetween : NameBetween (scan sql) (front.flatMap Piece.source) n
          (back.flatMap Piece.source) := ⟨front, back, h, rfl, rfl⟩
      obtain ⟨_, hstands⟩ := ((isCut_scan sql).names _ _ _).mp hbetween
      have hnone := unquoted_iff.mp hstands.unquoted
      have hname := quoteAfter_name hnone hstands.name
      rw [quoteAfter_append] at hname
      rw [replaced_name, replaced_nil, List.append_nil]
      show _ = quoteAfter _ ('@' :: n)
      rw [hname, hnone, quoteAfter_position]

end

/-! ## statements -/

theorem numbered_of_scan_chars {sql : String} (h : scan sql = chars sql) (b : Bindings) :
    numbered sql b = .ok ⟨sql, []⟩ := by
  have hnone : placeholders sql = [] := by
    rw [placeholders, h, names_chars]
  have hbound : ∀ n ∈ placeholders sql, b.Binds n := by
    rw [hnone]
    intro n hn
    exact absurd hn List.not_mem_nil
  have horder : order sql = [] := by
    rw [order, hnone, newNames_nil]
  rw [numbered_eq hbound, horder, marks, h, spell_chars]
  rfl

theorem scan_spelled (order : List (List Char)) (sql : String) :
    scan (spelled order (scan sql)) = chars (spelled order (scan sql)) := by
  have hpieces := pieces_replaced order (.plain none) sql.toList
  unfold scan chars
  rw [toList_spelled]
  exact hpieces

/-- **Nothing is left to number.**  A statement that has been numbered comes out as it is and without
values, whatever is bound; at no place of it a name is a placeholder, and at every place of the first
statement the same quote is open as at the place it has become. -/
theorem numbered_again {sql : String} {b : Bindings} {r : Numbered} (h : numbered sql b = .ok r) :
    (∀ other : Bindings, numbered r.sql other = .ok ⟨r.sql, []⟩) ∧
    (∀ before name rest, r.sql.toList = before ++ '@' :: (name ++ rest) →
      ¬ Stands before name rest) ∧
    r.sql = spelled (order sql) (scan sql) ∧
    ∀ front back, scan sql = front ++ back →
      quoteAfter none (spelled (order sql) front).toList =
        quoteAfter none (front.flatMap Piece.source) := by
  obtain ⟨_, rfl⟩ := numbered_eq_ok_iff.mp h
  have hscan := scan_spelled (order sql) sql
  refine ⟨fun other => numbered_of_scan_chars hscan other, ?_, rfl, ?_⟩
  · intro before name rest htext hstands
    have hcut := isCut_scan (spelled (order sql) (scan sql))
    obtain ⟨front, back, hps, _⟩ := (hcut.names before name rest).mpr ⟨htext, hstands⟩
    have hname : name ∈ names (scan (spelled (order sql) (scan sql))) := by
      rw [hps, names_append, names_name]
      exact List.mem_append_right _ List.mem_cons_self
    rw [hscan, names_chars] at hname
    exact absurd hname List.not_mem_nil
  · intro front back hsplit
    rw [toList_spelled]
    exact quoteAfter_replaced (order sql) hsplit

/-- signs behind names, behind each other and behind a cast, and quotes right behind a name -/
def signsSql : String := "@a@b,@a_@b,@@a,@a::text,@a'@b'||\"@a\"@a_"

def signsBindings : Bindings := ⟨[("a", .int 1), ("a_", .int 2)]⟩

def signsNumbered : Numbered := ⟨"$1@b,$2@b,@@a,$1::text,$1'@b'||\"@a\"$2", [.int 1, .int 2]⟩

theorem signsSql_numbered_again :
    numbered signsSql signsBindings = .ok signsNumbered ∧
      (∀ other : Bindings, numbered signsNumbered.sql other = .ok ⟨signsNumbered.sql, []⟩) ∧
      ∀ before name rest, signsNumbered.sql.toList = before ++ '@' :: (name ++ rest) →
        ¬ Stands before name rest := by
  have hfirst : numbered signsSql signsBindings = .ok signsNumbered := by
    decide +kernel
  obtain ⟨hagain, hnone, _⟩ := numbered_again hfirst
  exact ⟨hfirst, hagain, hnone⟩

end PagedSql

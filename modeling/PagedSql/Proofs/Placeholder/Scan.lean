import PagedSql.Placeholder.Piece

/-!
# Scanning a text that is put together from parts

A statement is assembled from parts, and the scan for placeholders runs over the whole.  Parts keep
to themselves where the character at the seam can neither continue a name nor stop a sign.

* `quoteAfter`   the quote that stands open behind a text;
* `isBreak`      the characters a seam needs: no name character and no `@`;
* `Closed`       texts that leave the scan outside of quotes;
* `scan`         the pieces of a text, read from its start;
* `Plain`        texts without quotes and signs, all characters to the scan;
* `Separator`    plain text that begins and ends with a break;
* `isName`       the names a placeholder can have.

`pieces_append` cuts the scan in front of a break, `pieces_append_cons` behind one.  From the two come
`scan_separated` (two parts with a separator between them) and `scan_placeholder`.
-/

namespace PagedSql
open PagedSql.Text

/-! ## quotes -/

/-- the quote that is open behind the text, when the given one is open in front of it -/
def quoteAfter : Option Char → List Char → Option Char
  | q, [] => q
  | none, c :: cs => quoteAfter (if isQuote c then some c else none) cs
  | some q, c :: cs => quoteAfter (if c = q then none else some q) cs

theorem quoteAfter_nil (q : Option Char) : quoteAfter q [] = q := by
  cases q <;> rfl

theorem quoteAfter_append (q : Option Char) (a b : List Char) :
    quoteAfter q (a ++ b) = quoteAfter (quoteAfter q a) b := by
  induction a generalizing q with
  | nil => rw [quoteAfter_nil, List.nil_append]
  | cons c a ih =>
    cases q with
    | none =>
      rw [List.cons_append]
      exact ih _
    | some q =>
      rw [List.cons_append]
      exact ih _

theorem quoteAfter_plain {cs : List Char} (h : ∀ c ∈ cs, isQuote c = false) :
    quoteAfter none cs = none := by
  induction cs with
  | nil => rfl
  | cons c cs ih =>
    have hc := h c List.mem_cons_self
    show quoteAfter (if isQuote c then some c else none) cs = none
    rw [hc]
    exact ih fun d hd => h d (List.mem_cons_of_mem _ hd)

/-! ## breaks -/

def isBreak (c : Char) : Bool := !isNameChar c && c != '@'

theorem isQuote_of_isNameChar {c : Char} (h : isNameChar c = true) : isQuote c = false := by
  cases hq : isQuote c with
  | false => rfl
  | true =>
    have hc : c = '\'' ∨ c = '"' := by simpa [isQuote] using hq
    rcases hc with rfl | rfl <;> exact absurd h (by decide)

theorem isNameChar_of_mem_toDigits {n : Nat} {c : Char} (h : c ∈ Nat.toDigits 10 n) :
    isNameChar c = true := by
  have hdigit : c.isDigit = true := Nat.isDigit_of_mem_toDigits (by decide) (by decide) h
  simp [isNameChar, Char.isAlphanum, hdigit]

theorem not_isNameChar_of_isBreak {c : Char} (h : isBreak c = true) : isNameChar c = false := by
  unfold isBreak at h
  simp only [Bool.and_eq_true, Bool.not_eq_true'] at h
  exact h.1

theorem ne_at_of_isBreak {c : Char} (h : isBreak c = true) : c ≠ '@' := by
  rintro rfl
  exact absurd h (by decide)

/-- a sign behind a break opens a name as it does at the start -/
theorem opensName_break {c : Char} (h : isBreak c = true) (rest : List Char) :
    opensName (some c) rest = opensName none rest := by
  have hb : (!isNameChar c && c != '@') = true := h
  simp only [opensName, hb]

theorem pieces_plain_break {c : Char} (h : isBreak c = true) (cs : List Char) :
    pieces (.plain (some c)) cs = pieces (.plain none) cs := by
  cases cs with
  | nil => rfl
  | cons d ds =>
    unfold pieces
    rw [opensName_break h]

/-- the text is empty or begins with a break -/
def BreaksFirst : List Char → Prop
  | [] => True
  | c :: _ => isBreak c = true

/-- what stands in front does not matter to a text that begins with a break -/
theorem pieces_plain_of_breaksFirst {cs : List Char} (h : BreaksFirst cs) (before : Option Char) :
    pieces (.plain before) cs = pieces (.plain none) cs := by
  cases cs with
  | nil => rfl
  | cons c cs =>
    have hc : ¬ (c = '@' ∧ opensName before cs) := fun hn => ne_at_of_isBreak h hn.1
    have hc' : ¬ (c = '@' ∧ opensName none cs) := fun hn => ne_at_of_isBreak h hn.1
    simp only [pieces, if_neg hc, if_neg hc']

theorem pieces_naming_of_breaksFirst {cs : List Char} (h : BreaksFirst cs) (n : List Char) :
    pieces (.naming n) cs = .name n.reverse :: pieces (.plain none) cs := by
  cases cs with
  | nil => rfl
  | cons c cs =>
    have hn : isNameChar c = false := not_isNameChar_of_isBreak h
    have hc : ¬ (c = '@' ∧ opensName none cs) := fun hn => ne_at_of_isBreak h hn.1
    simp only [pieces, hn, if_neg hc]
    by_cases hq : isQuote c <;> simp [hq]

/-- a sign sees no further than a break -/
theorem opensName_append {rest : List Char} (h : BreaksFirst rest) (before : Option Char)
    (cs : List Char) : opensName before (cs ++ rest) = opensName before cs := by
  cases cs with
  | cons d ds => rfl
  | nil =>
    cases rest with
    | nil => rfl
    | cons c rest =>
      have hs : isNameStart c = false := by
        cases hc : isNameStart c with
        | false => rfl
        | true =>
          have hn := not_isNameChar_of_isBreak h
          rw [isNameChar_of_isNameStart hc] at hn
          exact absurd hn (by decide)
      simp [opensName, hs]

/-! ## the scan of two parts -/

/-- the mode in which a scan goes on behind a break -/
def resume : Option Char → Mode
  | none => .plain none
  | some q => .quoted q

/-- the quote a mode stands in -/
def Mode.quote : Mode → Option Char
  | .quoted q => some q
  | _ => none

/-- a scan is cut in front of a break -/
theorem pieces_append {rest : List Char} (h : BreaksFirst rest) (m : Mode) (cs : List Char) :
    pieces m (cs ++ rest) = pieces m cs ++ pieces (resume (quoteAfter m.quote cs)) rest := by
  induction cs generalizing m with
  | nil =>
    rw [quoteAfter_nil]
    cases m with
    | plain before => exact pieces_plain_of_breaksFirst h before
    | quoted q => rfl
    | naming n => exact pieces_naming_of_breaksFirst h n
  | cons c cs ih =>
    rw [List.cons_append]
    cases m with
    | plain before =>
      have hq : quoteAfter (Mode.plain before).quote (c :: cs) =
          quoteAfter (if isQuote c then some c else none) cs := rfl
      simp only [pieces, hq, opensName_append h]
      split
      · simp [ih, Mode.quote]
      · split
        · exact ih (.naming [])
        · simp [ih, Mode.quote]
    | quoted q =>
      have hq : quoteAfter (Mode.quoted q).quote (c :: cs) =
          quoteAfter (if c = q then none else some q) cs := rfl
      simp only [pieces, hq, ih, List.cons_append]
      split <;> rfl
    | naming n =>
      have hq : quoteAfter (Mode.naming n).quote (c :: cs) =
          quoteAfter (if isQuote c then some c else none) cs := rfl
      simp only [pieces, hq]
      split
      · next hn =>
        rw [isQuote_of_isNameChar hn, if_neg (by decide)]
        exact ih (.naming (c :: n))
      · simp only [ih, List.cons_append]
        split <;> rfl

/-- one break read, inside of quotes or not -/
theorem pieces_resume_cons {c : Char} (h : isBreak c = true) (q : Option Char) (cs : List Char) :
    pieces (resume q) (c :: cs) = .char c :: pieces (resume (quoteAfter q [c])) cs := by
  cases q with
  | none =>
    have hc : ¬ (c = '@' ∧ opensName none cs) := fun hn => ne_at_of_isBreak h hn.1
    simp only [resume, pieces, quoteAfter, if_neg hc]
    split
    · rfl
    · rw [pieces_plain_break h]
  | some q =>
    simp only [resume, pieces, quoteAfter]
    split
    · rw [pieces_plain_break h]
    · rfl

/-- a scan is cut behind a break -/
theorem pieces_append_cons {c : Char} (h : isBreak c = true) (m : Mode) (cs rest : List Char) :
    pieces m (cs ++ c :: rest) =
      pieces m cs ++ .char c :: pieces (resume (quoteAfter m.quote (cs ++ [c]))) rest := by
  have hb : BreaksFirst (c :: rest) := h
  rw [pieces_append hb, pieces_resume_cons h, quoteAfter_append]

/-! ## the scan from the start of a text -/

def scan (s : String) : List Piece := pieces (.plain none) s.toList

theorem scan_source (s : String) : (scan s).flatMap Piece.source = s.toList :=
  pieces_source (.plain none) s.toList

/-- the scan of the text ends outside of quotes -/
def Closed (s : String) : Prop := quoteAfter none s.toList = none

instance (s : String) : Decidable (Closed s) :=
  inferInstanceAs (Decidable (quoteAfter none s.toList = none))

theorem Closed.append {a b : String} (ha : Closed a) (hb : Closed b) : Closed (a ++ b) := by
  show quoteAfter none (a ++ b).toList = none
  rw [String.toList_append, quoteAfter_append, show quoteAfter none a.toList = none from ha]
  exact hb

theorem scan_append {a b : String} (ha : Closed a) (hb : BreaksFirst b.toList) :
    scan (a ++ b) = scan a ++ scan b := by
  unfold scan
  rw [String.toList_append, pieces_append hb,
    show quoteAfter (Mode.plain none).quote a.toList = none from ha]
  rfl

/-! ## plain text -/

/-- plain text has no quote and no sign -/
def isPlain (c : Char) : Bool := !isQuote c && c != '@'

def Plain (s : String) : Prop := s.toList.all isPlain = true

instance (s : String) : Decidable (Plain s) := inferInstanceAs (Decidable (_ = true))

theorem isPlain_of_isNameChar {c : Char} (h : isNameChar c = true) : isPlain c = true := by
  have hat : c ≠ '@' := by
    rintro rfl
    exact absurd h (by decide)
  unfold isPlain
  rw [isQuote_of_isNameChar h, bne_iff_ne.mpr hat]
  rfl

theorem isQuote_of_isPlain {c : Char} (h : isPlain c = true) : isQuote c = false := by
  unfold isPlain at h
  rw [Bool.and_eq_true, Bool.not_eq_true'] at h
  exact h.1

/-- a text as pieces that are all characters -/
def chars (s : String) : List Piece := s.toList.map .char

/-- plain text in front is read as characters, and the scan goes on behind the last of them -/
theorem pieces_plain_append {cs : List Char} (h : cs.all isPlain = true) (before : Option Char)
    (rest : List Char) : pieces (.plain before) (cs ++ rest) =
      cs.map .char ++ pieces (.plain (cs.getLast?.or before)) rest := by
  induction cs generalizing before with
  | nil => rfl
  | cons c cs ih =>
    rw [List.all_cons, Bool.and_eq_true] at h
    obtain ⟨hc, hcs⟩ := h
    unfold isPlain at hc
    rw [Bool.and_eq_true, Bool.not_eq_true', bne_iff_ne] at hc
    have hopen : ¬ (c = '@' ∧ opensName before (cs ++ rest)) := fun hn => hc.2 hn.1
    have hlast : (c :: cs).getLast?.or before = cs.getLast?.or (some c) := by
      rw [List.getLast?_cons]
      cases cs.getLast? <;> rfl
    rw [List.cons_append]
    simp only [pieces, hc.1, Bool.false_eq_true, if_false, if_neg hopen]
    rw [ih hcs, hlast, List.map_cons, List.cons_append]

theorem pieces_plain {cs : List Char} (h : cs.all isPlain = true) (before : Option Char) :
    pieces (.plain before) cs = cs.map .char := by
  have happ := pieces_plain_append h before []
  rwa [List.append_nil, pieces, List.append_nil] at happ

theorem Plain.scan_eq {s : String} (h : Plain s) : scan s = chars s := pieces_plain h none

theorem Plain.closed {s : String} (h : Plain s) : Closed s :=
  quoteAfter_plain fun c hc => isQuote_of_isPlain (List.all_eq_true.mp h c hc)

/-! ## separators -/

/-- plain text that ends with a break -/
structure Lead (s : String) : Prop where
  plain : Plain s
  last : s.toList.getLast?.map isBreak = some true

/-- plain text that begins and ends with a break -/
structure Separator (s : String) : Prop extends Lead s where
  first : s.toList.head?.map isBreak = some true

instance (s : String) : Decidable (Lead s) :=
  decidable_of_iff (Plain s ∧ s.toList.getLast?.map isBreak = some true)
    ⟨fun ⟨hp, hl⟩ => ⟨hp, hl⟩, fun h => ⟨h.plain, h.last⟩⟩

instance (s : String) : Decidable (Separator s) :=
  decidable_of_iff (Lead s ∧ s.toList.head?.map isBreak = some true)
    ⟨fun ⟨hl, hf⟩ => ⟨hl, hf⟩, fun h => ⟨h.toLead, h.first⟩⟩

theorem breaksFirst_of_head? {cs : List Char} (h : cs.head?.map isBreak = some true)
    (ds : List Char) : BreaksFirst (cs ++ ds) := by
  cases cs with
  | nil => exact absurd h (by simp)
  | cons c cs => simpa [BreaksFirst] using h

theorem Separator.breaksFirst {s : String} (hs : Separator s) (b : String) :
    BreaksFirst (s ++ b).toList := by
  rw [String.toList_append]
  exact breaksFirst_of_head? hs.first b.toList

theorem scan_lead {s : String} (hs : Lead s) (b : String) : scan (s ++ b) = chars s ++ scan b := by
  obtain ⟨hp, hl⟩ := hs
  have hq : quoteAfter none s.toList = none := hp.closed
  unfold scan chars
  rw [String.toList_append]
  unfold Plain at hp
  generalize s.toList = cs at hp hl hq
  rcases List.eq_nil_or_concat cs with rfl | ⟨ds, c, rfl⟩
  · exact absurd hl (by simp)
  rw [List.concat_eq_append] at hp hl hq ⊢
  have hc : isBreak c = true := by simpa using hl
  have hds : ds.all isPlain = true := by
    rw [List.all_append, Bool.and_eq_true] at hp
    exact hp.1
  rw [List.append_assoc, List.singleton_append, pieces_append_cons hc,
    show quoteAfter (Mode.plain none).quote (ds ++ [c]) = none from hq, pieces_plain hds]
  simp [resume]

/-- two parts with a separator between them are scanned each for itself -/
theorem scan_separated {a s : String} (ha : Closed a) (hs : Separator s) (b : String) :
    scan (a ++ s ++ b) = scan a ++ chars s ++ scan b := by
  rw [String.append_assoc, scan_append ha (hs.breaksFirst b), scan_lead hs.toLead, List.append_assoc]

/-! ## placeholders -/

/-- a letter or `_`, and then letters, digits and `_` -/
def isName : List Char → Bool
  | [] => false
  | c :: cs => isNameStart c && cs.all isNameChar

/-- a run of characters of one sort is over in front of the first of another -/
theorem takeWhile_append_of_stop {p : Char → Bool} {cs rest : List Char} (h : ∀ c ∈ cs, p c = true)
    (hstop : ∀ c, rest.head? = some c → p c = false) : (cs ++ rest).takeWhile p = cs := by
  have hrest : rest.takeWhile p = [] := by
    cases rest with
    | nil => rfl
    | cons c rest => rw [List.takeWhile_cons, hstop c rfl, if_neg (by decide)]
  rw [List.takeWhile_append_of_pos h, hrest, List.append_nil]

theorem all_isNameChar_of_isName {n : List Char} (h : isName n = true) : n.all isNameChar = true := by
  cases n with
  | nil => rfl
  | cons c cs =>
    unfold isName at h
    rw [Bool.and_eq_true] at h
    rw [List.all_cons, isNameChar_of_isNameStart h.1, h.2]
    rfl

theorem pieces_naming {cs : List Char} (h : cs.all isNameChar = true) (n : List Char) :
    pieces (.naming n) cs = [.name (n.reverse ++ cs)] := by
  induction cs generalizing n with
  | nil => rw [List.append_nil]; rfl
  | cons c cs ih =>
    rw [List.all_cons, Bool.and_eq_true] at h
    simp only [pieces, h.1, if_true]
    rw [ih h.2, List.reverse_cons, List.append_assoc, List.singleton_append]

theorem pieces_placeholder {n : List Char} (h : isName n = true) :
    pieces (.plain none) ('@' :: n) = [.name n] := by
  have ho : opensName none n = true := by
    cases n with
    | nil => exact absurd h (by decide)
    | cons c cs =>
      unfold isName at h
      rw [Bool.and_eq_true] at h
      simpa [opensName] using h.1
  have hq : isQuote '@' = false := by decide
  simp only [pieces, hq, ho]
  exact pieces_naming (all_isNameChar_of_isName h) []

section
variable {n : String} (h : isName n.toList = true)
include h

theorem scan_placeholder : scan ("@" ++ n) = [.name n.toList] := by
  have hn : ("@" ++ n).toList = '@' :: n.toList := String.toList_append
  unfold scan
  rw [hn]
  exact pieces_placeholder h

theorem closed_placeholder : Closed ("@" ++ n) := by
  have hn : ("@" ++ n).toList = '@' :: n.toList := String.toList_append
  show quoteAfter none ("@" ++ n).toList = none
  rw [hn]
  refine quoteAfter_plain fun c hc => ?_
  rcases List.mem_cons.mp hc with rfl | hc
  · decide
  · exact isQuote_of_isNameChar (List.all_eq_true.mp (all_isNameChar_of_isName h) c hc)

end

end PagedSql

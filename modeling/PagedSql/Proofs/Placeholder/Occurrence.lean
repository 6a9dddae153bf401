import Mathlib.Data.List.TakeWhile
import PagedSql.Proofs.Placeholder.Numbering

/-!
# Where placeholders stand

What a placeholder is can be said without a scan: a sign and a name at some place of the text, by what
stands around the two.  The scan cuts a text at these places and at no others, and numbering puts a
number in the place of each name.

* `Unquoted`          texts in which every quotation that begins is closed;
* `Stands`            a name is a placeholder between two texts;
* `NameBetween`       a name stands among pieces, between the sources of the others;
* `IsCut`             pieces that make up a text, with its placeholders for names;
* `nameBetween_pieces`   in every mode the scan finds the placeholders that are left;
* `isCut_scan`, `IsCut.unique`   the scan is the one cut of a text;
* `newNames_eq_eraseDups`, `number_eq_error`   the order of names, and the first that has no value;
* `numbered_by_placeholders`   what becomes of a text, said by its cut.
-/

namespace PagedSql
open PagedSql.Text

/-! ## quotations -/

/-- texts of characters that are no quotation marks, and of quotations from a mark to the next of its
kind -/
inductive Unquoted : List Char → Prop where
  | nil : Unquoted []
  | char (c : Char) (cs : List Char) (hc : isQuote c = false) (h : Unquoted cs) : Unquoted (c :: cs)
  | quotation (q : Char) (body cs : List Char) (hq : isQuote q = true) (hbody : q ∉ body)
    (h : Unquoted cs) : Unquoted (q :: (body ++ q :: cs))

theorem quoteAfter_char {c : Char} (h : isQuote c = false) (cs : List Char) :
    quoteAfter none (c :: cs) = quoteAfter none cs := by
  rw [quoteAfter, h]
  rfl

theorem quoteAfter_mark {q : Char} (h : isQuote q = true) (cs : List Char) :
    quoteAfter none (q :: cs) = quoteAfter (some q) cs := by
  rw [quoteAfter, h]
  rfl

theorem quoteAfter_body {q : Char} {body : List Char} (h : q ∉ body) (cs : List Char) :
    quoteAfter (some q) (body ++ q :: cs) = quoteAfter none cs := by
  induction body with
  | nil =>
    rw [List.nil_append, quoteAfter, if_pos rfl]
  | cons c body ih =>
    have hc : c ≠ q := fun hcq => h (hcq ▸ List.mem_cons_self)
    rw [List.cons_append, quoteAfter, if_neg hc]
    exact ih fun hq => h (List.mem_cons_of_mem _ hq)

/-- a quotation that is over by the end of a text has a first mark that closes it -/
theorem exists_close {q : Char} {cs : List Char} (h : quoteAfter (some q) cs = none) :
    ∃ body rest, cs = body ++ q :: rest ∧ q ∉ body ∧ quoteAfter none rest = none := by
  induction cs with
  | nil =>
    rw [quoteAfter_nil] at h
    cases h
  | cons c cs ih =>
    rw [quoteAfter] at h
    by_cases hc : c = q
    · rw [if_pos hc] at h
      exact ⟨[], cs, by rw [hc]; rfl, List.not_mem_nil, h⟩
    · rw [if_neg hc] at h
      obtain ⟨body, rest, hcs, hbody, hrest⟩ := ih h
      refine ⟨c :: body, rest, by rw [hcs]; rfl, fun hq => ?_, hrest⟩
      rcases List.mem_cons.mp hq with hq | hq
      · exact hc hq.symm
      · exact hbody hq

theorem unquoted_of_quoteAfter {cs : List Char} (h : quoteAfter none cs = none) : Unquoted cs := by
  induction hn : cs.length using Nat.strong_induction_on generalizing cs with
  | _ n ih =>
    subst hn
    cases cs with
    | nil => exact .nil
    | cons c cs =>
      cases hc : isQuote c with
      | false =>
        rw [quoteAfter_char hc] at h
        exact .char c cs hc (ih cs.length (Nat.lt_succ_self _) h rfl)
      | true =>
        rw [quoteAfter_mark hc] at h
        obtain ⟨body, rest, rfl, hbody, hrest⟩ := exists_close h
        refine .quotation c body rest hc hbody (ih rest.length ?_ hrest rfl)
        rw [List.length_cons, List.length_append, List.length_cons]
        omega

theorem unquoted_iff {cs : List Char} : Unquoted cs ↔ quoteAfter none cs = none := by
  constructor
  · intro h
    induction h with
    | nil => rfl
    | char c cs hc _ ih => rw [quoteAfter_char hc, ih]
    | quotation q body cs hq hbody _ ih => rw [quoteAfter_mark hq, quoteAfter_body hbody, ih]
  · exact unquoted_of_quoteAfter

/-! ## placeholders in a text -/

/-- between the two texts a sign and this name are a placeholder: outside of quotes, behind no name
character and no other sign, and the name goes on as far as it can -/
structure Stands (before name rest : List Char) : Prop where
  unquoted : Unquoted before
  alone : ∀ c, before.getLast? = some c → isBreak c = true
  name : isName name = true
  longest : ∀ c, rest.head? = some c → isNameChar c = false

/-- a name among pieces, between the sources of those before it and of those behind it -/
def NameBetween (ps : List Piece) (before name rest : List Char) : Prop :=
  ∃ front back, ps = front ++ .name name :: back ∧ front.flatMap Piece.source = before ∧
    back.flatMap Piece.source = rest

/-- pieces that make up a text and have its placeholders for names -/
structure IsCut (cs : List Char) (ps : List Piece) : Prop where
  source : ps.flatMap Piece.source = cs
  names : ∀ before name rest, NameBetween ps before name rest ↔
    cs = before ++ '@' :: (name ++ rest) ∧ Stands before name rest

theorem not_nameBetween_nil (before name rest : List Char) : ¬ NameBetween [] before name rest := by
  rintro ⟨front, back, hps, _, _⟩
  exact absurd hps.symm (by simp)

theorem nameBetween_char {c : Char} {ps : List Piece} {before name rest : List Char} :
    NameBetween (.char c :: ps) before name rest ↔
      ∃ later, before = c :: later ∧ NameBetween ps later name rest := by
  constructor
  · rintro ⟨front, back, hps, rfl, rfl⟩
    cases front with
    | nil => cases hps
    | cons p front =>
      obtain ⟨rfl, rfl⟩ := List.cons.inj hps
      exact ⟨front.flatMap Piece.source, rfl, front, back, rfl, rfl, rfl⟩
  · rintro ⟨later, rfl, front, back, rfl, rfl, rfl⟩
    exact ⟨.char c :: front, back, rfl, rfl, rfl⟩

theorem nameBetween_name {n : List Char} {ps : List Piece} {before name rest : List Char} :
    NameBetween (.name n :: ps) before name rest ↔
      (before = [] ∧ name = n ∧ rest = ps.flatMap Piece.source) ∨
        ∃ later, before = '@' :: (n ++ later) ∧ NameBetween ps later name rest := by
  constructor
  · rintro ⟨front, back, hps, rfl, rfl⟩
    cases front with
    | nil =>
      cases hps
      exact Or.inl ⟨rfl, rfl, rfl⟩
    | cons p front =>
      obtain ⟨rfl, rfl⟩ := List.cons.inj hps
      exact Or.inr ⟨front.flatMap Piece.source, rfl, front, back, rfl, rfl, rfl⟩
  · rintro (⟨rfl, rfl, rfl⟩ | ⟨later, rfl, front, back, rfl, rfl, rfl⟩)
    · exact ⟨[], ps, rfl, rfl, rfl⟩
    · exact ⟨.name n :: front, back, rfl, rfl, rfl⟩

/-! ## the longest name -/

theorem Stands.takeWhile_eq {before name rest : List Char} (h : Stands before name rest) :
    (name ++ rest).takeWhile isNameChar = name :=
  takeWhile_append_of_stop (List.all_eq_true.mp (all_isNameChar_of_isName h.name)) h.longest

/-- what begins with the first character of a name goes on as one -/
theorem isName_takeWhile_cons (c : Char) (cs : List Char) :
    isName ((c :: cs).takeWhile isNameChar) = isNameStart c := by
  rw [List.takeWhile_cons]
  cases hc : isNameStart c with
  | true =>
    have hall : (cs.takeWhile isNameChar).all isNameChar = true :=
      List.all_eq_true.mpr fun _ hd => List.mem_takeWhile_imp hd
    rw [isNameChar_of_isNameStart hc, if_pos rfl, isName, hc, hall]
    rfl
  | false =>
    split
    · rw [isName, hc, Bool.false_and]
    · rfl

/-- a sign opens a name exactly if it stands alone and a name begins behind it -/
theorem opensName_iff {given cs : List Char} : opensName given.getLast? cs = true ↔
    (∀ c, given.getLast? = some c → isBreak c = true) ∧ isName (cs.takeWhile isNameChar) = true := by
  cases cs with
  | nil =>
    refine iff_of_false ?_ fun h => absurd h.2 (by decide)
    simp [opensName]
  | cons c cs =>
    rw [isName_takeWhile_cons]
    unfold opensName
    rw [Bool.and_eq_true]
    refine and_congr_left fun _ => ?_
    cases given.getLast? with
    | none => simp
    | some c => simp [isBreak]

/-! ## the scan finds them -/

/-- the scan can be in this mode behind a text that it has given out, in front of another -/
def Mode.Between (given cs : List Char) : Mode → Prop
  | .plain before => quoteAfter none given = none ∧ given.getLast? = before
  | .quoted q => quoteAfter none given = some q
  | .naming n => quoteAfter none given = none ∧ (∀ c, given.getLast? = some c → isBreak c = true) ∧
    isName (n.reverse ++ cs.takeWhile isNameChar) = true

theorem between_char {given cs : List Char} {c : Char} (hc : isQuote c = false)
    (h : quoteAfter none given = none) : Mode.Between (given ++ [c]) cs (.plain (some c)) := by
  refine ⟨?_, List.getLast?_concat⟩
  rw [quoteAfter_append, h, quoteAfter_char hc]
  rfl

theorem between_mark {given cs : List Char} {c : Char} (hc : isQuote c = true)
    (h : quoteAfter none given = none) : Mode.Between (given ++ [c]) cs (.quoted c) := by
  show quoteAfter none (given ++ [c]) = some c
  rw [quoteAfter_append, h, quoteAfter_mark hc, quoteAfter_nil]

section
variable {given cs before name rest : List Char}

/-- one more character given out moves it from the text that follows to the one before -/
theorem stands_given {c : Char} {ps : List Piece}
    (ih : ∀ later, NameBetween ps later name rest ↔
      cs = later ++ '@' :: (name ++ rest) ∧ Stands (given ++ [c] ++ later) name rest)
    (hfirst : ¬ (c :: cs = '@' :: (name ++ rest) ∧ Stands given name rest)) :
    NameBetween (.char c :: ps) before name rest ↔
      c :: cs = before ++ '@' :: (name ++ rest) ∧ Stands (given ++ before) name rest := by
  rw [nameBetween_char]
  constructor
  · rintro ⟨later, rfl, h⟩
    obtain ⟨rfl, hstands⟩ := (ih later).mp h
    rw [List.append_assoc] at hstands
    exact ⟨rfl, hstands⟩
  · rintro ⟨hcs, hstands⟩
    cases before with
    | nil =>
      rw [List.append_nil] at hstands
      exact absurd ⟨hcs, hstands⟩ hfirst
    | cons d later =>
      obtain ⟨rfl, hlater⟩ := List.cons.inj hcs
      refine ⟨later, rfl, (ih later).mpr ⟨hlater, ?_⟩⟩
      rw [List.append_assoc]
      exact hstands

/-- a name that has been read comes first, and none of its signs opens another -/
theorem stands_read {n : List Char} {ps : List Piece} (hquote : quoteAfter none given = none)
    (halone : ∀ c, given.getLast? = some c → isBreak c = true) (hn : isName n = true)
    (hcs : ∀ c, cs.head? = some c → isNameChar c = false) (hsource : ps.flatMap Piece.source = cs)
    (hps : ∀ later, NameBetween ps later name rest ↔
      cs = later ++ '@' :: (name ++ rest) ∧ Stands (given ++ '@' :: n ++ later) name rest) :
    NameBetween (.name n :: ps) before name rest ↔
      '@' :: n ++ cs = before ++ '@' :: (name ++ rest) ∧ Stands (given ++ before) name rest := by
  have hchars := List.all_eq_true.mp (all_isNameChar_of_isName hn)
  rw [nameBetween_name]
  constructor
  · rintro (⟨rfl, rfl, rfl⟩ | ⟨later, rfl, h⟩)
    · rw [hsource, List.append_nil]
      exact ⟨rfl, unquoted_iff.mpr hquote, halone, hn, hcs⟩
    · obtain ⟨rfl, hstands⟩ := (hps later).mp h
      refine ⟨by simp, ?_⟩
      rw [List.append_assoc] at hstands
      exact hstands
  · rintro ⟨htext, hstands⟩
    cases before with
    | nil =>
      have hname : n ++ cs = name ++ rest := (List.cons.inj htext).2
      have hsame : n = name := by
        rw [← takeWhile_append_of_stop hchars hcs, hname, hstands.takeWhile_eq]
      subst hsame
      exact Or.inl ⟨rfl, rfl, hsource ▸ (List.append_cancel_left hname).symm⟩
    | cons d before =>
      obtain ⟨rfl, hrest⟩ := List.cons.inj htext
      have hlater : ∃ later, before = n ++ later ∧ cs = later ++ '@' :: (name ++ rest) := by
        rcases List.append_eq_append_iff.mp hrest with ⟨later, hb, hc⟩ | ⟨more, hb, hc⟩
        · exact ⟨later, hb, hc⟩
        · cases more with
          | nil => exact ⟨[], by simpa using hb.symm, hc.symm⟩
          | cons e more =>
            have he : isNameChar e = true := by
              refine hchars e ?_
              rw [hb]
              exact List.mem_append_right _ List.mem_cons_self
            rw [← (List.cons.inj hc).1] at he
            exact absurd he (by decide)
      obtain ⟨later, rfl, hcs⟩ := hlater
      refine Or.inr ⟨later, rfl, (hps later).mpr ⟨hcs, ?_⟩⟩
      rw [List.append_assoc]
      exact hstands

end

theorem getLast?_name {given n : List Char} (hn : isName n = true) :
    ∃ c, (given ++ '@' :: n).getLast? = some c ∧ isBreak c = false := by
  have hne : n ≠ [] := by
    rintro rfl
    exact absurd hn (by decide)
  have hname := List.all_eq_true.mp (all_isNameChar_of_isName hn) _ (List.getLast_mem hne)
  refine ⟨n.getLast hne, ?_, ?_⟩
  · rw [List.getLast?_append, List.getLast?_cons, List.getLast?_eq_some_getLast hne]
    rfl
  · rw [isBreak, hname]
    rfl

theorem quoteAfter_name {given n : List Char} (hgiven : quoteAfter none given = none) (hn : isName n = true) :
    quoteAfter none (given ++ '@' :: n) = none := by
  rw [quoteAfter_append, hgiven]
  refine quoteAfter_plain fun c hc => ?_
  rcases List.mem_cons.mp hc with rfl | hc
  · decide
  · exact isQuote_of_isNameChar (List.all_eq_true.mp (all_isNameChar_of_isName hn) c hc)

theorem nameBetween_pieces (m : Mode) {given cs : List Char} (h : m.Between given cs)
    (before name rest : List Char) : NameBetween (pieces m cs) before name rest ↔
      m.pending ++ cs = before ++ '@' :: (name ++ rest) ∧ Stands (given ++ before) name rest := by
  induction cs generalizing m given before with
  | nil =>
    cases m with
    | plain b =>
      refine iff_of_false (not_nameBetween_nil before name rest) fun hcs => ?_
      exact absurd hcs.1 (by simp [Mode.pending])
    | quoted q =>
      refine iff_of_false (not_nameBetween_nil before name rest) fun hcs => ?_
      exact absurd hcs.1 (by simp [Mode.pending])
    | naming n =>
      obtain ⟨hquote, halone, hname⟩ := h
      rw [List.takeWhile_nil, List.append_nil] at hname
      refine stands_read hquote halone hname (by simp) rfl fun later => ?_
      exact iff_of_false (not_nameBetween_nil later name rest) fun hnil => absurd hnil.1 (by simp)
  | cons c cs ih =>
    cases m with
    | plain b =>
      obtain ⟨hquote, hlast⟩ := h
      subst hlast
      simp only [pieces]
      split
      · next hc =>
        refine stands_given (fun later => ih (.quoted c) (between_mark hc hquote) later) ?_
        rintro ⟨hcs, _⟩
        rw [(List.cons.inj hcs).1] at hc
        exact absurd hc (by decide)
      · split
        · next hopen =>
          obtain ⟨rfl, hopen⟩ := hopen
          obtain ⟨halone, hname⟩ := opensName_iff.mp hopen
          exact ih (.naming []) ⟨hquote, halone, hname⟩ before
        · next hc hopen =>
          have hc : isQuote c = false := Bool.eq_false_iff.mpr hc
          refine stands_given (fun later => ih (.plain (some c)) (between_char hc hquote) later) ?_
          rintro ⟨hcs, hstands⟩
          obtain ⟨rfl, rfl⟩ := List.cons.inj hcs
          refine hopen ⟨rfl, opensName_iff.mpr ⟨hstands.alone, ?_⟩⟩
          rw [hstands.takeWhile_eq]
          exact hstands.name
    | quoted q =>
      have hquote : quoteAfter none given = some q := h
      simp only [pieces]
      refine stands_given (fun later => ?_) ?_
      · split
        · next hc =>
          refine ih (.plain (some c)) ⟨?_, List.getLast?_concat⟩ later
          rw [quoteAfter_append, hquote, quoteAfter, if_pos hc, quoteAfter_nil]
        · next hc =>
          have hgoes : quoteAfter none (given ++ [c]) = some q := by
            rw [quoteAfter_append, hquote, quoteAfter, if_neg hc, quoteAfter_nil]
          exact ih (.quoted q) hgoes later
      · rintro ⟨_, hstands⟩
        rw [unquoted_iff.mp hstands.unquoted] at hquote
        cases hquote
    | naming n =>
      obtain ⟨hquote, halone, hname⟩ := h
      simp only [pieces]
      split
      · next hc =>
        have hgoes : isName ((c :: n).reverse ++ cs.takeWhile isNameChar) = true := by
          rw [List.takeWhile_cons, hc, if_pos rfl] at hname
          rw [List.reverse_cons, List.append_assoc]
          exact hname
        have hpending : (Mode.naming n).pending ++ c :: cs = (Mode.naming (c :: n)).pending ++ cs := by
          simp [Mode.pending]
        rw [hpending]
        exact ih (.naming (c :: n)) ⟨hquote, halone, hgoes⟩ before
      · next hc =>
        have hc : isNameChar c = false := Bool.eq_false_iff.mpr hc
        rw [List.takeWhile_cons, hc, if_neg (by decide), List.append_nil] at hname
        have hread := quoteAfter_name hquote hname
        refine stands_read hquote halone hname (fun d hd => ?_) ?_ fun later => ?_
        · cases hd
          exact hc
        · rw [List.flatMap_cons, pieces_source]
          split <;> rfl
        · refine stands_given (fun later => ?_) ?_
          · split
            · next hq => exact ih (.quoted c) (between_mark hq hread) later
            · next hq =>
              exact ih (.plain (some c)) (between_char (Bool.eq_false_iff.mpr hq) hread) later
          · rintro ⟨_, hstands⟩
            obtain ⟨d, hd, hbreak⟩ := getLast?_name hname
            rw [hstands.alone d hd] at hbreak
            cases hbreak

theorem isCut_scan (sql : String) : IsCut sql.toList (scan sql) := by
  refine ⟨scan_source sql, fun before name rest => ?_⟩
  have hstart : Mode.Between [] sql.toList (.plain none) := ⟨rfl, rfl⟩
  exact nameBetween_pieces (.plain none) hstart before name rest

/-! ## there is one cut -/

theorem eq_of_nameBetween {ps qs : List Piece}
    (hsource : ps.flatMap Piece.source = qs.flatMap Piece.source)
    (h : ∀ before name rest, NameBetween ps before name rest ↔ NameBetween qs before name rest) :
    ps = qs := by
  induction ps generalizing qs with
  | nil =>
    cases qs with
    | nil => rfl
    | cons q qs => cases q <;> cases hsource
  | cons p ps ih =>
    cases qs with
    | nil => cases p <;> cases hsource
    | cons q qs =>
      cases p with
      | char c =>
        cases q with
        | char d =>
          obtain ⟨rfl, hrest⟩ := List.cons.inj (show c :: _ = d :: _ from hsource)
          refine congrArg (Piece.char c :: ·) (ih hrest fun before name rest => ?_)
          have hlonger := h (c :: before) name rest
          simpa [nameBetween_char] using hlonger
        | name m =>
          have hfirst := (h [] m _).mpr (nameBetween_name.mpr (Or.inl ⟨rfl, rfl, rfl⟩))
          obtain ⟨later, hlater, _⟩ := nameBetween_char.mp hfirst
          cases hlater
      | name n =>
        have hfirst := (h [] n _).mp (nameBetween_name.mpr (Or.inl ⟨rfl, rfl, rfl⟩))
        cases q with
        | char d =>
          obtain ⟨later, hlater, _⟩ := nameBetween_char.mp hfirst
          cases hlater
        | name m =>
          obtain ⟨_, rfl, _⟩ | ⟨later, hlater, _⟩ := nameBetween_name.mp hfirst
          · have hrest : ps.flatMap Piece.source = qs.flatMap Piece.source :=
              List.append_cancel_left (List.cons.inj (show '@' :: n ++ _ = '@' :: n ++ _ from hsource)).2
            refine congrArg (Piece.name n :: ·) (ih hrest fun before name rest => ?_)
            have hlonger := h ('@' :: (n ++ before)) name rest
            simpa [nameBetween_name] using hlonger
          · cases hlater

/-- a text has one cut -/
theorem IsCut.unique {cs : List Char} {ps qs : List Piece} (hp : IsCut cs ps) (hq : IsCut cs qs) :
    ps = qs := by
  refine eq_of_nameBetween (hp.source.trans hq.source.symm) fun before name rest => ?_
  rw [hp.names, hq.names]

/-! ## numbers -/

/-- what is new to a list of known names are the others, each once -/
theorem newNames_eq_eraseDups (known ns : List (List Char)) :
    newNames known ns = (ns.filter (· ∉ known)).eraseDups := by
  induction ns generalizing known with
  | nil => rfl
  | cons n ns ih =>
    by_cases hn : n ∈ known
    · rw [newNames_of_mem hn, ih, List.filter_cons_of_neg (by simpa using hn)]
    · have hlater : (ns.filter (· ∉ known)).filter (fun m => !m == n) =
          ns.filter (· ∉ known ++ [n]) := by
        rw [List.filter_filter]
        refine List.filter_congr fun m _ => ?_
        by_cases hm : m = n <;> simp [hm]
      rw [newNames_of_notMem hn, ih, List.filter_cons_of_pos (by simpa using hn),
        List.eraseDups_cons, hlater]

theorem order_eq_eraseDups (sql : String) : order sql = (placeholders sql).eraseDups := by
  unfold order
  rw [newNames_eq_eraseDups, List.filter_eq_self.mpr (by simp)]

/-- the first name without a value is the one that is reported -/
theorem number_eq_error {b : Bindings} {known : List (List Char)} {ps : List Piece} {n : List Char}
    (hknown : ∀ m ∈ known, b.Binds m)
    (h : (names ps).find? (fun m => ¬ b.Binds m) = some n) :
    number b known ps = .error ⟨String.ofList n⟩ := by
  induction ps generalizing known with
  | nil => cases h
  | cons p ps ih =>
    cases p with
    | char c =>
      rw [names_char] at h
      rw [number, ih hknown h]
    | name m =>
      rw [names_name, List.find?_cons] at h
      by_cases hm : b.Binds m
      · rw [decide_eq_false (not_not_intro hm)] at h
        have hvalue := Bindings.find?_of_binds hm
        rw [number]
        cases hidx : known.idxOf? m with
        | some i =>
          dsimp only
          rw [ih hknown h]
        | none =>
          dsimp only
          rw [hvalue]
          dsimp only
          rw [ih (fun k hk => ?_) h]
          rcases List.mem_append.mp hk with hk | hk
          · exact hknown k hk
          · rw [List.mem_singleton.mp hk]
            exact hm
      · rw [decide_eq_true hm] at h
        cases h
        have hnone : b.find? (String.ofList n) = none := by
          simpa [Bindings.Binds] using hm
        have hnew : n ∉ known := fun hmem => hm (hknown n hmem)
        rw [number, List.idxOf?_eq_none_iff.mpr hnew]
        dsimp only
        rw [hnone]

/-- **What numbering does.**  A text can be cut in one way into characters and placeholders.  If one of
these has no value, the first of them is reported.  Otherwise every placeholder is replaced by `$` and the
place of its name among the names in the order of their first occurrences, every other character stays
where it is, and the values are those of these names, one for each. -/
theorem numbered_by_placeholders (sql : String) (b : Bindings) :
    (∃! ps, IsCut sql.toList ps) ∧
    ∀ ps, IsCut sql.toList ps →
      (∀ earlier n later, names ps = earlier ++ n :: later →
        (∀ m ∈ earlier, b.find? (String.ofList m) ≠ none) → b.find? (String.ofList n) = none →
        numbered sql b = .error ⟨String.ofList n⟩) ∧
      ((∀ n ∈ names ps, b.find? (String.ofList n) ≠ none) →
        ∃ values, numbered sql b = .ok ⟨spell (ps.map (Piece.mark (names ps).eraseDups)), values⟩ ∧
          values.map some = (names ps).eraseDups.map fun n => b.find? (String.ofList n)) := by
  have hbinds : ∀ n, b.find? (String.ofList n) ≠ none ↔ b.Binds n := fun n =>
    Option.ne_none_iff_isSome
  have hcut := isCut_scan sql
  refine ⟨⟨scan sql, hcut, fun qs hqs => hqs.unique hcut⟩, fun ps hps => ?_⟩
  obtain rfl := hps.unique hcut
  constructor
  · intro earlier n later hnames hearlier hn
    have hfirst : (names (scan sql)).find? (fun m => ¬ b.Binds m) = some n := by
      refine List.find?_eq_some_iff_append.mpr ⟨?_, earlier, later, hnames, fun m hm => ?_⟩
      · simp [Bindings.Binds, hn]
      · simpa using (hbinds m).mp (hearlier m hm)
    unfold numbered
    rw [show pieces (.plain none) sql.toList = scan sql from rfl,
      number_eq_error (fun m hm => absurd hm List.not_mem_nil) hfirst]
  · intro hall
    have hbound : ∀ n ∈ placeholders sql, b.Binds n := fun n hn => (hbinds n).mp (hall n hn)
    refine ⟨(order sql).map b.value, ?_, ?_⟩
    · rw [numbered_eq hbound, order_eq_eraseDups, marks, placeholders]
    · rw [order_eq_eraseDups, List.map_map]
      refine List.map_congr_left fun n hn => ?_
      exact (Bindings.find?_of_binds (hbound n (List.mem_eraseDups.mp hn))).symm

/-- a quote that is doubled and one that stays open, a cast, two signs in a row, and names that begin
alike -/
def roomsSql : String :=
  "d::date = @filter_10 AND n IN ('it''s @no',@filter_1,@p@q,@filter_10) AND \"@r\" = @@s OR 'open @t"

def roomsBindings : Bindings :=
  ⟨[("filter_1", .int 1), ("unused", .null), ("filter_10", .text "x"), ("p", .bool true)]⟩

/-- three names get numbers, and of two names without a value the first is reported -/
theorem numbered_roomsSql_by_placeholders :
    numbered roomsSql roomsBindings = .ok
      ⟨"d::date = $1 AND n IN ('it''s @no',$2,$3@q,$1) AND \"@r\" = @@s OR 'open @t",
        [.text "x", .int 1, .bool true]⟩ ∧
    numbered "a = @p AND b = @u AND c = @v" roomsBindings = .error ⟨"u"⟩ := by
  constructor
  · have hcut := (numbered_by_placeholders roomsSql roomsBindings).2 _ (isCut_scan roomsSql)
    obtain ⟨values, hnumbered, hvalues⟩ := hcut.2 (by decide +kernel)
    have hlist : values = [.text "x", .int 1, .bool true] := by
      refine List.map_injective_iff.mpr (Option.some_injective Value) (hvalues.trans ?_)
      decide +kernel
    rw [hnumbered, hlist]
    decide +kernel
  · have hcut := (numbered_by_placeholders "a = @p AND b = @u AND c = @v" roomsBindings).2 _
      (isCut_scan _)
    exact hcut.1 ["p".toList] "u".toList ["v".toList] (by decide +kernel) (by decide +kernel)
      (by decide +kernel)

end PagedSql

import PagedSql.Proofs.Placeholder.Parts

/-!
# Quotes and parentheses of a text

A reader of a statement keeps count of the parentheses around the place it has come to, and skips what
stands in quotes.  A text is balanced if it leaves the count as it was, its quotes closed, and never
closes what it did not open.

* `Nesting`            where a reader stands: the open quote and the number of open parentheses;
* `Nesting.Move`       what one character does to that, `next_eq_some` the only things it can do;
* `Nesting.after`      where it stands behind a text, if no parenthesis closes nothing;
* `Balanced`           texts that leave a reader outside of quotes and parentheses;
* `Flat`               texts without quotes and parentheses;
* `Balanced.append`, `Balanced.bracketed`, `Balanced.join`, `Balanced.trim`   what stays balanced.
-/

namespace PagedSql
open PagedSql.Text

structure Nesting where
  quote : Option Char
  depth : Nat
  deriving DecidableEq

/-- neither a quote nor a parenthesis -/
def isFlat (c : Char) : Bool := !isQuote c && c != '(' && c != ')'

theorem isFlat_eq_true {c : Char} : isFlat c = true ↔ isQuote c = false ∧ c ≠ '(' ∧ c ≠ ')' := by
  unfold isFlat
  simp [and_assoc]

namespace Nesting

def outside : Nesting := ⟨none, 0⟩

/-! ## one character -/

/-- one more character; there has to be a parenthesis to close -/
def next (n : Nesting) (c : Char) : Option Nesting :=
  match n.quote with
  | some q => some ⟨if c = q then none else some q, n.depth⟩
  | none =>
    if isQuote c then some ⟨some c, n.depth⟩
    else if c = '(' then some ⟨none, n.depth + 1⟩
    else if c = ')' then
      match n.depth with
      | 0 => none
      | d + 1 => some ⟨none, d⟩
    else some n

/-- what a character can do -/
inductive Move (c : Char) : Nesting → Nesting → Prop where
  | quoted (q : Char) (d : Nat) : Move c ⟨some q, d⟩ ⟨if c = q then none else some q, d⟩
  | quote (d : Nat) (h : isQuote c = true) : Move c ⟨none, d⟩ ⟨some c, d⟩
  | opening (d : Nat) (h : c = '(') : Move c ⟨none, d⟩ ⟨none, d + 1⟩
  | closing (d : Nat) (h : c = ')') : Move c ⟨none, d + 1⟩ ⟨none, d⟩
  | flat (d : Nat) (h : isFlat c = true) : Move c ⟨none, d⟩ ⟨none, d⟩

theorem next_eq_some {n m : Nesting} {c : Char} : n.next c = some m ↔ Move c n m := by
  constructor
  · obtain ⟨quote, depth⟩ := n
    intro h
    unfold next at h
    cases quote with
    | some q =>
      cases h
      exact .quoted q depth
    | none =>
      dsimp only at h
      split at h
      · next hq =>
        cases h
        exact .quote depth hq
      · next hq =>
        split at h
        · next ho =>
          cases h
          exact .opening depth ho
        · next ho =>
          split at h
          · next hc =>
            cases depth with
            | zero => cases h
            | succ d =>
              cases h
              exact .closing d hc
          · next hc =>
            cases h
            exact .flat depth (isFlat_eq_true.mpr ⟨Bool.eq_false_iff.mpr hq, ho, hc⟩)
  · intro h
    unfold next
    cases h with
    | quoted q d => rfl
    | quote d h =>
      dsimp only
      rw [if_pos h]
    | opening d h =>
      subst h
      rfl
    | closing d h =>
      subst h
      rfl
    | flat d h =>
      obtain ⟨hq, ho, hc⟩ := isFlat_eq_true.mp h
      dsimp only
      rw [hq, if_neg (by decide), if_neg ho, if_neg hc]

theorem next_flat {c : Char} (h : isFlat c = true) (d : Nat) :
    (⟨none, d⟩ : Nesting).next c = some ⟨none, d⟩ :=
  next_eq_some.mpr (.flat d h)

def raise (n : Nesting) (k : Nat) : Nesting := ⟨n.quote, n.depth + k⟩

/-- a character does the same inside of further parentheses -/
theorem next_raise {n m : Nesting} {c : Char} (h : n.next c = some m) (k : Nat) :
    (n.raise k).next c = some (m.raise k) := by
  rw [next_eq_some] at h ⊢
  unfold raise
  cases h with
  | quoted q d => exact .quoted q (d + k)
  | quote d h => exact .quote (d + k) h
  | opening d h =>
    have hdepth : d + 1 + k = d + k + 1 := by omega
    dsimp only
    rw [hdepth]
    exact .opening (d + k) h
  | closing d h =>
    have hdepth : d + 1 + k = d + k + 1 := by omega
    dsimp only
    rw [hdepth]
    exact .closing (d + k) h
  | flat d h => exact .flat (d + k) h

theorem depth_next {n m : Nesting} {c : Char} (h : n.next c = some m) :
    m.depth = n.depth ∨ (c = '(' ∧ m.depth = n.depth + 1) ∨ (c = ')' ∧ n.depth = m.depth + 1) := by
  rw [next_eq_some] at h
  cases h with
  | quoted q d => exact Or.inl rfl
  | quote d h => exact Or.inl rfl
  | opening d h => exact Or.inr (Or.inl ⟨h, rfl⟩)
  | closing d h => exact Or.inr (Or.inr ⟨h, rfl⟩)
  | flat d h => exact Or.inl rfl

/-- the open quote does not depend on the parentheses -/
theorem quote_next {n m : Nesting} {c : Char} (h : n.next c = some m) (cs : List Char) :
    quoteAfter m.quote cs = quoteAfter n.quote (c :: cs) := by
  rw [next_eq_some] at h
  cases h with
  | quoted q d => rfl
  | quote d h =>
    show quoteAfter (some c) cs = quoteAfter (if isQuote c then some c else none) cs
    rw [if_pos h]
  | opening d h =>
    subst h
    rfl
  | closing d h =>
    subst h
    rfl
  | flat d h =>
    show quoteAfter none cs = quoteAfter (if isQuote c then some c else none) cs
    rw [(isFlat_eq_true.mp h).1]
    rfl

/-! ## texts -/

def after (n : Nesting) : List Char → Option Nesting
  | [] => some n
  | c :: cs => (n.next c).bind fun m => m.after cs

theorem after_cons {n m : Nesting} {c : Char} (h : n.next c = some m) (cs : List Char) :
    n.after (c :: cs) = m.after cs := by
  rw [after, h, Option.bind_some]

theorem after_append (n : Nesting) (a b : List Char) :
    n.after (a ++ b) = (n.after a).bind fun m => m.after b := by
  induction a generalizing n with
  | nil => rfl
  | cons c a ih =>
    rw [List.cons_append, after, after, Option.bind_assoc]
    exact congrArg _ (funext fun m => ih m)

theorem after_raise {n m : Nesting} {cs : List Char} (h : n.after cs = some m) (k : Nat) :
    (n.raise k).after cs = some (m.raise k) := by
  induction cs generalizing n with
  | nil =>
    cases h
    rfl
  | cons c cs ih =>
    obtain ⟨p, hp, hrest⟩ := Option.bind_eq_some_iff.mp h
    rw [after_cons (next_raise hp k)]
    exact ih hrest

theorem quote_after {n m : Nesting} {cs : List Char} (h : n.after cs = some m) :
    m.quote = quoteAfter n.quote cs := by
  induction cs generalizing n with
  | nil =>
    cases h
    rw [quoteAfter_nil]
  | cons c cs ih =>
    obtain ⟨p, hp, hrest⟩ := Option.bind_eq_some_iff.mp h
    rw [ih hrest, quote_next hp]

theorem after_flat {cs : List Char} (h : cs.all isFlat = true) (d : Nat) :
    (⟨none, d⟩ : Nesting).after cs = some ⟨none, d⟩ := by
  induction cs with
  | nil => rfl
  | cons c cs ih =>
    rw [List.all_cons, Bool.and_eq_true] at h
    rw [after_cons (next_flat h.1 d)]
    exact ih h.2

end Nesting

/-! ## flat text -/

def Flat (s : String) : Prop := s.toList.all isFlat = true

instance (s : String) : Decidable (Flat s) := inferInstanceAs (Decidable (_ = true))

theorem Flat.append {a b : String} (ha : Flat a) (hb : Flat b) : Flat (a ++ b) := by
  unfold Flat at *
  rw [String.toList_append, List.all_append, ha, hb]
  rfl

theorem isFlat_of_isNameChar {c : Char} (h : isNameChar c = true) : isFlat c = true := by
  refine isFlat_eq_true.mpr ⟨isQuote_of_isNameChar h, ?_, ?_⟩
  · rintro rfl
    exact absurd h (by decide)
  · rintro rfl
    exact absurd h (by decide)

theorem flat_of_isName {s : String} (h : isName s.toList = true) : Flat s := by
  refine List.all_eq_true.mpr fun c hc => isFlat_of_isNameChar ?_
  exact List.all_eq_true.mp (all_isNameChar_of_isName h) c hc

theorem isFlat_of_isBlank {c : Char} (h : isBlank c = true) : isFlat c = true := by
  refine isFlat_eq_true.mpr ⟨isQuote_of_isPlain (isPlain_of_isBlank h), ?_, ?_⟩
  · rintro rfl
    exact absurd h (by decide)
  · rintro rfl
    exact absurd h (by decide)

/-! ## balanced text -/

def Balanced (s : String) : Prop := Nesting.outside.after s.toList = some .outside

instance (s : String) : Decidable (Balanced s) :=
  inferInstanceAs (Decidable (Nesting.outside.after s.toList = some .outside))

theorem Flat.balanced {s : String} (h : Flat s) : Balanced s := Nesting.after_flat h 0

/-- a text in parentheses of its own -/
def bracketed (content : String) : String := "(" ++ content ++ ")"

namespace Balanced

/-- a balanced text is balanced inside of any parentheses -/
theorem after {s : String} (h : Balanced s) (d : Nat) :
    (⟨none, d⟩ : Nesting).after s.toList = some ⟨none, d⟩ := by
  have hraise := Nesting.after_raise h d
  unfold Nesting.raise Nesting.outside at hraise
  rwa [Nat.zero_add] at hraise

theorem closed {s : String} (h : Balanced s) : Closed s := (Nesting.quote_after h).symm

theorem append {a b : String} (ha : Balanced a) (hb : Balanced b) : Balanced (a ++ b) := by
  unfold Balanced
  rw [String.toList_append, Nesting.after_append, show Nesting.outside.after a.toList = _ from ha]
  exact hb

theorem join {sep : String} (hs : Balanced sep) {ss : List String} (h : ∀ s ∈ ss, Balanced s) :
    Balanced (Text.join sep ss) := by
  induction ss with
  | nil => rfl
  | cons s ss ih =>
    have hself := h s List.mem_cons_self
    cases ss with
    | nil => exact hself
    | cons t ss =>
      rw [join_cons_cons]
      exact (hself.append hs).append (ih fun u hu => h u (List.mem_cons_of_mem _ hu))

theorem bracketed {s : String} (h : Balanced s) : Balanced (bracketed s) := by
  unfold Balanced PagedSql.bracketed
  rw [String.toList_append, String.toList_append, Nesting.after_append, Nesting.after_append]
  show ((Nesting.after ⟨none, 1⟩ s.toList).bind fun m => m.after [')']) = _
  rw [h.after 1]
  rfl

/-- blanks at the ends stand outside of quotes -/
theorem trim {s : String} (h : Balanced s) : Balanced (trim s) := by
  have hclosed : quoteAfter none (Text.trim s).toList = none := h.closed.trim
  obtain ⟨lead, trail, hl, ht, hs⟩ := exists_trim s
  have hlead : lead.toList.all isFlat = true :=
    List.all_eq_true.mpr fun c hc => isFlat_of_isBlank (hl c hc)
  have htrail : trail.toList.all isFlat = true :=
    List.all_eq_true.mpr fun c hc => isFlat_of_isBlank (ht c hc)
  unfold Balanced at h
  rw [hs, String.toList_append, String.toList_append, Nesting.after_append, Nesting.after_append,
    show Nesting.outside.after lead.toList = some ⟨none, 0⟩ from Nesting.after_flat hlead 0,
    Option.bind_some] at h
  obtain ⟨⟨quote, depth⟩, hm, hrest⟩ := Option.bind_eq_some_iff.mp h
  have hquote : quote = none := by
    have hq := Nesting.quote_after hm
    rwa [hclosed] at hq
  subst hquote
  rw [Nesting.after_flat htrail depth] at hrest
  exact hm.trans hrest

end Balanced

end PagedSql

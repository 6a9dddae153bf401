import PagedSql.Proofs.Text.Brackets

/-!
# The outline of a text

What stands outside of all parentheses is read character by character; an outermost pair of parentheses
is one part, whatever stands in it.  A balanced text that is put in parentheses is all that the pair
holds, so that nothing in it gets out.

* `Part`               a character outside of quotes or in quotes, or what a pair of parentheses holds;
* `outline`, `outlined`   a text in parts, if its quotes and parentheses are closed;
* `outline_bracketed`  a balanced text in parentheses is one part;
* `outlined_join`      the outline of such texts with a separator between them;
* `outline_source`     the parts make up the text.
-/

namespace PagedSql
open PagedSql.Text

inductive Part where
  | plain (c : Char)
  | quoted (c : Char)
  | group (content : List Char)
  deriving DecidableEq

def Part.source : Part → List Char
  | plain c => [c]
  | quoted c => [c]
  | group content => '(' :: content ++ [')']

/-- characters outside of parentheses one by one, all else as what stands in an outermost pair -/
def outline (n : Nesting) (content : List Char) : List Char → Option (List Part)
  | [] => if n = .outside then some [] else none
  | c :: cs =>
    match n.next c with
    | none => none
    | some m =>
      match n.depth, m.depth with
      | 0, 0 =>
        (outline m [] cs).map
          ((if n.quote = none ∧ m.quote = none then Part.plain c else Part.quoted c) :: ·)
      | 0, _ + 1 => outline m [] cs
      | _ + 1, 0 => (outline m [] cs).map (Part.group content :: ·)
      | _ + 1, _ + 1 => outline m (content ++ [c]) cs

def outlined (s : String) : Option (List Part) := outline .outside [] s.toList

/-- text outside of quotes and parentheses -/
def openText (s : String) : List Part := s.toList.map .plain

theorem outline_flat {cs : List Char} (h : cs.all isFlat = true) (rest : List Char) :
    outline .outside [] (cs ++ rest) = (outline .outside [] rest).map (cs.map .plain ++ ·) := by
  induction cs with
  | nil =>
    rw [List.nil_append, List.map_nil]
    cases outline .outside [] rest with
    | none => rfl
    | some ps => rfl
  | cons c cs ih =>
    rw [List.all_cons, Bool.and_eq_true] at h
    have hnext : Nesting.outside.next c = some .outside := Nesting.next_flat h.1 0
    rw [List.cons_append, outline, hnext]
    show (outline .outside [] (cs ++ rest)).map (Part.plain c :: ·) = _
    rw [ih h.2, Option.map_map]
    rfl

/-- inside of a pair of parentheses the content grows -/
theorem outline_inside {n m : Nesting} {cs : List Char} (h : n.after cs = some m)
    (content rest : List Char) :
    outline (n.raise 1) content (cs ++ rest) = outline (m.raise 1) (content ++ cs) rest := by
  induction cs generalizing n content with
  | nil =>
    cases h
    rw [List.nil_append, List.append_nil]
  | cons c cs ih =>
    obtain ⟨p, hp, hrest⟩ := Option.bind_eq_some_iff.mp h
    rw [List.cons_append, outline, Nesting.next_raise hp 1]
    show outline (p.raise 1) (content ++ [c]) (cs ++ rest) = _
    rw [ih hrest, List.append_assoc, List.singleton_append]

theorem outline_bracketed {s : String} (h : Balanced s) (rest : List Char) :
    outline .outside [] ((bracketed s).toList ++ rest) =
      (outline .outside [] rest).map (Part.group s.toList :: ·) := by
  have hopen : (bracketed s).toList ++ rest = '(' :: (s.toList ++ (')' :: rest)) := by
    unfold bracketed
    rw [String.toList_append, String.toList_append, List.append_assoc, List.append_assoc]
    rfl
  rw [hopen]
  show outline (Nesting.outside.raise 1) [] (s.toList ++ (')' :: rest)) = _
  rw [outline_inside h, List.nil_append]
  rfl

/-- conditions in parentheses and nothing but a separator between them -/
theorem outlined_join {sep : String} (hs : Flat sep) {contents : List String}
    (h : ∀ c ∈ contents, Balanced c) :
    outlined (Text.join sep (contents.map bracketed)) =
      some (List.intercalate (openText sep) (contents.map fun c => [Part.group c.toList])) := by
  induction contents with
  | nil => rfl
  | cons c contents ih =>
    have hfirst := h c List.mem_cons_self
    have hrest := ih fun d hd => h d (List.mem_cons_of_mem _ hd)
    cases contents with
    | nil =>
      have hone := outline_bracketed hfirst []
      rw [List.append_nil] at hone
      exact hone
    | cons d contents =>
      unfold outlined at hrest ⊢
      rw [List.map_cons, List.map_cons] at hrest ⊢
      rw [List.map_cons, join_cons_cons, String.toList_append, String.toList_append,
        List.append_assoc, outline_bracketed hfirst, outline_flat hs, hrest, List.map_cons,
        List.intercalate_cons_cons]
      rfl

/-! ## nothing is lost -/

/-- what has been read and not yet given out -/
def Nesting.pending (n : Nesting) (content : List Char) : List Char :=
  match n.depth with
  | 0 => []
  | _ + 1 => '(' :: content

/-- nothing is lost or added: the sources of the parts are the text -/
theorem outline_source {n : Nesting} {content cs : List Char} {ps : List Part}
    (h : outline n content cs = some ps) : ps.flatMap Part.source = n.pending content ++ cs := by
  induction cs generalizing n content ps with
  | nil =>
    unfold outline at h
    split at h
    · next hn =>
      cases h
      rw [hn]
      rfl
    · cases h
  | cons c cs ih =>
    unfold outline at h
    cases hnext : n.next c with
    | none =>
      rw [hnext] at h
      cases h
    | some m =>
      have hdepth := Nesting.depth_next hnext
      rw [hnext] at h
      unfold Nesting.pending
      dsimp only at h
      split at h
      · next hn hm =>
        obtain ⟨qs, hqs, rfl⟩ := Option.map_eq_some_iff.mp h
        have hrest := ih hqs
        rw [Nesting.pending, hm] at hrest
        rw [hn, List.flatMap_cons, hrest]
        split
        · rfl
        · rfl
      · next d hn hm =>
        have hc : c = '(' := by
          rcases hdepth with hd | ⟨ho, _⟩ | ⟨_, hd⟩
          · omega
          · exact ho
          · omega
        have hrest := ih h
        rw [Nesting.pending, hm] at hrest
        rw [hn, hrest, hc]
        rfl
      · next d hn hm =>
        have hc : c = ')' := by
          rcases hdepth with hd | ⟨_, hd⟩ | ⟨ho, _⟩
          · omega
          · omega
          · exact ho
        obtain ⟨qs, hqs, rfl⟩ := Option.map_eq_some_iff.mp h
        have hrest := ih hqs
        rw [Nesting.pending, hm] at hrest
        rw [hn, List.flatMap_cons, hrest, hc]
        simp [Part.source]
      · next d e hn hm =>
        have hrest := ih h
        rw [Nesting.pending, hm] at hrest
        rw [hn, hrest]
        simp

end PagedSql

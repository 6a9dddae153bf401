/-!
# Cutting text at separators and joining it again

* `splitOn`   the parts between the occurrences of one character; there is always at least one;
* `cutAt`     the text before and after the first occurrence of a separator;
* `join`      texts one after the other with a separator between them.
-/

namespace PagedSql.Text

/-! ## parts between one character -/

def splitChars (sep : Char) : List Char → List (List Char)
  | [] => [[]]
  | c :: cs =>
    if c = sep then [] :: splitChars sep cs
    else
      match splitChars sep cs with
      | [] => [[c]]
      | part :: parts => (c :: part) :: parts

theorem splitChars_ne_nil (sep : Char) (cs : List Char) : splitChars sep cs ≠ [] := by
  cases cs with
  | nil => simp [splitChars]
  | cons c cs =>
    unfold splitChars
    split
    · simp
    · split <;> simp

def splitOn (sep : Char) (s : String) : List String :=
  (splitChars sep s.toList).map String.ofList

/-! ## before and after the first separator -/

/-- the rest of the list behind `pre`, if it starts with `pre` -/
def after? : List Char → List Char → Option (List Char)
  | [], cs => some cs
  | _ :: _, [] => none
  | p :: pre, c :: cs => if p = c then after? pre cs else none

theorem after?_append (pre cs : List Char) : after? pre (pre ++ cs) = some cs := by
  induction pre with
  | nil => rfl
  | cons p pre ih => simpa [after?] using ih

theorem eq_append_of_after? {pre cs rest : List Char} (h : after? pre cs = some rest) :
    cs = pre ++ rest := by
  induction pre generalizing cs with
  | nil => simpa [after?] using h
  | cons p pre ih =>
    cases cs with
    | nil => simp [after?] at h
    | cons c cs =>
      unfold after? at h
      split at h
      · next hpc => rw [hpc, ih h, List.cons_append]
      · simp at h

/-- what stands before and after the first occurrence of the separator -/
def cutChars (sep : List Char) : List Char → Option (List Char × List Char)
  | [] => (after? sep []).map fun rest => ([], rest)
  | c :: cs =>
    match after? sep (c :: cs) with
    | some rest => some ([], rest)
    | none => (cutChars sep cs).map fun (before, rest) => (c :: before, rest)

def cutAt (sep s : String) : Option (String × String) :=
  (cutChars sep.toList s.toList).map fun (before, rest) =>
    (String.ofList before, String.ofList rest)

/-! ## joining -/

def join (sep : String) : List String → String
  | [] => ""
  | [s] => s
  | s :: t :: rest => s ++ sep ++ join sep (t :: rest)

theorem join_singleton (sep s : String) : join sep [s] = s := rfl
theorem join_cons_cons (sep s t : String) (rest : List String) :
    join sep (s :: t :: rest) = s ++ sep ++ join sep (t :: rest) := rfl

end PagedSql.Text

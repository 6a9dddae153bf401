import PagedSql.Text.AlphanumericTable
import PagedSql.Text.CaseTable

/-!
# Letters of every alphabet

* `inRanges`        the number lies in one of the ranges, both ends included;
* `isAlphanumeric`  the character is alphabetic or numeric;
* `lowerChar`       the lower-case form of one character, from the tables; a dotted capital I gives two
                    characters;
* `lowercase`       the lower-case form of a text.  A capital sigma becomes the final form `ς` exactly
                    when a cased letter stands before it and none after it, marks that do not end a
                    word looked through.
-/

namespace PagedSql.Text

/-! ## kinds of characters -/

def inRanges (ranges : List (Nat × Nat)) (n : Nat) : Bool :=
  ranges.any fun (first, last) => first ≤ n && n ≤ last

def isAlphanumeric (c : Char) : Bool :=
  c.isAlphanum || inRanges lowAlphanumerics c.toNat || inRanges midAlphanumerics c.toNat ||
    inRanges highAlphanumerics c.toNat

def isCased (c : Char) : Bool := inRanges casedRanges c.toNat

def isSkipped (c : Char) : Bool := inRanges skippedRanges c.toNat

/-! ## one character -/

/-- the code point of the lower-case form, where that is a single character -/
def lowerCode (n : Nat) : Nat :=
  match lowerRuns.find? fun (first, last, _) => first ≤ n && n ≤ last with
  | some (_, _, offset) => ((n : Int) + offset).toNat
  | none =>
    if lowerPairs.any fun (first, last) => first ≤ n && n ≤ last && (n - first) % 2 = 0 then n + 1
    else n

def lowerChar (c : Char) : List Char :=
  if c.toNat < 0x80 then [c.toLower]
  else if c = 'İ' then ['i', '\u0307']
  else [Char.ofNat (lowerCode c.toNat)]

theorem lowerChar_ascii {c : Char} (h : c.toNat < 0x80) : lowerChar c = [c.toLower] := by
  simp [lowerChar, h]

/-! ## text -/

/-- the next character that matters for the end of a word is a cased letter -/
def casedNext (cs : List Char) : Bool :=
  match cs.dropWhile isSkipped with
  | [] => false
  | c :: _ => isCased c

/-- lower case of `cs`, where `before` is the text in front of it, nearest character first -/
def lowerFrom (before : List Char) : List Char → List Char
  | [] => []
  | c :: cs =>
    let now :=
      if c = 'Σ' then [if casedNext before && !casedNext cs then 'ς' else 'σ'] else lowerChar c
    now ++ lowerFrom (c :: before) cs

def lowercase (s : String) : String := String.ofList (lowerFrom [] s.toList)

end PagedSql.Text

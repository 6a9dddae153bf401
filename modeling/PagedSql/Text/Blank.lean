/-!
# Blank characters and trimmed text

* `isBlank`    the white-space property of the standard, as a function on characters;
* `trimStart`  a text without the blanks in front;
* `trim`       a text without the blanks at both ends;
* `Blank`      texts that hold nothing but blanks, the ones every optional field ignores.
-/

namespace PagedSql.Text

/-- the characters of the white-space property; the zero-width space is not one of them -/
def isBlank (c : Char) : Bool :=
  let n := c.toNat
  (9 ≤ n && n ≤ 13) || n = 0x20 || n = 0x85 || n = 0xa0 || n = 0x1680 || (0x2000 ≤ n && n ≤ 0x200a) ||
    n = 0x2028 || n = 0x2029 || n = 0x202f || n = 0x205f || n = 0x3000

/-! ## on lists of characters -/

def dropBlanks (cs : List Char) : List Char := cs.dropWhile isBlank

def dropBlanksEnd (cs : List Char) : List Char := (dropBlanks cs.reverse).reverse

def trimChars (cs : List Char) : List Char := dropBlanksEnd (dropBlanks cs)

theorem dropBlanks_nil : dropBlanks [] = [] := rfl

theorem dropBlanks_cons (c : Char) (cs : List Char) :
    dropBlanks (c :: cs) = if isBlank c then dropBlanks cs else c :: cs := by
  unfold dropBlanks
  rw [List.dropWhile_cons]

/-! ## on text -/

def trimStart (s : String) : String := String.ofList (dropBlanks s.toList)

def trim (s : String) : String := String.ofList (trimChars s.toList)

theorem toList_trimStart (s : String) : (trimStart s).toList = dropBlanks s.toList := by
  simp [trimStart]

theorem toList_trim (s : String) : (trim s).toList = trimChars s.toList := by
  simp [trim]

/-- the text is empty once trimmed -/
def Blank (s : String) : Prop := trim s = ""

instance (s : String) : Decidable (Blank s) := inferInstanceAs (Decidable (trim s = ""))

end PagedSql.Text

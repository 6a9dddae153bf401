/-!
# The ASCII side of text

Keywords, operator names and parameter names know the letters `A`–`Z` only, whatever else a text
holds.

* `lowerAscii`   small letters for the capitals `A`–`Z`, all else unchanged;
* `SameWord`     equality of two texts up to the case of those letters;
* `isNameStart`  the characters that may open a name: letters and `_`;
* `isNameChar`   the characters that may continue one: letters, digits and `_`.
-/

namespace PagedSql.Text

def lowerAscii (s : String) : String := String.ofList (s.toList.map Char.toLower)

theorem toList_lowerAscii (s : String) : (lowerAscii s).toList = s.toList.map Char.toLower := by
  simp [lowerAscii]

def SameWord (s t : String) : Prop := lowerAscii s = lowerAscii t

instance (s t : String) : Decidable (SameWord s t) :=
  inferInstanceAs (Decidable (lowerAscii s = lowerAscii t))

def isNameStart (c : Char) : Bool := c.isAlpha || c = '_'

def isNameChar (c : Char) : Bool := c.isAlphanum || c = '_'

theorem isNameChar_of_isNameStart {c : Char} (h : isNameStart c = true) : isNameChar c = true := by
  unfold isNameStart at h
  unfold isNameChar Char.isAlphanum
  cases ha : c.isAlpha <;> simp_all

end PagedSql.Text

import PagedSql.Value
import PagedSql.Decimal.Reading
import PagedSql.Calendar.Reading
import PagedSql.Text.Ascii

/-!
# Kinds of values, and reading a value of a kind

* `Kind`         the declared kind of a column; text unless said otherwise;
* `Value.infer`  the most specific value a text can be: a boolean, a whole number, a finite number,
                 or the text as it stands;
* `Kind.read`    the value of the kind that a text denotes, if it denotes one.  Blanks at both ends
                 do not count, except in text, which is kept as it stands.
-/

namespace PagedSql
open PagedSql.Text PagedSql.Decimal PagedSql.Calendar

inductive Kind where
  | text
  | inferred
  | integer
  | float
  | boolean
  | date
  | timestamp
  deriving DecidableEq, Repr

instance : Inhabited Kind := ⟨.text⟩

def Kind.name : Kind → String
  | .text => "text"
  | .inferred => "inferred"
  | .integer => "integer"
  | .float => "float"
  | .boolean => "boolean"
  | .date => "date"
  | .timestamp => "timestamp"

def readBoolean (s : String) : Option Bool :=
  let word := lowerAscii (trim s)
  if word = "true" ∨ word = "1" then some true
  else if word = "false" ∨ word = "0" then some false
  else none

def Value.infer (raw : String) : Value :=
  let word := trim raw
  if SameWord word "true" then .bool true
  else if SameWord word "false" then .bool false
  else
    match readInt64 word with
    | some n => .int n
    | none =>
      match readBinary64 word with
      | some x => .float x
      | none => .text raw

def Kind.read (raw : String) : Kind → Option Value
  | .text => some (.text raw)
  | .inferred => some (.infer raw)
  | .integer => (readInt64 (trim raw)).map .int
  | .float => (readBinary64 (trim raw)).map .float
  | .boolean => (readBoolean raw).map .bool
  | .date => (readDate raw).map .date
  | .timestamp => (readInstant raw).map .timestamp

theorem Kind.read_text (raw : String) : Kind.text.read raw = some (.text raw) := rfl
theorem Kind.read_inferred (raw : String) : Kind.inferred.read raw = some (.infer raw) := rfl

/-- no text is read as the missing value -/
theorem Kind.read_ne_null (k : Kind) (raw : String) : k.read raw ≠ some .null := by
  cases k with
  | text => simp [Kind.read]
  | inferred =>
    simp only [Kind.read, Value.infer]
    split
    · simp
    · split
      · simp
      · split
        · simp
        · split <;> simp
  | integer => simp [Kind.read]
  | float => simp [Kind.read]
  | boolean => simp [Kind.read]
  | date => simp [Kind.read]
  | timestamp => simp [Kind.read]

end PagedSql

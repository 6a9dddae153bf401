import PagedSql.Text.Split
import PagedSql.Text.Ascii
import PagedSql.Decimal.Integer

/-!
# Names of tables and columns

Names stand in the text of a statement, so they are held to a narrow grammar: one part or two with a
point between them, each an ASCII letter or `_` followed by letters, digits and `_`, of at most 63
bytes, and no keyword.

* `Rejection`        why a text is no such name;
* `fault?`           the first fault of a text, parts taken from the left;
* `Identifier`       a text without a fault;
* `Identifier.read`  a text as a name, unchanged, or its fault.
-/

namespace PagedSql
open PagedSql.Decimal

inductive Rejection where
  | invalidCharacters (name : String)
  | tooLong (name : String) (length : Nat)
  | empty
  | invalidStart (name : String)
  | reserved (name : String)
  | tooManyParts (name : String)
  deriving DecidableEq, Repr

namespace Identifier

/-- bytes allowed in one part -/
def maxLength : Nat := 63

def maxParts : Nat := 2

def reservedWords : List String :=
  ["SELECT", "INSERT", "UPDATE", "DELETE", "MERGE", "FROM", "WHERE", "JOIN", "INNER", "LEFT",
    "RIGHT", "FULL", "OUTER", "CROSS", "ON", "AS", "AND", "OR", "NOT", "NULL", "TRUE", "FALSE",
    "CASE", "WHEN", "THEN", "ELSE", "END", "EXISTS", "IN", "IS", "LIKE", "ILIKE", "BETWEEN",
    "ORDER", "BY", "GROUP", "HAVING", "LIMIT", "OFFSET", "FETCH", "UNION", "INTERSECT", "EXCEPT",
    "ALL", "ANY", "DISTINCT", "CREATE", "DROP", "ALTER", "TRUNCATE", "GRANT", "REVOKE", "TABLE",
    "INTO", "VALUES", "SET", "WITH", "RETURNING", "ASC", "DESC"]

def isReserved (part : List Char) : Bool :=
  reservedWords.contains (String.ofList (part.map Char.toUpper))

/-- length of a text in UTF-8 -/
def byteLength : List Char → Nat
  | [] => 0
  | c :: cs => c.utf8Size + byteLength cs

end Identifier

open Identifier Text

def Rejection.message : Rejection → String
  | .invalidCharacters name =>
    "Invalid characters in name '" ++ name ++ "': only alphanumeric characters and underscores are allowed"
  | .tooLong name length =>
    "Name '" ++ name ++ "' is too long: " ++ natText length ++ " characters (max " ++ natText maxLength ++ ")"
  | .empty => "Name cannot be empty"
  | .invalidStart name => "Name '" ++ name ++ "' must start with a letter or underscore"
  | .reserved name => "Name '" ++ name ++ "' is a reserved SQL keyword"
  | .tooManyParts name =>
    "Name '" ++ name ++ "' has too many parts (at most " ++ natText maxParts ++ " dot-separated parts)"

namespace Identifier

/-- the fault of one part of `name` -/
def partFault? (name : String) : List Char → Option Rejection
  | [] => some .empty
  | c :: cs =>
    if maxLength < byteLength (c :: cs) then some (.tooLong name (byteLength (c :: cs)))
    else if ¬ isNameStart c then some (.invalidStart name)
    else if ¬ (c :: cs).all isNameChar then some (.invalidCharacters name)
    else if isReserved (c :: cs) then some (.reserved name)
    else none

def fault? (name : String) : Option Rejection :=
  if name = "" then some .empty
  else
    let parts := splitChars '.' name.toList
    if maxParts < parts.length then some (.tooManyParts name)
    else parts.findSome? (partFault? name)

end Identifier

structure Identifier where
  text : String
  faultless : Identifier.fault? text = none

namespace Identifier

def read (name : String) : Except Rejection Identifier :=
  match h : fault? name with
  | some r => .error r
  | none => .ok ⟨name, h⟩

theorem read_of_none {name : String} (h : fault? name = none) : read name = .ok ⟨name, h⟩ := by
  unfold read
  split
  · next r hr => rw [h] at hr; cases hr
  · rfl

theorem read_of_some {name : String} {r : Rejection} (h : fault? name = some r) :
    read name = .error r := by
  unfold read
  split
  · next s hs => rw [h] at hs; cases hs; rfl
  · next hn => rw [h] at hn; cases hn

end Identifier

end PagedSql

import PagedSql.Placeholder.Piece
import PagedSql.Bindings
import PagedSql.Decimal.Integer

/-!
# Statements with numbered placeholders

* `Unbound`    a placeholder without a value;
* `Numbered`   a statement whose placeholders are `$1`, `$2`, …, and their values in that order;
* `number`     names become numbers in the order of their first occurrence; a name that comes again
               keeps its number;
* `numbered`   the same for the text of a statement.
-/

namespace PagedSql
open PagedSql.Decimal

structure Unbound where
  name : String
  deriving DecidableEq, Repr

def Unbound.message (u : Unbound) : String := "Placeholder @" ++ u.name ++ " has no bound parameter"

structure Numbered where
  sql : String
  values : List Value
  deriving DecidableEq

def position (n : Nat) : List Char := '$' :: Nat.toDigits 10 n

/-- text and values of the pieces, behind pieces with the names `known` -/
def number (b : Bindings) (known : List (List Char)) :
    List Piece → Except Unbound (List Char × List Value)
  | [] => .ok ([], [])
  | .char c :: rest =>
    match number b known rest with
    | .error u => .error u
    | .ok (sql, values) => .ok (c :: sql, values)
  | .name n :: rest =>
    match known.idxOf? n with
    | some i =>
      match number b known rest with
      | .error u => .error u
      | .ok (sql, values) => .ok (position (i + 1) ++ sql, values)
    | none =>
      match b.find? (String.ofList n) with
      | none => .error ⟨String.ofList n⟩
      | some value =>
        match number b (known ++ [n]) rest with
        | .error u => .error u
        | .ok (sql, values) => .ok (position (known.length + 1) ++ sql, value :: values)

def numbered (sql : String) (b : Bindings) : Except Unbound Numbered :=
  match number b [] (pieces (.plain none) sql.toList) with
  | .error u => .error u
  | .ok (sql, values) => .ok ⟨String.ofList sql, values⟩

end PagedSql

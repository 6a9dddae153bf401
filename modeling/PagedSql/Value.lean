import PagedSql.Decimal.Shortest
import PagedSql.Calendar.Instant

/-!
# Values of a parameter

* `Value`            what a statement can be given for a placeholder;
* `Value.describe`   a value as it is shown to a reader: text and times in single quotes, without any
                     escaping.
-/

namespace PagedSql
open PagedSql.Decimal PagedSql.Calendar

inductive Value where
  | null
  | bool (b : Bool)
  | int (n : Int64)
  | float (x : Binary64)
  | text (s : String)
  | date (d : Date)
  | timestamp (t : Instant)
  deriving DecidableEq

namespace Value

def isNull : Value → Bool
  | null => true
  | _ => false

def describe : Value → String
  | null => "NULL"
  | bool b => if b then "true" else "false"
  | int n => intText n.toInt
  | float x => binary64Text x
  | text s => "'" ++ s ++ "'"
  | date d => "'" ++ d.text ++ "'"
  | timestamp t => "'" ++ t.text ++ "'"

end Value

end PagedSql

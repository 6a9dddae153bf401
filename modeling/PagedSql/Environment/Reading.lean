import PagedSql.Environment
import PagedSql.Environment.Assignment
import PagedSql.Environment.Line

/-!
# Environment files

* `Environment.readLines`   the environment behind lines that are read one after the other, so that
                            a line can refer to the ones before it;
* `Environment.extend`      the environment behind a whole text, without its byte order mark.

Variables that have a text keep it, so of two assignments to one name the first counts.
-/

namespace PagedSql.Environment

/-- an unknown variable stands for nothing -/
def valueOf (e : Environment) (name : List Char) : List Char :=
  ((e.text? (String.ofList name)).getD "").toList

def readLines (e : Environment) : List (List Char) → Option Environment
  | [] => some e
  | line :: lines =>
    match readLine e.valueOf line with
    | none => none
    | some none => e.readLines lines
    | some (some a) => (e.supply a.name a.value).readLines lines

def dropMark : List Char → List Char
  | '\ufeff' :: cs => cs
  | cs => cs

/-- none if a line is refused -/
def extend (e : Environment) (text : String) : Option Environment :=
  (logicalLines (dropMark text.toList)).bind e.readLines

end PagedSql.Environment

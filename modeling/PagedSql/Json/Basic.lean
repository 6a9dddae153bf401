import PagedSql.Decimal.Integer

/-!
# JSON values and their compact text

* `Json`         a value as it is written: the text of a number, and the members of an object in order,
                 repeated names too.  The text of a string is absent if its escapes leave half of a
                 surrogate pair;
* `quote`        a text as a string, quotes, backslashes and control characters escaped;
* `Json.render`  a value without blanks.
-/

namespace PagedSql

inductive Json where
  | null
  | bool (b : Bool)
  | number (text : String)
  | string (text : Option String)
  | array (elements : List Json)
  | object (members : List (Option String × Json))

namespace Json

/-! ## strings -/

def hexDigit (n : Nat) : Char := if n < 10 then Char.ofNat (48 + n) else Char.ofNat (87 + n)

def escapeChar (c : Char) : List Char :=
  if c = '"' then ['\\', '"']
  else if c = '\\' then ['\\', '\\']
  else if c = '\x08' then ['\\', 'b']
  else if c = '\t' then ['\\', 't']
  else if c = '\n' then ['\\', 'n']
  else if c = '\x0c' then ['\\', 'f']
  else if c = '\r' then ['\\', 'r']
  else if c.toNat < 0x20 then
    ['\\', 'u', '0', '0', hexDigit (c.toNat / 16), hexDigit (c.toNat % 16)]
  else [c]

def quote (s : String) : String := "\"" ++ String.ofList (s.toList.flatMap escapeChar) ++ "\""

/-! ## values -/

mutual

def render : Json → String
  | null => "null"
  | bool b => if b then "true" else "false"
  | number text => text
  | string text => quote (text.getD "")
  | array elements => "[" ++ renderElements elements ++ "]"
  | object members => "\x7b" ++ renderMembers members ++ "\x7d"

def renderElements : List Json → String
  | [] => ""
  | [j] => render j
  | j :: k :: rest => render j ++ "," ++ renderElements (k :: rest)

def renderMembers : List (Option String × Json) → String
  | [] => ""
  | [(name, j)] => quote (name.getD "") ++ ":" ++ render j
  | (name, j) :: m :: rest => quote (name.getD "") ++ ":" ++ render j ++ "," ++ renderMembers (m :: rest)

end

def ofText (s : String) : Json := string (some s)

def ofInt (n : Int) : Json := number (Decimal.intText n)

/-- an object with names that are plain text -/
def ofMembers (members : List (String × Json)) : Json :=
  object (members.map fun (name, j) => (some name, j))

end Json

end PagedSql

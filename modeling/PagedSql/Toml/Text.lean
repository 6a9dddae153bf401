import PagedSql.Json.Reading

/-!
# Strings of TOML

A string stands in double or single quotes, one or three of them.  Only double quotes know escapes;
only three quotes let the string go over several lines.

* `Quotation`   which of the four it is;
* `Mode`        where the reading stands inside the string;
* `step`        what one character does;
* `readText`    a string up to its closing quotes, and what follows it.
-/

namespace PagedSql.Toml

structure Quotation where
  quote : Char
  multiline : Bool
  deriving DecidableEq, Repr

def Quotation.escapes (q : Quotation) : Bool := q.quote = '"'

inductive Mode where
  | plain
  /-- so many quotes in a row that may turn out to close the string -/
  | quotes (n : Nat)
  | escape
  /-- so many hexadecimal digits to come, behind a number -/
  | digits (left value : Nat)
  | carriage
  /-- behind a backslash at the end of a line: its blanks, then all blanks and line ends -/
  | lineEnd
  | lineEndCarriage
  | skipping
  | skippingCarriage
  deriving DecidableEq, Repr

inductive Move where
  | go (out : List Char) (next : Mode)
  /-- the string ends with this character -/
  | closeWith (out : List Char)
  /-- the string has ended before this character -/
  | closeBefore (out : List Char)
  | refuse
  deriving DecidableEq, Repr

def isBlank (c : Char) : Bool := c = ' ' || c = '\t'

/-- characters that may stand in a line: no control characters but the tab -/
def isLineChar (c : Char) : Bool := c = '\t' || (0x20 ≤ c.toNat && c.toNat ≠ 0x7f)

def plainStep (q : Quotation) (c : Char) : Move :=
  if c = q.quote then if q.multiline then .go [] (.quotes 1) else .closeWith []
  else if c = '\\' ∧ q.escapes then .go [] .escape
  else if isLineChar c then .go [c] .plain
  else if c = '\n' ∧ q.multiline then .go [c] .plain
  else if c = '\r' ∧ q.multiline then .go [c] .carriage
  else .refuse

def simpleEscape (c : Char) : Option Char :=
  if c = 'b' then some '\x08'
  else if c = 't' then some '\t'
  else if c = 'n' then some '\n'
  else if c = 'f' then some '\x0c'
  else if c = 'r' then some '\r'
  else if c = 'e' then some '\x1b'
  else if c = '"' ∨ c = '\\' then some c
  else none

def escapeStep (q : Quotation) (c : Char) : Move :=
  match simpleEscape c with
  | some e => .go [e] .plain
  | none =>
    if c = 'x' then .go [] (.digits 2 0)
    else if c = 'u' then .go [] (.digits 4 0)
    else if c = 'U' then .go [] (.digits 8 0)
    else if q.multiline ∧ isBlank c then .go [] .lineEnd
    else if q.multiline ∧ c = '\n' then .go [] .skipping
    else if q.multiline ∧ c = '\r' then .go [] .lineEndCarriage
    else .refuse

def isScalar (n : Nat) : Bool := n < 0xd800 || (0xe000 ≤ n && n ≤ 0x10ffff)

/-- a run of quotes goes on, closes the string if it is long enough, or was part of it -/
def quotesStep (q : Quotation) (n : Nat) (c : Char) : Move :=
  if c = q.quote then
    if n = 4 then .closeWith [q.quote, q.quote] else .go [] (.quotes (n + 1))
  else if 3 ≤ n then .closeBefore (List.replicate (n - 3) q.quote)
  else
    match plainStep q c with
    | .go out next => .go (List.replicate n q.quote ++ out) next
    | other => other

def step (q : Quotation) (c : Char) : Mode → Move
  | .plain => plainStep q c
  | .quotes n => quotesStep q n c
  | .escape => escapeStep q c
  | .digits left value =>
    match Json.hexValue c with
    | none => .refuse
    | some d =>
      let value := 16 * value + d
      if 1 < left then .go [] (.digits (left - 1) value)
      else if isScalar value then .go [Char.ofNat value] .plain
      else .refuse
  | .carriage => if c = '\n' then .go [c] .plain else .refuse
  | .lineEnd =>
    if isBlank c then .go [] .lineEnd
    else if c = '\n' then .go [] .skipping
    else if c = '\r' then .go [] .lineEndCarriage
    else .refuse
  | .lineEndCarriage => if c = '\n' then .go [] .skipping else .refuse
  | .skipping =>
    if isBlank c || c = '\n' then .go [] .skipping
    else if c = '\r' then .go [] .skippingCarriage
    else plainStep q c
  | .skippingCarriage => if c = '\n' then .go [] .skipping else .refuse

/-- the rest of a string, and what follows it -/
def readFrom (q : Quotation) : Mode → List Char → Option (List Char × List Char)
  | .quotes n, [] => if 3 ≤ n then some (List.replicate (n - 3) q.quote, []) else none
  | _, [] => none
  | mode, c :: cs =>
    match step q c mode with
    | .go out next => (readFrom q next cs).map fun (more, rest) => (out ++ more, rest)
    | .closeWith out => some (out, cs)
    | .closeBefore out => some (out, c :: cs)
    | .refuse => none

/-- a line end right behind three quotes does not count -/
def dropLineEnd : List Char → List Char
  | '\n' :: cs => cs
  | '\r' :: '\n' :: cs => cs
  | cs => cs

/-- a string behind its first quote -/
def readText (quote : Char) (cs : List Char) : Option (String × List Char) :=
  let found :=
    match cs with
    | a :: b :: rest =>
      if a = quote ∧ b = quote then readFrom ⟨quote, true⟩ .plain (dropLineEnd rest)
      else readFrom ⟨quote, false⟩ .plain cs
    | _ => readFrom ⟨quote, false⟩ .plain cs
  found.map fun (cs, rest) => (String.ofList cs, rest)

/-- a string of one line behind its first quote, as keys may be -/
def readLineText (quote : Char) (cs : List Char) : Option (String × List Char) :=
  (readFrom ⟨quote, false⟩ .plain cs).map fun (cs, rest) => (String.ofList cs, rest)

end PagedSql.Toml

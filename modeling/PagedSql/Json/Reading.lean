import PagedSql.Json.Basic

/-!
# Reading JSON

Readers take a value from the front of a text and leave the rest.

* `readUnits`     a string up to its closing quote, as characters and halves of surrogate pairs;
* `takeNumber`    a number, as it is written;
* `readValue`     any value; the first argument bounds the number of steps;
* `Json.read`     a text that holds one value and blanks around it.
-/

namespace PagedSql.Json

def isBlank (c : Char) : Bool := c = ' ' || c = '\t' || c = '\n' || c = '\r'

def skipBlanks (cs : List Char) : List Char := cs.dropWhile isBlank

/-! ## strings -/

/-- what stands in a string: a character, or an escape that is half of a pair -/
inductive TextUnit where
  | char (c : Char)
  | half (n : Nat)
  deriving DecidableEq, Repr

def hexValue (c : Char) : Option Nat :=
  if c.isDigit then some (c.toNat - 48)
  else if 'a' ≤ c ∧ c ≤ 'f' then some (c.toNat - 87)
  else if 'A' ≤ c ∧ c ≤ 'F' then some (c.toNat - 55)
  else none

def hexNumber : List Char → Option Nat :=
  fun cs => cs.foldlM (fun n c => (hexValue c).map (16 * n + ·)) 0

def unitOf (n : Nat) : TextUnit := if 0xd800 ≤ n ∧ n < 0xe000 then .half n else .char (Char.ofNat n)

/-- the character behind a backslash -/
def escaped (c : Char) : Option Char :=
  if c = '"' ∨ c = '\\' ∨ c = '/' then some c
  else if c = 'b' then some '\x08'
  else if c = 'f' then some '\x0c'
  else if c = 'n' then some '\n'
  else if c = 'r' then some '\r'
  else if c = 't' then some '\t'
  else none

def readUnits : List Char → Option (List TextUnit × List Char)
  | [] => none
  | '"' :: cs => some ([], cs)
  | '\\' :: 'u' :: a :: b :: c :: d :: cs =>
    match hexNumber [a, b, c, d], readUnits cs with
    | some n, some (units, rest) => some (unitOf n :: units, rest)
    | _, _ => none
  | '\\' :: e :: cs =>
    match escaped e, readUnits cs with
    | some c, some (units, rest) => some (.char c :: units, rest)
    | _, _ => none
  | c :: cs =>
    if c = '\\' ∨ c.toNat < 0x20 then none
    else (readUnits cs).map fun (units, rest) => (.char c :: units, rest)

/-- the text of the units; halves have to come in pairs, the high one first -/
def joinUnits : List TextUnit → Option (List Char)
  | [] => some []
  | .char c :: units => (joinUnits units).map (c :: ·)
  | .half high :: .half low :: units =>
    if high < 0xdc00 ∧ 0xdc00 ≤ low then
      (joinUnits units).map (Char.ofNat (0x10000 + (high - 0xd800) * 0x400 + (low - 0xdc00)) :: ·)
    else none
  | .half _ :: _ => none

def unitsText (units : List TextUnit) : Option String := (joinUnits units).map String.ofList

/-! ## numbers -/

def spanDigits (cs : List Char) : List Char × List Char :=
  (cs.takeWhile Char.isDigit, cs.dropWhile Char.isDigit)

/-- digits without a zero in front, zero alone apart -/
def takeWhole (cs : List Char) : Option (List Char × List Char) :=
  match cs with
  | '0' :: rest => some (['0'], rest)
  | _ =>
    match spanDigits cs with
    | ([], _) => none
    | found => some found

/-- nothing, or a point and digits -/
def takePlaces : List Char → Option (List Char × List Char)
  | '.' :: cs =>
    match spanDigits cs with
    | ([], _) => none
    | (digits, rest) => some ('.' :: digits, rest)
  | cs => some ([], cs)

def isSign (c : Char) : Bool := c = '+' || c = '-'

/-- nothing, or an exponent -/
def takePower : List Char → Option (List Char × List Char)
  | [] => some ([], [])
  | c :: cs =>
    if c = 'e' ∨ c = 'E' then
      let sign := (cs.take 1).filter isSign
      match spanDigits (cs.drop sign.length) with
      | ([], _) => none
      | (digits, rest) => some (c :: sign ++ digits, rest)
    else some ([], c :: cs)

def takeNumber (cs : List Char) : Option (List Char × List Char) := do
  let sign := (cs.take 1).filter (· = '-')
  let (whole, cs) ← takeWhole (cs.drop sign.length)
  let (places, cs) ← takePlaces cs
  let (power, cs) ← takePower cs
  return (sign ++ whole ++ places ++ power, cs)

/-! ## values -/

mutual

def readValue : Nat → List Char → Option (Json × List Char)
  | 0, _ => none
  | fuel + 1, cs =>
    match skipBlanks cs with
    | '\x7b' :: cs =>
      match skipBlanks cs with
      | '\x7d' :: cs => some (.object [], cs)
      | cs => (readMembers fuel cs).map fun (members, rest) => (.object members, rest)
    | '[' :: cs =>
      match skipBlanks cs with
      | ']' :: cs => some (.array [], cs)
      | cs => (readElements fuel cs).map fun (elements, rest) => (.array elements, rest)
    | '"' :: cs => (readUnits cs).map fun (units, rest) => (.string (unitsText units), rest)
    | 'n' :: 'u' :: 'l' :: 'l' :: cs => some (.null, cs)
    | 't' :: 'r' :: 'u' :: 'e' :: cs => some (.bool true, cs)
    | 'f' :: 'a' :: 'l' :: 's' :: 'e' :: cs => some (.bool false, cs)
    | cs => (takeNumber cs).map fun (lexeme, rest) => (.number (String.ofList lexeme), rest)

/-- elements up to the closing bracket -/
def readElements : Nat → List Char → Option (List Json × List Char)
  | 0, _ => none
  | fuel + 1, cs =>
    match readValue fuel cs with
    | none => none
    | some (element, cs) =>
      match skipBlanks cs with
      | ']' :: cs => some ([element], cs)
      | ',' :: cs => (readElements fuel cs).map fun (elements, rest) => (element :: elements, rest)
      | _ => none

/-- members up to the closing brace -/
def readMembers : Nat → List Char → Option (List (Option String × Json) × List Char)
  | 0, _ => none
  | fuel + 1, cs =>
    match skipBlanks cs with
    | '"' :: cs =>
      match readUnits cs with
      | none => none
      | some (name, cs) =>
        match skipBlanks cs with
        | ':' :: cs =>
          match readValue fuel cs with
          | none => none
          | some (value, cs) =>
            match skipBlanks cs with
            | '\x7d' :: cs => some ([(unitsText name, value)], cs)
            | ',' :: cs =>
              (readMembers fuel cs).map fun (members, rest) => ((unitsText name, value) :: members, rest)
            | _ => none
        | _ => none
    | _ => none

end

/-- every second step at least takes a character, so the length bounds the steps -/
def read (s : String) : Option Json :=
  match readValue (2 * s.length + 2) s.toList with
  | some (value, rest) => if skipBlanks rest = [] then some value else none
  | none => none

end PagedSql.Json

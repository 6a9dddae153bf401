import PagedSql.Text.Ascii
import PagedSql.Text.Blank
import PagedSql.Text.Letters

/-!
# Assignments of an environment file

`name=value`, with `export` in front of it or not.  A value may be quoted, in part or whole; `$name`
and `$` with a name in braces stand for the value of a variable, but not in single quotes.

* `ValueMode`     where the reading stands in a value;
* `valueStep`     what one character does;
* `readValue`     the text of a value, where variables are looked up;
* `Assignment`    a name and its value;
* `readLine`      the assignment on a line, if there is one; the line may be no line at all.
-/

namespace PagedSql.Environment
open PagedSql.Text

/-! ## values -/

inductive ValueMode where
  | bare
  | single
  | double
  /-- behind a backslash, in double quotes or in none -/
  | escape (inQuotes : Bool)
  /-- behind a dollar sign and letters of a name -/
  | name (inQuotes : Bool) (letters : List Char)
  | braced (inQuotes : Bool) (letters : List Char)
  /-- behind the value: blanks or a comment -/
  | after
  deriving DecidableEq, Repr

inductive ValueMove where
  | go (out : List Char) (next : ValueMode)
  | stop
  | refuse
  deriving DecidableEq, Repr

/-- back in double quotes, or in none -/
def resume (inQuotes : Bool) : ValueMode := if inQuotes then .double else .bare

def bareStep (c : Char) : ValueMove :=
  if c = '$' then .go [] (.name false [])
  else if c = '\'' then .go [] .single
  else if c = '"' then .go [] .double
  else if c = '\\' then .go [] (.escape false)
  else if c = ' ' ∨ c = '\t' then .go [] .after
  else .go [c] .bare

def doubleStep (c : Char) : ValueMove :=
  if c = '$' then .go [] (.name true [])
  else if c = '"' then .go [] .bare
  else if c = '\\' then .go [] (.escape true)
  else .go [c] .double

def escapeStep (inQuotes : Bool) (c : Char) : ValueMove :=
  if c = '\\' ∨ c = '\'' ∨ c = '"' ∨ c = '$' ∨ c = ' ' then .go [c] (resume inQuotes)
  else if c = 'n' then .go ['\n'] (resume inQuotes)
  else .refuse

/-- the character behind a name is taken as it is, be it a quote, unless it begins a name again -/
def nameStep (lookUp : List Char → List Char) (inQuotes : Bool) (letters : List Char) (c : Char) :
    ValueMove :=
  if isAlphanumeric c then .go [] (.name inQuotes (letters ++ [c]))
  else if c = '\x7b' ∧ letters = [] then .go [] (.braced inQuotes [])
  else if c = '$' then .go (lookUp letters) (.name inQuotes [])
  else .go (lookUp letters ++ [c]) (resume inQuotes)

def bracedStep (lookUp : List Char → List Char) (inQuotes : Bool) (letters : List Char) (c : Char) :
    ValueMove :=
  if c = '\x7d' then .go (lookUp letters) (resume inQuotes)
  else .go [] (.braced inQuotes (letters ++ [c]))

def afterStep (c : Char) : ValueMove :=
  if c = ' ' ∨ c = '\t' then .go [] .after
  else if c = '#' then .stop
  else .refuse

def valueStep (lookUp : List Char → List Char) (c : Char) : ValueMode → ValueMove
  | .bare => bareStep c
  | .single => if c = '\'' then .go [] .bare else .go [c] .single
  | .double => doubleStep c
  | .escape inQuotes => escapeStep inQuotes c
  | .name inQuotes letters => nameStep lookUp inQuotes letters c
  | .braced inQuotes letters => bracedStep lookUp inQuotes letters c
  | .after => afterStep c

/-- what a value that ends here still adds; open quotes and braces do not end -/
def valueEnd (lookUp : List Char → List Char) : ValueMode → Option (List Char)
  | .bare => some []
  | .after => some []
  | .escape false => some []
  | .name false letters => some (lookUp letters)
  | _ => none

def readValueFrom (lookUp : List Char → List Char) : ValueMode → List Char → Option (List Char)
  | mode, [] => valueEnd lookUp mode
  | mode, c :: cs =>
    match valueStep lookUp c mode with
    | .go out next => (readValueFrom lookUp next cs).map (out ++ ·)
    | .stop => some []
    | .refuse => none

def readValue (lookUp : List Char → List Char) (cs : List Char) : Option (List Char) :=
  readValueFrom lookUp .bare cs

/-! ## lines -/

structure Assignment where
  name : String
  value : String
  deriving DecidableEq, Repr

def isNameTail (c : Char) : Bool := isNameChar c || c = '.'

/-- a name and what follows it and its blanks -/
def readName : List Char → Option (String × List Char)
  | [] => none
  | c :: cs =>
    if isNameStart c then
      some (String.ofList ((c :: cs).takeWhile isNameTail), dropBlanks ((c :: cs).dropWhile isNameTail))
    else none

def readEquals : List Char → Option (List Char)
  | '=' :: cs => some (dropBlanks cs)
  | _ => none

/-- the name and what stands behind the equals sign; `export` is a name where the sign follows it -/
def readTarget (cs : List Char) : Option (String × List Char) :=
  match readName cs with
  | none => none
  | some (name, rest) =>
    match readEquals rest with
    | some rest => some (name, rest)
    | none =>
      if name = "export" then do
        let (name, rest) ← readName rest
        return (name, ← readEquals rest)
      else none

/-- nothing but blanks, or a comment -/
def isVacant (cs : List Char) : Bool := cs = [] || cs.head? = some '#'

/-- none where the line is refused, some none where it assigns nothing -/
def readLine (lookUp : List Char → List Char) (line : List Char) : Option (Option Assignment) :=
  let cs := trimChars line
  if isVacant cs then some none
  else do
    let (name, rest) ← readTarget cs
    if isVacant rest then return some ⟨name, ""⟩
    return some ⟨name, String.ofList (← readValue lookUp rest)⟩

end PagedSql.Environment

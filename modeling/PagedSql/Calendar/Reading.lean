import PagedSql.Calendar.Instant
import PagedSql.Text.Blank

/-!
# Reading dates and instants

Two kinds of text are read.  The strict form has fields of fixed width and an offset from
universal time.  The free forms skip blanks before each number, take one or two digits a field, and
have no offset.

* `takeNumber`    up to so many digits, and what follows them;
* `readDate`      year, month and day in the free form;
* `readZoned`     the strict form, `2024-01-01T12:30:00.5+02:00`;
* `readFree`      a free date and a free time with a separator between them;
* `readInstant`   the strict form, the free form with `T`, the free form with a blank, and last a
                  date alone at midnight.
-/

namespace PagedSql.Calendar
open PagedSql.Text PagedSql.Decimal

/-! ## fields -/

/-- at most `max` digits from the front, and the rest -/
def takeDigits : Nat → List Char → List Char × List Char
  | 0, cs => ([], cs)
  | _ + 1, [] => ([], [])
  | max + 1, c :: cs =>
    if c.isDigit then
      let (digits, rest) := takeDigits max cs
      (c :: digits, rest)
    else ([], c :: cs)

/-- a number of `min` to `max` digits, and the rest -/
def takeNumber (min max : Nat) (cs : List Char) : Option (Nat × List Char) :=
  let (digits, rest) := takeDigits max cs
  if min ≤ digits.length then (readNat digits).map (·, rest) else none

/-- a given character in front is dropped -/
def takeChar (expected : Char) : List Char → Option (List Char)
  | [] => none
  | c :: cs => if c = expected then some cs else none

/-- blanks, then one or two digits -/
def takeField (cs : List Char) : Option (Nat × List Char) := takeNumber 1 2 (dropBlanks cs)

/-- blanks, then a year: any number of digits behind a sign, up to four without one -/
def takeYear (cs : List Char) : Option (Int × List Char) :=
  match dropBlanks cs with
  | '-' :: cs => (takeNumber 1 cs.length cs).map fun (n, rest) => (-(n : Int), rest)
  | '+' :: cs => (takeNumber 1 cs.length cs).map fun (n, rest) => ((n : Int), rest)
  | cs => (takeNumber 1 4 cs).map fun (n, rest) => ((n : Int), rest)

/-- nothing, or a point and digits; nanoseconds, digits after the ninth left out -/
def takeNanos : List Char → Option (Nat × List Char)
  | '.' :: cs =>
    match takeDigits 9 cs with
    | ([], _) => none
    | (digits, rest) =>
      some (Nat.ofDigitChars 10 (digits ++ List.replicate (9 - digits.length) '0') 0,
        rest.dropWhile Char.isDigit)
  | cs => some (0, cs)

/-! ## dates -/

/-- year, month and day with `-` between them -/
def takeDate (cs : List Char) : Option (Date × List Char) := do
  let (year, cs) ← takeYear cs
  let cs ← takeChar '-' cs
  let (month, cs) ← takeField cs
  let cs ← takeChar '-' cs
  let (day, cs) ← takeField cs
  let date ← Date.of? year month day
  return (date, cs)

def readDateChars (cs : List Char) : Option Date :=
  match takeDate cs with
  | some (d, []) => some d
  | _ => none

/-! ## the strict form -/

/-- minutes ahead of universal time: `Z`, or a sign, hours and minutes -/
def takeOffset : List Char → Option (Int × List Char)
  | [] => none
  | c :: cs =>
    if c = 'Z' ∨ c = 'z' then some (0, cs)
    else if c = '+' ∨ c = '-' ∨ c = '\u2212' then do
      let (hours, cs) ← takeNumber 2 2 cs
      let cs ← takeChar ':' cs
      let (minutes, cs) ← takeNumber 2 2 cs
      if hours ≤ 23 ∧ minutes ≤ 59 then
        return (signed (c != '+') (hours * 60 + minutes), cs)
      else none
    else none

def takeDateTimeMark : List Char → Option (List Char)
  | [] => none
  | c :: cs => if c = 'T' ∨ c = 't' ∨ c = ' ' then some cs else none

def readZoned (cs : List Char) : Option Instant := do
  let (year, cs) ← takeNumber 4 4 cs
  let cs ← takeChar '-' cs
  let (month, cs) ← takeNumber 2 2 cs
  let cs ← takeChar '-' cs
  let (day, cs) ← takeNumber 2 2 cs
  let cs ← takeDateTimeMark cs
  let (hour, cs) ← takeNumber 2 2 cs
  let cs ← takeChar ':' cs
  let (minute, cs) ← takeNumber 2 2 cs
  let cs ← takeChar ':' cs
  let (second, cs) ← takeNumber 2 2 cs
  let (nanos, cs) ← takeNanos cs
  let (offset, cs) ← takeOffset cs
  let date ← Date.of? year month day
  let time ← TimeOfDay.ofClock? hour minute second nanos
  if cs = [] then Instant.fromLocal? date time offset else none

/-! ## the free forms -/

/-- hour, minute and second with `:` between them, and a fraction -/
def takeTime (cs : List Char) : Option (TimeOfDay × List Char) := do
  let (hour, cs) ← takeField cs
  let cs ← takeChar ':' cs
  let (minute, cs) ← takeField cs
  let cs ← takeChar ':' cs
  let (second, cs) ← takeField cs
  let (nanos, cs) ← takeNanos cs
  let time ← TimeOfDay.ofClock? hour minute second nanos
  return (time, cs)

/-- `separator` reads what stands between date and time -/
def readFree (separator : List Char → Option (List Char)) (cs : List Char) : Option Instant := do
  let (date, cs) ← takeDate cs
  let cs ← separator cs
  let (time, cs) ← takeTime cs
  if cs = [] then return ⟨date, time⟩ else none

def readWithMark (cs : List Char) : Option Instant := readFree (takeChar 'T') cs

/-- any number of blanks may separate date and time, none too -/
def readWithBlank (cs : List Char) : Option Instant := readFree (fun cs => some (dropBlanks cs)) cs

def readMidnight (cs : List Char) : Option Instant := (readDateChars cs).map Instant.midnight

/-! ## trimmed text -/

def readDate (s : String) : Option Date := readDateChars (trimChars s.toList)

def readInstant (s : String) : Option Instant :=
  let cs := trimChars s.toList
  readZoned cs <|> readWithMark cs <|> readWithBlank cs <|> readMidnight cs

end PagedSql.Calendar

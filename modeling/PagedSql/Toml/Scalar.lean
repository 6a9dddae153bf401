import PagedSql.Toml.Basic
import PagedSql.Toml.Text
import PagedSql.Text.Split
import PagedSql.Decimal.Reading
import PagedSql.Calendar.Date

/-!
# Bare values of TOML

* `spacedDigits`   digits with single underscores between them;
* `fitsWord`       whole numbers have a value as far as machine words reach;
* `whole`          the whole number with these digits, if it has a value;
* `isGrouped`      what passes for a whole number because an underscore follows its first digits;
* `readInteger`    a whole number, decimal, hexadecimal, octal or binary;
* `readFloat`      a number with a fraction or an exponent, an infinity, or no number at all;
* `isMoment`       a date, a time of day, or both, with an offset or without;
* `takeWord`       a bare word and what follows it;
* `scalar`         the value of a bare word.

The form of a number is looked at less closely than its value: a number in the right form may turn out
to have no value.
-/

namespace PagedSql.Toml
open PagedSql.Decimal PagedSql.Calendar

/-! ## numbers -/

/-- the digits, underscores left out; `behindDigit` tells that a digit comes before -/
def spacedDigits (isDigit : Char → Bool) (behindDigit : Bool) : List Char → Option (List Char)
  | [] => if behindDigit then some [] else none
  | c :: cs =>
    if isDigit c then (spacedDigits isDigit true cs).map (c :: ·)
    else if c = '_' ∧ behindDigit then spacedDigits isDigit false cs
    else none

/-- decimal digits without a zero in front, zero alone apart -/
def plainDigits (cs : List Char) : Option (List Char) :=
  match spacedDigits Char.isDigit false cs with
  | some ['0'] => some ['0']
  | some ('0' :: _) => none
  | found => found

def isDigitOf (base : Nat) (c : Char) : Bool :=
  match Json.hexValue c with
  | some d => d < base
  | none => false

def numberIn (base : Nat) (digits : List Char) : Nat :=
  digits.foldl (fun n c => base * n + (Json.hexValue c).getD 0) 0

/-- words of 128 bits, signed or not -/
def fitsWord (n : Int) : Bool := -(twoTo 127 : Int) ≤ n && n < twoTo 128

/-- more than 128 digits fit in no base, not even in base two -/
def whole (base : Nat) (negative : Bool) (digits : List Char) : Toml :=
  let significant := digits.dropWhile (· = '0')
  let n := signed negative (numberIn base (significant.take 129))
  if significant.length ≤ 128 && fitsWord n then .integer n else .unreadable

/-- the digits behind the mark of a base may be missing -/
def readBased (base : Nat) (cs : List Char) : Option Toml :=
  if cs = [] then some .unreadable
  else (spacedDigits (isDigitOf base) false cs).map (whole base false)

def isExponentMark (c : Char) : Bool := c = 'e' || c = 'E'

/-- a hexadecimal digit stands in front of the first group and next to every underscore between two -/
def areGroups : List (List Char) → Bool
  | [] => true
  | [group] => group.head?.any (isDigitOf 16)
  | group :: groups =>
    group.head?.any (isDigitOf 16) && group.getLast?.any (isDigitOf 16) && areGroups groups

/-- digits, and groups of whatever else has no blank, point or mark of an exponent -/
def isGrouped (cs : List Char) : Bool :=
  cs.all (fun c => c ≠ ' ' && c ≠ '.' && !isExponentMark c) &&
    match Text.splitChars '_' cs with
    | (d :: digits) :: group :: groups =>
      d ≠ '0' && (d :: digits).all Char.isDigit && areGroups (group :: groups)
    | _ => false

def readInteger (cs : List Char) : Option Toml :=
  match cs with
  | '0' :: 'x' :: cs => readBased 16 cs
  | '0' :: 'o' :: cs => readBased 8 cs
  | '0' :: 'b' :: cs => readBased 2 cs
  | _ =>
    let (negative, cs) := takeSign cs
    match plainDigits cs with
    | some digits => some (whole 10 negative digits)
    | none => if isGrouped cs then some .unreadable else none

/-- nothing, or a sign and digits behind an `e` -/
def exponentDigits : List Char → Option (List Char)
  | [] => some []
  | c :: cs =>
    if c = 'e' ∨ c = 'E' then
      let sign := (cs.take 1).filter Json.isSign
      (spacedDigits Char.isDigit false (cs.drop sign.length)).map fun digits => 'e' :: sign ++ digits
    else none

/-- a decimal with a fraction or an exponent, underscores left out -/
def floatDigits (cs : List Char) : Option (List Char) :=
  let mantissa := cs.takeWhile fun c => !isExponentMark c
  let rest := cs.dropWhile fun c => !isExponentMark c
  let whole := mantissa.takeWhile (· ≠ '.')
  match plainDigits whole, mantissa.dropWhile (· ≠ '.'), exponentDigits rest with
  | some whole, [], some exponent => if rest = [] then none else some (whole ++ exponent)
  | some whole, _ :: places, some exponent =>
    (spacedDigits Char.isDigit false places).map fun places => whole ++ '.' :: places ++ exponent
  | _, _, _ => none

/-- a number with a fraction or an exponent, an infinity, or no number at all -/
def readFloat (cs : List Char) : Option Toml :=
  let size := (takeSign cs).2
  if size = ['i', 'n', 'f'] ∨ size = ['n', 'a', 'n'] then some .float
  else
    (floatDigits size).map fun digits =>
      if ((readDecimal digits).bind Numeral.round).isSome then .float else .unreadable

/-! ## dates and times -/

def twoDigits : List Char → Option (Nat × List Char)
  | a :: b :: cs => (readNat [a, b]).map (·, cs)
  | _ => none

def takeDay (cs : List Char) : Option (List Char) :=
  match readNat (cs.take 4), cs.drop 4 with
  | some year, '-' :: a :: b :: '-' :: c :: d :: rest =>
    match readNat [a, b], readNat [c, d] with
    | some month, some day =>
      if (cs.take 4).length = 4 ∧ IsDate year month day then some rest else none
    | _, _ => none
  | _, _ => none

/-- nothing, or a point and digits -/
def takeFraction : List Char → Option (List Char)
  | '.' :: cs => if (cs.takeWhile Char.isDigit).isEmpty then none else some (cs.dropWhile Char.isDigit)
  | cs => some cs

/-- seconds may be left out -/
def takeSeconds : List Char → Option (List Char)
  | ':' :: cs =>
    match twoDigits cs with
    | some (second, rest) => if second ≤ 60 then takeFraction rest else none
    | none => none
  | cs => some cs

def takeClock (cs : List Char) : Option (List Char) :=
  match twoDigits cs with
  | some (hour, ':' :: cs) =>
    match twoDigits cs with
    | some (minute, cs) => if hour ≤ 23 ∧ minute ≤ 59 then takeSeconds cs else none
    | none => none
  | _ => none

def isOffset : List Char → Bool
  | [] => true
  | ['Z'] => true
  | ['z'] => true
  | c :: cs =>
    Json.isSign c &&
      match twoDigits cs with
      | some (hours, ':' :: cs) =>
        match twoDigits cs with
        | some (minutes, []) => hours ≤ 23 && minutes ≤ 59
        | _ => false
      | _ => false

def isMoment (cs : List Char) : Bool :=
  match takeDay cs with
  | some [] => true
  | some (c :: clock) =>
    (c = 'T' || c = 't' || c = ' ') &&
      match takeClock clock with
      | some rest => isOffset rest
      | none => false
  | none => takeClock cs = some []

/-! ## words -/

/-- the characters with a meaning of their own end a word -/
def isWordChar (c : Char) : Bool :=
  !isBlank c && c ≠ '\n' && c ≠ '\r' && c ≠ '#' && c ≠ '=' && c ≠ ',' && c ≠ '[' && c ≠ ']' &&
    c ≠ '\x7b' && c ≠ '\x7d'

/-- what may go on with a word behind blanks -/
def resumesWord (c : Char) : Bool := isWordChar c && c ≠ '.' && c ≠ '"' && c ≠ '\''

/-- the rest of a word, and what follows it; `word` and `blanks` come before, last character first -/
def wordFrom (word blanks : List Char) : List Char → List Char × List Char
  | [] => (word.reverse, blanks.reverse)
  | c :: cs =>
    if isBlank c then wordFrom word (c :: blanks) cs
    else if blanks = [] then
      if isWordChar c then wordFrom (c :: word) [] cs else (word.reverse, c :: cs)
    else if resumesWord c then wordFrom (c :: (blanks ++ word)) [] cs
    else (word.reverse, blanks.reverse ++ c :: cs)

/-- a bare word may have blanks inside, as between a date and a time -/
def takeWord (cs : List Char) : List Char × List Char := wordFrom [] [] cs

def scalar (word : List Char) : Option Toml :=
  if word = ['t', 'r', 'u', 'e'] then some (.boolean true)
  else if word = ['f', 'a', 'l', 's', 'e'] then some (.boolean false)
  else
    match readInteger word with
    | some n => some n
    | none =>
      match readFloat word with
      | some x => some x
      | none => if isMoment word then some .moment else none

end PagedSql.Toml

import PagedSql.Text.Blank

/-!
# Lines of an environment file

A line goes on over its end where a quote is open or a backslash or a single blank stands last.

* `LineMode`       where the reading stands in a line;
* `lineStep`       what one character does, none where it begins a comment;
* `scanLine`       the mode behind a physical line, or what stands in front of its comment;
* `logicalLines`   the lines of a text, without line ends and comments; none if one never ends.
-/

namespace PagedSql.Environment
open PagedSql.Text

inductive LineMode where
  | plain
  | blank
  | escape
  | quoted (quote : Char)
  | quotedEscape (quote : Char)
  deriving DecidableEq, Repr

/-- outside quotes, where the character is no blank -/
def markStep (c : Char) : LineMode :=
  if c = '\\' then .escape
  else if c = '"' ∨ c = '\'' then .quoted c
  else .plain

/-- of several blanks every second one is plain -/
def lineStep (c : Char) : LineMode → Option LineMode
  | .plain => if isBlank c && c ≠ '\n' && c ≠ '\r' then some .blank else some (markStep c)
  | .blank => if c = '#' then none else some (markStep c)
  | .escape => some .plain
  | .quoted q =>
    if c = '\\' then some (.quotedEscape q)
    else if c = q then some .plain
    else some (.quoted q)
  | .quotedEscape q => some (.quoted q)

def scanLine : LineMode → List Char → Except (List Char) LineMode
  | mode, [] => .ok mode
  | mode, c :: cs =>
    match lineStep c mode with
    | none => .error []
    | some next => (scanLine next cs).mapError (c :: ·)

/-- lines with their line ends -/
def physicalLines : List Char → List (List Char)
  | [] => []
  | c :: cs =>
    if c = '\n' then [c] :: physicalLines cs
    else
      match physicalLines cs with
      | [] => [[c]]
      | line :: lines => (c :: line) :: lines

theorem flatten_physicalLines (cs : List Char) : (physicalLines cs).flatten = cs := by
  induction cs with
  | nil => rfl
  | cons c cs ih =>
    unfold physicalLines
    split
    · simp [ih]
    · split
      · next h =>
        rw [h] at ih
        simp at ih
        simp [ih]
      · next h =>
        rw [h] at ih
        simp at ih
        simp [ih]

def isComment (cs : List Char) : Bool := (dropBlanks cs).head? = some '#'

def dropLineEnd (cs : List Char) : List Char :=
  match cs.reverse with
  | '\n' :: '\r' :: rest => rest.reverse
  | '\n' :: rest => rest.reverse
  | _ => cs

/-- the lines that `held` and the physical lines behind it make up -/
def joinLines (held : List Char) (mode : LineMode) : List (List Char) → Option (List (List Char))
  | [] => if mode = .plain then some [] else none
  | line :: lines =>
    let line' := held ++ line
    if isComment line' then joinLines [] .plain lines
    else
      match scanLine mode line with
      | .error before => (joinLines [] .plain lines).map ((held ++ before) :: ·)
      | .ok .plain => (joinLines [] .plain lines).map (dropLineEnd line' :: ·)
      | .ok next => joinLines line' next lines

def logicalLines (cs : List Char) : Option (List (List Char)) := joinLines [] .plain (physicalLines cs)

end PagedSql.Environment

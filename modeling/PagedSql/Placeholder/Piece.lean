import PagedSql.Text.Ascii

/-!
# Placeholders in the text of a statement

A placeholder is `@` and a name, outside of quotes.  The sign counts only if a letter or `_` follows
it and no name character and no other `@` stands before it, so that a second sign, an address or a
cast is left alone.

* `Piece`   a character of the statement, or the name of a placeholder;
* `Mode`    where the scan stands: outside quotes behind some character, inside quotes, or in a name;
* `pieces`  the statement cut up, character by character;
* `Piece.source`  the text a piece was cut from.
-/

namespace PagedSql
open PagedSql.Text

inductive Piece where
  | char (c : Char)
  | name (n : List Char)
  deriving DecidableEq, Repr

def Piece.source : Piece → List Char
  | .char c => [c]
  | .name n => '@' :: n

inductive Mode where
  | plain (before : Option Char)
  | quoted (quote : Char)
  | naming (reversed : List Char)
  deriving DecidableEq, Repr

def isQuote (c : Char) : Bool := c = '\'' || c = '"'

/-- a sign behind `before` and in front of `rest` opens a placeholder -/
def opensName (before : Option Char) (rest : List Char) : Bool :=
  (match before with
    | none => true
    | some c => !isNameChar c && c != '@') &&
  match rest with
    | [] => false
    | c :: _ => isNameStart c

def pieces : Mode → List Char → List Piece
  | .plain _, [] => []
  | .quoted _, [] => []
  | .naming n, [] => [.name n.reverse]
  | .plain before, c :: cs =>
    if isQuote c then .char c :: pieces (.quoted c) cs
    else if c = '@' ∧ opensName before cs then pieces (.naming []) cs
    else .char c :: pieces (.plain (some c)) cs
  | .quoted q, c :: cs =>
    .char c :: pieces (if c = q then .plain (some c) else .quoted q) cs
  | .naming n, c :: cs =>
    if isNameChar c then pieces (.naming (c :: n)) cs
    else .name n.reverse :: .char c :: pieces (if isQuote c then .quoted c else .plain (some c)) cs

/-- what the scan has read and not yet given out -/
def Mode.pending : Mode → List Char
  | .naming n => '@' :: n.reverse
  | _ => []

/-- nothing is lost or added: the sources of the pieces are the statement -/
theorem pieces_source (m : Mode) (cs : List Char) :
    (pieces m cs).flatMap Piece.source = m.pending ++ cs := by
  induction cs generalizing m with
  | nil => cases m <;> simp [pieces, Mode.pending, Piece.source]
  | cons c cs ih =>
    cases m with
    | plain before =>
      simp only [pieces]
      split
      · simp [ih, Piece.source, Mode.pending]
      · split
        · next h => simp [ih, Mode.pending, h.1]
        · simp [ih, Piece.source, Mode.pending]
    | quoted q =>
      simp only [pieces, List.flatMap_cons, ih, Piece.source]
      split <;> simp [Mode.pending]
    | naming n =>
      simp only [pieces]
      split
      · simp [ih, Mode.pending]
      · simp only [List.flatMap_cons, ih, Piece.source]
        split <;> simp [Mode.pending]

end PagedSql

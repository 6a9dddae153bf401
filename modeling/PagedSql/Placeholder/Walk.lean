import PagedSql.Placeholder.Numbered

/-!
# Numbering byte by byte

A statement is numbered by a walk over its bytes.  The cursor goes from byte to byte, through the middle
of characters too; names and the text between them are cut out as slices when a placeholder is met.

* `bytes`            the bytes of a text, in UTF-8; positions count them;
* `isBoundary`       the positions in front of, between and behind characters, told by the byte that
                     stands there;
* `slice?`           the text between two positions; there is none if they are out of order, out of range
                     or inside of a character;
* `Fault`            what can stop a walk: a name without a value, a byte that is not there, or a slice
                     that cannot be cut;
* `Walk`             the cursor, the mark up to which the text has been copied, the quote that is open,
                     and what has been written;
* `Walk.step`        one round of the loop;
* `cursor_lt_of_step`   each round takes the cursor further;
* `Walk.run`         the rounds to the end of the text, and the copy of what is left;
* `numberedByBytes`  a statement numbered by its walk.
-/

namespace PagedSql.Text

def bytes (s : String) : List UInt8 := s.toUTF8.data.toList

/-- the bytes with which a character goes on and with which none begins -/
def isContinuation (b : UInt8) : Bool := 128 ≤ b && b < 192

def isBoundary (text : List UInt8) (i : Nat) : Bool :=
  i = 0 || i = text.length || text[i]?.any fun b => !isContinuation b

def slice? (text : List UInt8) (first last : Nat) : Option String :=
  if first ≤ last ∧ isBoundary text first ∧ isBoundary text last then
    String.fromUTF8? ((text.drop first).take (last - first)).toByteArray
  else none

end PagedSql.Text

namespace PagedSql
open PagedSql.Text

inductive Fault where
  | unbound (u : Unbound)
  | outside (i : Nat)
  | badSlice (first last : Nat)
  deriving DecidableEq, Repr

def byteAt (text : List UInt8) (i : Nat) : Except Fault UInt8 :=
  match text[i]? with
  | some b => .ok b
  | none => .error (.outside i)

def sliceAt (text : List UInt8) (first last : Nat) : Except Fault String :=
  match slice? text first last with
  | some s => .ok s
  | none => .error (.badSlice first last)

/-- two parts of a computation that comes to a result -/
theorem exists_of_bind {α β : Type} {x : Except Fault α} {f : α → Except Fault β} {r : β}
    (h : x >>= f = .ok r) : ∃ a, x = .ok a ∧ f a = .ok r := by
  cases x with
  | error e => cases h
  | ok a => exact ⟨a, rfl, h⟩

/-! ## bytes of names, signs and quotes -/

def isLetterByte (b : UInt8) : Bool := 65 ≤ b && b ≤ 90 || 97 ≤ b && b ≤ 122

def isNameStartByte (b : UInt8) : Bool := isLetterByte b || b = 95

def isNameByte (b : UInt8) : Bool := isLetterByte b || 48 ≤ b && b ≤ 57 || b = 95

def isSignByte (b : UInt8) : Bool := b = 64

def isQuoteByte (b : UInt8) : Bool := b = 39 || b = 34

/-- a sign at `i` opens a placeholder; there may be no byte behind it, the one before it is read -/
def opensNameAt (text : List UInt8) (i : Nat) : Except Fault Bool := do
  let next := text[i + 1]?.any isNameStartByte
  if i = 0 then
    return next
  let before ← byteAt text (i - 1)
  return next && !(isNameByte before || isSignByte before)

def nameEnd (text : List UInt8) (last : Nat) : Except Fault Nat := do
  if last < text.length then
    let b ← byteAt text last
    if isNameByte b then nameEnd text (last + 1) else return last
  else
    return last
termination_by text.length - last

theorem le_of_nameEnd {text : List UInt8} {i last : Nat} (h : nameEnd text i = .ok last) :
    i ≤ last := by
  induction hn : text.length - i generalizing i with
  | zero =>
    rw [nameEnd, if_neg (by omega)] at h
    cases h
    exact Nat.le_refl _
  | succ n ih =>
    rw [nameEnd, if_pos (by omega)] at h
    obtain ⟨b, _, h⟩ := exists_of_bind h
    split at h
    · exact Nat.le_of_succ_le (ih h (by omega))
    · cases h
      exact Nat.le_refl _

/-! ## rounds -/

structure Walk where
  cursor : Nat
  copied : Nat
  quote : Option UInt8
  written : String
  values : List Value
  places : List (String × Nat)
  deriving DecidableEq

namespace Walk

def start : Walk := ⟨0, 0, none, "", [], []⟩

def advance (w : Walk) : Walk := { w with cursor := w.cursor + 1 }

/-- a new name gets the next number, and its value comes last -/
def learn (name : String) (value : Value) (w : Walk) : Walk :=
  { w with
    values := w.values ++ [value]
    places := (name, w.values.length + 1) :: w.places }

/-- the number of a name, which may be new -/
def place (b : Bindings) (name : String) (w : Walk) : Except Fault (Nat × Walk) :=
  match w.places.lookup name with
  | some k => .ok (k, w)
  | none =>
    match b.find? name with
    | none => .error (.unbound ⟨name⟩)
    | some value => .ok (w.values.length + 1, w.learn name value)

/-- a number is written behind the text that has been passed, and the walk goes on at `last` -/
def write (passed : String) (k last : Nat) (w : Walk) : Walk :=
  { w with
    written := w.written ++ passed ++ String.ofList (position k)
    copied := last
    cursor := last }

/-- a number is written for the name behind the sign at the cursor -/
def replace (text : List UInt8) (b : Bindings) (w : Walk) : Except Fault Walk := do
  let last ← nameEnd text (w.cursor + 1)
  let name ← sliceAt text (w.cursor + 1) last
  let (k, v) ← w.place b name
  let passed ← sliceAt text w.copied w.cursor
  return v.write passed k last

def step (text : List UInt8) (b : Bindings) (w : Walk) : Except Fault Walk := do
  let byte ← byteAt text w.cursor
  match w.quote with
  | some q => return { w with quote := if byte = q then none else some q }.advance
  | none =>
    if isQuoteByte byte then
      return { w with quote := some byte }.advance
    else if isSignByte byte then
      if ← opensNameAt text w.cursor then w.replace text b else return w.advance
    else
      return w.advance

section
variable {text : List UInt8} {b : Bindings} {w next : Walk}

theorem cursor_lt_of_replace (h : w.replace text b = .ok next) : w.cursor < next.cursor := by
  obtain ⟨last, hlast, h⟩ := exists_of_bind h
  obtain ⟨_, _, h⟩ := exists_of_bind h
  obtain ⟨⟨k, _⟩, _, h⟩ := exists_of_bind h
  obtain ⟨_, _, h⟩ := exists_of_bind h
  cases h
  exact le_of_nameEnd hlast

/-- every round moves the cursor -/
theorem cursor_lt_of_step (h : w.step text b = .ok next) : w.cursor < next.cursor := by
  have hadvance : ∀ v : Walk, v.cursor < v.advance.cursor := fun v => Nat.lt_succ_self v.cursor
  obtain ⟨byte, _, h⟩ := exists_of_bind h
  split at h
  · cases h
    exact hadvance _
  · split at h
    · cases h
      exact hadvance _
    · split at h
      · obtain ⟨opens, _, h⟩ := exists_of_bind h
        split at h
        · exact cursor_lt_of_replace h
        · cases h
          exact hadvance _
      · cases h
        exact hadvance _

end

def run (text : List UInt8) (b : Bindings) (w : Walk) : Except Fault Numbered :=
  if w.cursor < text.length then
    match h : w.step text b with
    | .error f => .error f
    | .ok next =>
      have := cursor_lt_of_step h
      run text b next
  else do
    let rest ← sliceAt text w.copied text.length
    return ⟨w.written ++ rest, w.values⟩
termination_by text.length - w.cursor

end Walk

/-- a statement numbered by its walk -/
def numberedByBytes (sql : String) (b : Bindings) : Except Fault Numbered :=
  Walk.start.run (bytes sql) b

end PagedSql

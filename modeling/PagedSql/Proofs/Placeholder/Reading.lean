import PagedSql.Placeholder.Walk
import PagedSql.Proofs.Placeholder.Bytes
import PagedSql.Proofs.Placeholder.Settled

/-!
# A walk over bytes as a reading of characters

A walk that stands between two characters has read those in front of it.  One that stands inside of a
character has come to it, and has bytes of it still to pass; these are no names, signs or quotes.

* `pieces_named`       the scan over characters in front of a name and behind it;
* `Reading`            the characters copied, those passed since and those to come, and the quote and the
                       names known in front of these;
* `Walk.Reads`         what ties a walk to a reading; the field `outcome` says that the two still come to
                       the same numbered statement;
* `Walk.Goes`          what a round may come to;
* `Walk.reads_start`   the reading at the start of a text;
* `Walk.Knows`         the numbers given out, and the rules by which names get theirs;
* `Walk.add`           the result for a text of which a part has been read, as pieces are taken from it;
* `Walk.step_quoted`, `Walk.step_unquoted`, `Walk.run_of_step`, `Walk.run_of_error`   rounds and runs.
-/

namespace PagedSql
open PagedSql.Text

/-! ## names -/

/-- behind a name the scan goes on as behind its last character -/
theorem pieces_named {n : List Char} (hn : isName n = true) (given : List Char) {rest : List Char}
    (hrest : ∀ c, rest.head? = some c → isNameChar c = false) :
    pieces (.naming []) (n ++ rest) =
      .name n :: pieces (.plain (given ++ '@' :: n).getLast?) rest := by
  have hread : ∀ (m k : List Char), (∀ c ∈ m, isNameChar c = true) →
      pieces (.naming k) (m ++ rest) = pieces (.naming (m.reverse ++ k)) rest := by
    intro m
    induction m with
    | nil => exact fun k _ => rfl
    | cons c m ih =>
      intro k hm
      rw [List.cons_append, pieces, if_pos (hm c List.mem_cons_self),
        ih (c :: k) fun d hd => hm d (List.mem_cons_of_mem c hd)]
      simp
  have hchars := List.all_eq_true.mp (all_isNameChar_of_isName hn)
  rw [hread n [] hchars, List.append_nil]
  cases rest with
  | nil => simp [pieces]
  | cons c rest =>
    have hne : n ≠ [] := by
      rintro rfl
      exact absurd hn (by decide)
    have hlast : (given ++ '@' :: n).getLast? = some (n.getLast hne) := by
      rw [List.getLast?_append, List.getLast?_cons, List.getLast?_eq_some_getLast hne]
      rfl
    rw [hlast, pieces_behind (hchars _ (List.getLast_mem hne)), pieces, hrest c rfl]
    simp

/-- what a sign opens is a name, which goes on as far as it can -/
theorem exists_name_of_opensName {given cs : List Char} (h : opensName given.getLast? cs = true) :
    ∃ name back, cs = name ++ back ∧ isName name = true ∧
      ∀ c, back.head? = some c → isNameChar c = false := by
  refine ⟨cs.takeWhile isNameChar, cs.dropWhile isNameChar, List.takeWhile_append_dropWhile.symm,
    (opensName_iff.mp h).2, fun c hc => ?_⟩
  have hnot := List.head?_dropWhile_not isNameChar cs
  rw [hc] at hnot
  simpa using hnot

/-! ## what a walk has read -/

/-- the characters that have been copied, those passed since, and those to come; the quote that is open
and the names that have numbers -/
structure Reading where
  copied : List Char
  passed : List Char
  rest : List Char
  quote : Option Char
  known : List (List Char)

namespace Reading

def read (r : Reading) : List Char := r.copied ++ r.passed

/-- where the scan over characters stands -/
def mode (r : Reading) : Mode :=
  match r.quote with
  | none => .plain r.read.getLast?
  | some q => .quoted q

/-- one more character passed, and the quote that is open behind it -/
def pass (r : Reading) (c : Char) (rest : List Char) (quote : Option Char) : Reading :=
  { r with passed := r.passed ++ [c], rest := rest, quote := quote }

/-- a sign and a name replaced -/
def replace (r : Reading) (name rest : List Char) (known : List (List Char)) : Reading :=
  ⟨r.read ++ '@' :: name, [], rest, none, known⟩

theorem read_pass (r : Reading) (c : Char) (rest : List Char) (quote : Option Char) :
    (r.pass c rest quote).read = r.read ++ [c] := by
  simp [read, pass]

theorem read_replace (r : Reading) (name rest : List Char) (known : List (List Char)) :
    (r.replace name rest known).read = r.read ++ '@' :: name := List.append_nil _

theorem mode_of_none {r : Reading} (h : r.quote = none) : r.mode = .plain r.read.getLast? := by
  unfold mode
  rw [h]

theorem mode_of_some {r : Reading} {q : Char} (h : r.quote = some q) : r.mode = .quoted q := by
  unfold mode
  rw [h]

theorem mode_pass_none (r : Reading) (c : Char) (rest : List Char) :
    (r.pass c rest none).mode = .plain (some c) := by
  rw [mode_of_none rfl, read_pass, List.getLast?_concat]

theorem mode_replace (r : Reading) (name rest : List Char) (known : List (List Char)) :
    (r.replace name rest known).mode = .plain (r.read ++ '@' :: name).getLast? := by
  rw [mode_of_none rfl, read_replace]

end Reading

def quoteByte (q : Option Char) : Option UInt8 := q.map fun c => UInt8.ofNat c.toNat

namespace Walk

/-- these names have numbers, and their values are there -/
structure Knows (w : Walk) (known : List (List Char)) : Prop where
  places : ∀ n, w.places.lookup (String.ofList n) = (known.idxOf? n).map (· + 1)
  count : w.values.length = known.length

/-- what a walk has written, with the characters passed and what becomes of the rest -/
def add (w : Walk) (passed : List Char) :
    Except Unbound (List Char × List Value) → Except Fault Numbered
  | .error u => .error (.unbound u)
  | .ok (sql, values) => .ok ⟨w.written ++ String.ofList (passed ++ sql), w.values ++ values⟩

/-- A walk through a text has come to this reading of it.  The cursor may stand inside of the last
character that it has come to, in front of the bytes `tail`. -/
structure Reads (sql : String) (b : Bindings) (w : Walk) (r : Reading) (tail : List UInt8) : Prop where
  text : r.read ++ r.rest = sql.toList
  copied : w.copied = (encode r.copied).length
  cursor : ∃ head, encode r.read = head ++ tail ∧ head.length = w.cursor
  copied_le : w.copied ≤ w.cursor
  tail : ∀ x ∈ tail, isContinuation x = true
  quote : w.quote = quoteByte r.quote
  mark : ∀ q, r.quote = some q → isQuote q = true
  knows : w.Knows r.known
  outcome : (numbered sql b).mapError .unbound =
    w.add r.passed (number b r.known (pieces r.mode r.rest))

/-- what a round comes to: the walk goes on, or it stops at the name that is reported for the text -/
inductive Goes (sql : String) (b : Bindings) : Except Fault Walk → Prop where
  | on {next : Walk} {r : Reading} {tail : List UInt8} (h : next.Reads sql b r tail) :
    Goes sql b (.ok next)
  | stops {u : Unbound} (h : numbered sql b = .error u) : Goes sql b (.error (.unbound u))

theorem reads_start (sql : String) (b : Bindings) :
    start.Reads sql b ⟨[], [], sql.toList, none, []⟩ [] where
  text := rfl
  copied := rfl
  cursor := ⟨[], rfl, rfl⟩
  copied_le := Nat.le_refl 0
  tail x hx := by cases hx
  quote := rfl
  mark q hq := by cases hq
  knows := ⟨fun n => rfl, rfl⟩
  outcome := by
    show _ = start.add [] (number b [] (pieces (.plain none) sql.toList))
    unfold numbered
    cases number b [] (pieces (.plain none) sql.toList) with
    | error u => rfl
    | ok r =>
      show _ = Except.ok (Numbered.mk ("" ++ String.ofList ([] ++ r.1)) ([] ++ r.2))
      rw [List.nil_append, List.nil_append, String.empty_append]
      rfl

/-! ## names and numbers -/

theorem idxOf?_concat (known : List (List Char)) (n m : List Char) :
    (known ++ [n]).idxOf? m = (known.idxOf? m).or (if m = n then some known.length else none) := by
  unfold List.idxOf?
  rw [List.findIdx?_append]
  by_cases hm : m = n
  · simp [hm]
  · simp [hm, Ne.symm hm]

section
variable {w : Walk} {known : List (List Char)} {n : List Char} {b : Bindings} (h : w.Knows known)
include h

theorem Knows.place_of_some {i : Nat} (hi : known.idxOf? n = some i) :
    w.place b (String.ofList n) = .ok (i + 1, w) := by
  unfold place
  rw [h.places n, hi]
  rfl

theorem Knows.place_of_none (hi : known.idxOf? n = none) :
    w.place b (String.ofList n) =
      match b.find? (String.ofList n) with
      | none => .error (.unbound ⟨String.ofList n⟩)
      | some value => .ok (known.length + 1, w.learn (String.ofList n) value) := by
  unfold place
  rw [h.places n, hi, h.count]
  rfl

theorem Knows.learn (hi : known.idxOf? n = none) (value : Value) :
    (w.learn (String.ofList n) value).Knows (known ++ [n]) where
  places m := by
    show ((String.ofList n, w.values.length + 1) :: w.places).lookup (String.ofList m) = _
    rw [idxOf?_concat]
    by_cases hm : m = n
    · subst hm
      rw [List.lookup_cons_self, h.count, hi, if_pos rfl]
      rfl
    · have hne : (String.ofList m == String.ofList n) = false := by
        rw [beq_eq_false_iff_ne]
        exact fun he => hm (String.ofList_injective he)
      rw [List.lookup_cons, hne, h.places m, if_neg hm, Option.or_none]
  count := by
    show (w.values ++ [value]).length = _
    rw [List.length_append, List.length_append, h.count]
    rfl

end

/-! ## rounds -/

theorem eq_error_of_mapError {α : Type} {x : Except Unbound α} {u : Unbound}
    (h : x.mapError Fault.unbound = .error (.unbound u)) : x = .error u := by
  cases x with
  | error v => exact congrArg Except.error (Fault.unbound.inj (Except.error.inj h))
  | ok a => cases h

section
variable {w v : Walk} {b : Bindings} {known : List (List Char)}

theorem add_char (c : Char) (passed : List Char) (ps : List Piece) :
    w.add passed (number b known (.char c :: ps)) = w.add (passed ++ [c]) (number b known ps) := by
  rw [number]
  cases number b known ps with
  | error u => rfl
  | ok r =>
    show Except.ok _ = Except.ok _
    rw [List.append_assoc, List.singleton_append]

theorem add_position (k last : Nat) (passed sql : List Char) (values : List Value) :
    w.add passed (.ok (position k ++ sql, values)) =
      (w.write (String.ofList passed) k last).add [] (.ok (sql, values)) := by
  have htext : w.written ++ String.ofList (passed ++ (position k ++ sql)) =
      w.written ++ String.ofList passed ++ String.ofList (position k) ++ String.ofList ([] ++ sql) := by
    simp only [String.ofList_append, String.append_assoc, List.nil_append]
  exact congrArg (fun t => Except.ok (Numbered.mk t (w.values ++ values))) htext

/-- a name that has a number gets it again -/
theorem add_known {n : List Char} {i : Nat} (hi : known.idxOf? n = some i) (passed : List Char)
    (last : Nat) (ps : List Piece) : w.add passed (number b known (.name n :: ps)) =
      (w.write (String.ofList passed) (i + 1) last).add [] (number b known ps) := by
  rw [number, hi]
  dsimp only
  cases number b known ps with
  | error u => rfl
  | ok r => exact add_position (i + 1) last passed r.1 r.2

/-- a name that has none gets the next -/
theorem add_new {n : List Char} (hi : known.idxOf? n = none) {value : Value}
    (hvalue : b.find? (String.ofList n) = some value) (passed : List Char) (last : Nat)
    (ps : List Piece) : w.add passed (number b known (.name n :: ps)) =
      ((w.learn (String.ofList n) value).write (String.ofList passed) (known.length + 1) last).add []
        (number b (known ++ [n]) ps) := by
  rw [number, hi]
  dsimp only
  rw [hvalue]
  dsimp only
  cases number b (known ++ [n]) ps with
  | error u => rfl
  | ok r =>
    rw [← add_position]
    show Except.ok _ = Except.ok _
    rw [List.append_cons]
    rfl

end

section
variable {w : Walk} {b : Bindings} {text : List UInt8} {x : UInt8} (hbyte : byteAt text w.cursor = .ok x)
include hbyte

theorem step_quoted {q : UInt8} (hq : w.quote = some q) : w.step text b =
    .ok { w with quote := if x = q then none else some q }.advance := by
  unfold step
  rw [hbyte, hq]
  rfl

theorem step_unquoted (hq : w.quote = none) : w.step text b =
    if isQuoteByte x then .ok { w with quote := some x }.advance
    else if isSignByte x then do
      if ← opensNameAt text w.cursor then w.replace text b else return w.advance
    else .ok w.advance := by
  unfold step
  rw [hbyte, hq]
  rfl

end

theorem lt_of_byteAt {text : List UInt8} {i : Nat} {x : UInt8} (h : byteAt text i = .ok x) :
    i < text.length := by
  unfold byteAt at h
  split at h
  · next hx => exact (List.getElem?_eq_some_iff.mp hx).1
  · cases h

theorem sliceAt_of_slice? {text : List UInt8} {first last : Nat} {part : String}
    (h : slice? text first last = some part) : sliceAt text first last = .ok part := by
  unfold sliceAt
  rw [h]

section
variable {w : Walk} {b : Bindings} {text : List UInt8} (hlt : w.cursor < text.length)
include hlt

theorem run_of_step {next : Walk} (h : w.step text b = .ok next) :
    w.run text b = next.run text b := by
  rw [run, if_pos hlt]
  split
  · next hf =>
    rw [h] at hf
    cases hf
  · next hnext =>
    rw [h] at hnext
    cases hnext
    rfl

theorem run_of_error {f : Fault} (h : w.step text b = .error f) : w.run text b = .error f := by
  rw [run, if_pos hlt]
  split
  · next hf =>
    rw [h] at hf
    cases hf
    rfl
  · next hnext =>
    rw [h] at hnext
    cases hnext

end

end Walk

end PagedSql

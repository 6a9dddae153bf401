import PagedSql.Proofs.Placeholder.Reading

/-!
# Numbering byte by byte is numbering

The walk over the bytes of a statement keeps to a reading of its characters, round for round, and so
comes to what the scan over the characters comes to.

* `Walk.Reads.step_tail`, `Walk.Reads.pass`   a byte inside of a character passed, and a character begun;
* `Walk.Reads.slices`, `Walk.Reads.goes_replace`   a placeholder: where it is cut, and what becomes of it;
* `Walk.Reads.goes_step`   one round, in any mode and at any byte;
* `Walk.Reads.run_eq`      all rounds to the end;
* `Walk.Reached`, `Walk.Safe`   the states a walk comes to, and what can be done in each of them;
* `numbered_by_bytes`      bytes and characters give the same result, and no slice cuts a character.
-/

namespace PagedSql
open PagedSql.Text

namespace Walk

namespace Reads

variable {sql : String} {b : Bindings} {w : Walk} {r : Reading} {tail : List UInt8}

theorem bytes_eq (h : w.Reads sql b r tail) : bytes sql = encode (r.read ++ r.rest) := by
  rw [bytes_eq_encode, h.text]

theorem quote_of_none (h : w.Reads sql b r tail) (hq : r.quote = none) : w.quote = none := by
  rw [h.quote, hq]
  rfl

theorem quote_of_some (h : w.Reads sql b r tail) {q : Char} (hq : r.quote = some q) :
    w.quote = some (UInt8.ofNat q.toNat) := by
  rw [h.quote, hq]
  rfl

/-- between characters the cursor is behind the bytes of those that have been read -/
theorem cursor_eq (h : w.Reads sql b r []) : w.cursor = (encode r.read).length := by
  obtain ⟨head, hread, hcursor⟩ := h.cursor
  rw [hread, List.append_nil, hcursor]

/-- in front of no character the walk is at the end -/
theorem length_le (h : w.Reads sql b r []) (hrest : r.rest = []) : (bytes sql).length ≤ w.cursor := by
  rw [h.bytes_eq, hrest, List.append_nil, h.cursor_eq]

/-- the byte at the cursor, when it stands inside of a character -/
theorem byteAt_tail {x : UInt8} (h : w.Reads sql b r (x :: tail)) :
    byteAt (bytes sql) w.cursor = .ok x ∧ 128 ≤ x.toNat := by
  obtain ⟨head, hread, hcursor⟩ := h.cursor
  refine ⟨?_, (isContinuation_eq_true.mp (h.tail x List.mem_cons_self)).1⟩
  rw [h.bytes_eq, encode_append, hread, List.append_assoc, ← hcursor]
  exact byteAt_append _ _ _

/-- inside of a character nothing happens -/
theorem step_tail {x : UInt8} (h : w.Reads sql b r (x :: tail)) :
    w.step (bytes sql) b = .ok w.advance ∧ w.advance.Reads sql b r tail := by
  obtain ⟨hbyte, hx⟩ := h.byteAt_tail
  constructor
  · cases hq : r.quote with
    | none =>
      rw [step_unquoted hbyte (h.quote_of_none hq), sameAscii_quote.eq_false hx,
        sameAscii_sign.eq_false hx]
      rfl
    | some q =>
      have hquote := h.quote_of_some hq
      have hmark : decide (x = UInt8.ofNat q.toNat) = false :=
        (sameAscii_mark (h.mark q hq)).eq_false hx
      rw [step_quoted hbyte hquote, if_neg (of_decide_eq_false hmark), ← hquote]
  · obtain ⟨head, hread, hcursor⟩ := h.cursor
    refine { h with cursor := ?_, copied_le := ?_, tail := fun y hy => ?_, knows := ?_ }
    · refine ⟨head ++ [x], by rw [hread, List.append_assoc, List.singleton_append], ?_⟩
      rw [List.length_append, hcursor]
      rfl
    · exact Nat.le_succ_of_le h.copied_le
    · exact h.tail y (List.mem_cons_of_mem x hy)
    · exact ⟨h.knows.places, h.knows.count⟩

/-- one more character passed, as the scan over characters passes it -/
theorem pass (h : w.Reads sql b r []) {c : Char} {rest : List Char} (hrest : r.rest = c :: rest)
    {q : Option Char} (hmark : ∀ d, q = some d → isQuote d = true)
    (hpieces : pieces r.mode (c :: rest) = .char c :: pieces (r.pass c rest q).mode rest) :
    ∃ tail, { w with quote := quoteByte q }.advance.Reads sql b (r.pass c rest q) tail := by
  obtain ⟨x, xs, hc, _, hxs⟩ := exists_encodeChar c
  have hpassed : encode (r.pass c rest q).read = encode r.read ++ [x] ++ xs := by
    rw [Reading.read_pass, encode_append, encode_singleton, hc, List.append_assoc]
    rfl
  have hmoved : (encode r.read ++ [x]).length = w.cursor + 1 := by
    rw [List.length_append, h.cursor_eq]
    rfl
  -- the first byte of the character is passed, and the others are left for the next rounds
  refine ⟨xs, ?_⟩
  exact {
    text := by
      rw [← h.text, hrest, Reading.read_pass, List.append_assoc]
      rfl
    copied := h.copied
    cursor := ⟨encode r.read ++ [x], hpassed, hmoved⟩
    copied_le := Nat.le_succ_of_le h.copied_le
    tail := hxs
    quote := rfl
    mark := hmark
    knows := ⟨h.knows.places, h.knows.count⟩
    outcome := by
      rw [h.outcome, hrest, hpieces]
      exact add_char c r.passed _ }

/-- behind a name that has been replaced -/
theorem behind {name back : List Char} (h : w.Reads sql b r []) (hrest : r.rest = '@' :: (name ++ back))
    {v : Walk} (hquote : v.quote = none) {known : List (List Char)} (hknows : v.Knows known) {k : Nat}
    (houtcome : w.add r.passed (number b r.known (pieces r.mode r.rest)) =
      (v.write (String.ofList r.passed) k (encode (r.read ++ '@' :: name)).length).add []
        (number b known (pieces (.plain (r.read ++ '@' :: name).getLast?) back))) :
    (v.write (String.ofList r.passed) k (encode (r.read ++ '@' :: name)).length).Reads sql b
      (r.replace name back known) [] where
  text := by
    rw [← h.text, hrest, Reading.read_replace, List.append_assoc]
    rfl
  copied := rfl
  cursor := ⟨_, by rw [Reading.read_replace, List.append_nil], rfl⟩
  copied_le := Nat.le_refl _
  tail x hx := by cases hx
  quote := hquote
  mark q hq := by cases hq
  knows := ⟨hknows.places, hknows.count⟩
  outcome := by
    rw [h.outcome, houtcome, Reading.mode_replace]
    rfl

section
variable {name back : List Char} (h : w.Reads sql b r []) (hrest : r.rest = '@' :: (name ++ back))
  (hname : isName name = true) (hstop : ∀ c, back.head? = some c → isNameChar c = false)
include h hrest hname hstop

/-- the slices that are taken for a placeholder -/
theorem slices : nameEnd (bytes sql) (w.cursor + 1) = .ok (encode (r.read ++ '@' :: name)).length ∧
    slice? (bytes sql) (w.cursor + 1) (encode (r.read ++ '@' :: name)).length =
      some (String.ofList name) ∧
    slice? (bytes sql) w.copied w.cursor = some (String.ofList r.passed) := by
  have htext : bytes sql = encode (r.read ++ ['@'] ++ name ++ back) := by
    rw [h.bytes_eq, hrest]
    simp
  have hfirst : (encode (r.read ++ ['@'])).length = w.cursor + 1 := by
    rw [length_encode_sign, h.cursor_eq]
  have hsign : r.read ++ ['@'] ++ name = r.read ++ '@' :: name := by
    rw [List.append_assoc, List.singleton_append]
  have htake : (name ++ back).takeWhile isNameChar = name :=
    takeWhile_append_of_stop (List.all_eq_true.mp (all_isNameChar_of_isName hname)) hstop
  refine ⟨?_, ?_, ?_⟩
  · rw [htext, ← hfirst, List.append_assoc _ name, nameEnd_encode, htake, hsign]
  · rw [htext, ← hfirst, ← hsign]
    exact slice?_encode _ _ _
  · rw [h.bytes_eq, h.copied, h.cursor_eq]
    exact slice?_encode _ _ _

theorem replace_eq : w.replace (bytes sql) b =
    (w.place b (String.ofList name)).map fun p =>
      p.2.write (String.ofList r.passed) p.1 (encode (r.read ++ '@' :: name)).length := by
  obtain ⟨hend, hslice, hpassed⟩ := slices h hrest hname hstop
  unfold Walk.replace
  rw [hend]
  show (sliceAt (bytes sql) (w.cursor + 1) _ >>= _) = _
  rw [sliceAt_of_slice? hslice, sliceAt_of_slice? hpassed]
  show (w.place b (String.ofList name) >>= _) = _
  cases w.place b (String.ofList name) <;> rfl

/-- a placeholder is replaced, or reported -/
theorem goes_replace (hquote : r.quote = none)
    (hopens : opensName r.read.getLast? (name ++ back) = true) :
    Goes sql b (w.replace (bytes sql) b) := by
  have hpieces : pieces r.mode r.rest =
      .name name :: pieces (.plain (r.read ++ '@' :: name).getLast?) back := by
    rw [Reading.mode_of_none hquote, hrest, pieces, if_neg (by decide), if_pos ⟨rfl, hopens⟩,
      pieces_named hname r.read hstop]
  have hw := h.quote_of_none hquote
  rw [replace_eq h hrest hname hstop]
  cases hi : r.known.idxOf? name with
  | some i =>
    rw [h.knows.place_of_some hi]
    refine .on (h.behind hrest hw h.knows ?_)
    rw [hpieces]
    exact add_known hi r.passed _ _
  | none =>
    rw [h.knows.place_of_none hi]
    cases hvalue : b.find? (String.ofList name) with
    | none =>
      refine .stops (eq_error_of_mapError ?_)
      rw [h.outcome, hpieces, number, hi]
      dsimp only
      rw [hvalue]
      rfl
    | some value =>
      have hlearned : (w.learn (String.ofList name) value).quote = none := hw
      refine .on (h.behind hrest hlearned (h.knows.learn hi value) ?_)
      rw [hpieces]
      exact add_new hi hvalue r.passed _ _

end

section
variable {c : Char} {rest : List Char} (h : w.Reads sql b r []) (hrest : r.rest = c :: rest)
include h hrest

/-- the byte at the cursor, when it stands in front of a character -/
theorem exists_byte : ∃ x ∈ String.utf8EncodeChar c, byteAt (bytes sql) w.cursor = .ok x := by
  rw [h.bytes_eq, hrest, h.cursor_eq]
  exact exists_byteAt r.read c rest

theorem opensNameAt_eq (hsign : c = '@') :
    opensNameAt (bytes sql) w.cursor = .ok (opensName r.read.getLast? rest) := by
  rw [h.bytes_eq, hrest, hsign, h.cursor_eq, opensNameAt_encode]

theorem step_of_quoted {q : Char} (hq : r.quote = some q) : Goes sql b (w.step (bytes sql) b) := by
  obtain ⟨x, hx, hbyte⟩ := exists_byte h hrest
  have hmark := (sameAscii_mark (h.mark q hq)).of_mem hx
  rw [step_quoted hbyte (h.quote_of_some hq)]
  by_cases hc : c = q
  · rw [if_pos (of_decide_eq_true (hmark.trans (decide_eq_true hc)))]
    obtain ⟨tail, hpass⟩ := h.pass hrest (q := none) (by simp) (by
      rw [Reading.mode_of_some hq, Reading.mode_pass_none, pieces, if_pos hc])
    exact .on hpass
  · rw [if_neg (of_decide_eq_false (hmark.trans (decide_eq_false hc)))]
    obtain ⟨tail, hpass⟩ := h.pass hrest (q := some q) (by simpa using h.mark q hq) (by
      rw [Reading.mode_of_some hq, Reading.mode_of_some rfl, pieces, if_neg hc])
    exact .on hpass

/-- outside of quotes a character that opens nothing is passed -/
theorem goes_advance (hq : r.quote = none) (hc : isQuote c = false)
    (hopens : ¬ (c = '@' ∧ opensName r.read.getLast? rest = true)) :
    Goes sql b (.ok w.advance) := by
  have hquote : w.quote = quoteByte none := h.quote_of_none hq
  obtain ⟨tail, hpass⟩ := h.pass hrest (q := none) (by simp) (by
    rw [Reading.mode_of_none hq, Reading.mode_pass_none, pieces, hc, if_neg (by decide),
      if_neg hopens])
  rw [← hquote] at hpass
  exact .on hpass

theorem step_of_unquoted (hq : r.quote = none) : Goes sql b (w.step (bytes sql) b) := by
  obtain ⟨x, hx, hbyte⟩ := exists_byte h hrest
  rw [step_unquoted hbyte (h.quote_of_none hq), sameAscii_quote.of_mem hx, sameAscii_sign.of_mem hx]
  cases hc : isQuote c with
  | true =>
    obtain ⟨tail, hpass⟩ := h.pass hrest (q := some c) (by simpa using hc) (by
      rw [Reading.mode_of_none hq, Reading.mode_of_some rfl, pieces, if_pos hc])
    have hmark : quoteByte (some c) = some x := by
      rw [encodeChar_of_lt (toNat_lt_of_isQuote hc), List.mem_singleton] at hx
      rw [hx]
      rfl
    rw [hmark] at hpass
    exact .on hpass
  | false =>
    by_cases hsign : c = '@'
    · subst hsign
      rw [opensNameAt_eq h hrest rfl]
      show Goes sql b (if opensName r.read.getLast? rest then _ else _)
      cases hopens : opensName r.read.getLast? rest with
      | true =>
        obtain ⟨name, back, rfl, hname, hstop⟩ := exists_name_of_opensName hopens
        exact h.goes_replace hrest hname hstop hq hopens
      | false =>
        refine goes_advance h hrest hq rfl ?_
        rw [hopens]
        simp
    · rw [decide_eq_false hsign]
      exact goes_advance h hrest hq hc fun hn => hsign hn.1

end

/-- **One round.**  In front of a byte of the text a walk goes on or stops at a name without a value. -/
theorem goes_step (h : w.Reads sql b r tail) (hlt : w.cursor < (bytes sql).length) :
    Goes sql b (w.step (bytes sql) b) := by
  -- inside of a character, in front of one, or at the end
  cases tail with
  | cons x tail =>
    rw [h.step_tail.1]
    exact .on h.step_tail.2
  | nil =>
    cases hrest : r.rest with
    | nil => exact absurd hlt (Nat.not_lt.mpr (h.length_le hrest))
    | cons c rest =>
      cases hq : r.quote with
      | none => exact step_of_unquoted h hrest hq
      | some q => exact step_of_quoted h hrest hq

theorem cursor_le (h : w.Reads sql b r tail) : w.cursor ≤ (bytes sql).length := by
  obtain ⟨head, hread, hcursor⟩ := h.cursor
  rw [h.bytes_eq, encode_append, hread, List.append_assoc, List.length_append, hcursor]
  exact Nat.le_add_right _ _

theorem isBoundary_copied (h : w.Reads sql b r tail) : isBoundary (bytes sql) w.copied = true := by
  rw [h.bytes_eq, h.copied]
  refine isBoundary_iff.mpr ⟨r.copied, r.passed ++ r.rest, ?_, rfl⟩
  rw [Reading.read, List.append_assoc]

/-- where the byte of a sign is read, a sign stands -/
theorem exists_sign (h : w.Reads sql b r tail) {x : UInt8}
    (hbyte : byteAt (bytes sql) w.cursor = .ok x) (hx : isSignByte x = true) :
    tail = [] ∧ ∃ rest, r.rest = '@' :: rest := by
  cases tail with
  | cons y tail =>
    obtain ⟨hy, hhigh⟩ := h.byteAt_tail
    rw [hbyte] at hy
    cases hy
    rw [sameAscii_sign.eq_false hhigh] at hx
    cases hx
  | nil =>
    refine ⟨rfl, ?_⟩
    cases hrest : r.rest with
    | nil => exact absurd (lt_of_byteAt hbyte) (Nat.not_lt.mpr (h.length_le hrest))
    | cons c rest =>
      obtain ⟨y, hy, hbyte'⟩ := exists_byte h hrest
      rw [hbyte] at hbyte'
      cases hbyte'
      rw [sameAscii_sign.of_mem hy] at hx
      exact ⟨rest, by rw [of_decide_eq_true hx]⟩

/-- at the end of the text nothing is left but what has been passed -/
theorem slice_rest (h : w.Reads sql b r tail) (hle : (bytes sql).length ≤ w.cursor) :
    r.rest = [] ∧ slice? (bytes sql) w.copied (bytes sql).length = some (String.ofList r.passed) := by
  obtain ⟨head, hread, hcursor⟩ := h.cursor
  have hrest : r.rest = [] := by
    cases hrest : r.rest with
    | nil => rfl
    | cons c rest =>
      rw [h.bytes_eq, hrest, encode_append, hread, List.append_assoc, List.length_append,
        List.length_append] at hle
      have hpos := length_encode_lt [] c rest
      rw [List.nil_append, encode_nil, List.length_nil] at hpos
      omega
  have hslice := slice?_encode r.copied r.passed []
  rw [List.append_nil, ← h.copied] at hslice
  rw [h.bytes_eq, hrest, List.append_nil]
  exact ⟨rfl, hslice⟩

theorem run_of_le (h : w.Reads sql b r tail) (hle : (bytes sql).length ≤ w.cursor) :
    w.run (bytes sql) b = (numbered sql b).mapError .unbound := by
  obtain ⟨hrest, hslice⟩ := h.slice_rest hle
  have hpieces : pieces r.mode [] = [] := by
    unfold Reading.mode
    cases r.quote <;> rfl
  rw [run, if_neg (Nat.not_lt.mpr hle), sliceAt_of_slice? hslice, h.outcome, hrest, hpieces]
  show Except.ok _ =
    Except.ok (Numbered.mk (w.written ++ String.ofList (r.passed ++ [])) (w.values ++ []))
  rw [List.append_nil, List.append_nil]

/-- **The whole walk.**  It comes to what the scan over characters comes to. -/
theorem run_eq (h : w.Reads sql b r tail) :
    w.run (bytes sql) b = (numbered sql b).mapError .unbound := by
  -- by the number of bytes that are left; a placeholder takes several of them in one round
  induction hn : (bytes sql).length - w.cursor using Nat.strong_induction_on generalizing w r tail with
  | _ n ih =>
    subst hn
    rcases Nat.lt_or_ge w.cursor (bytes sql).length with hlt | hge
    · have hgoes := h.goes_step hlt
      cases hstep : w.step (bytes sql) b with
      | error f =>
        rw [hstep] at hgoes
        cases hgoes with
        | stops hu =>
          rw [run_of_error hlt hstep, hu]
          rfl
      | ok next =>
        rw [hstep] at hgoes
        cases hgoes with
        | on hnext =>
          have hmoves := cursor_lt_of_step hstep
          rw [run_of_step hlt hstep]
          exact ih _ (by omega) hnext rfl
    · exact h.run_of_le hge

end Reads

/-! ## the states a walk comes to -/

/-- the states in front of the rounds of a walk, and the one behind the last -/
inductive Reached (text : List UInt8) (b : Bindings) : Walk → Prop where
  | start : Reached text b .start
  | step {w next : Walk} (h : Reached text b w) (hlt : w.cursor < text.length)
    (hstep : w.step text b = .ok next) : Reached text b next

theorem Reached.exists_reads {sql : String} {b : Bindings} {w : Walk} (h : Reached (bytes sql) b w) :
    ∃ r tail, w.Reads sql b r tail := by
  induction h with
  | start => exact ⟨_, _, reads_start sql b⟩
  | step _ hlt hstep ih =>
    obtain ⟨r, tail, hreads⟩ := ih
    have hgoes := hreads.goes_step hlt
    rw [hstep] at hgoes
    cases hgoes with
    | on hnext => exact ⟨_, _, hnext⟩

end Walk

/-- what a walk does next can be done -/
structure Walk.Safe (text : List UInt8) (b : Bindings) (w : Walk) : Prop where
  copied_le : w.copied ≤ w.cursor
  cursor_le : w.cursor ≤ text.length
  copied : isBoundary text w.copied = true
  /-- in front of a byte the cursor moves on, or a name without a value is reported -/
  moves : w.cursor < text.length → (∃ next, w.step text b = .ok next ∧ w.cursor < next.cursor) ∨
    ∃ u, w.step text b = .error (.unbound u)
  /-- at a placeholder there are the slice of the name and that of the text since the copy mark -/
  slices : w.quote = none → byteAt text w.cursor = .ok 64 → opensNameAt text w.cursor = .ok true →
    ∃ last name passed, nameEnd text (w.cursor + 1) = .ok last ∧
      slice? text (w.cursor + 1) last = some name ∧ slice? text w.copied w.cursor = some passed
  /-- at the end there is the slice of what is left -/
  rest : w.cursor = text.length → ∃ rest, slice? text w.copied text.length = some rest

theorem Walk.Reads.safe {sql : String} {b : Bindings} {w : Walk} {r : Reading} {tail : List UInt8}
    (h : w.Reads sql b r tail) : w.Safe (bytes sql) b where
  copied_le := h.copied_le
  cursor_le := h.cursor_le
  copied := h.isBoundary_copied
  moves hlt := by
    have hgoes := h.goes_step hlt
    cases hstep : w.step (bytes sql) b with
    | error f =>
      rw [hstep] at hgoes
      cases hgoes with
      | stops hu => exact Or.inr ⟨_, rfl⟩
    | ok next => exact Or.inl ⟨next, rfl, Walk.cursor_lt_of_step hstep⟩
  slices _ hbyte hopens := by
    obtain ⟨rfl, rest, hrest⟩ := h.exists_sign hbyte (by decide)
    rw [h.opensNameAt_eq hrest rfl] at hopens
    obtain ⟨name, back, rfl, hname, hstop⟩ := exists_name_of_opensName (Except.ok.inj hopens)
    exact ⟨_, _, _, h.slices hrest hname hstop⟩
  rest hend := ⟨_, (h.slice_rest hend.symm.le).2⟩

/-- **Bytes and characters.**  The walk over the bytes of a statement comes to what the scan over its
characters comes to, so it never reads a byte that is not there or takes a slice that cannot be cut.
Every state on its way is safe, and the slices are the parts of the statement, in whole characters. -/
theorem numbered_by_bytes (sql : String) (b : Bindings) :
    numberedByBytes sql b = (numbered sql b).mapError .unbound ∧
    (∀ w, Walk.Reached (bytes sql) b w → w.Safe (bytes sql) b) ∧
    ∀ first last part, slice? (bytes sql) first last = some part ↔
      ∃ front rest, sql = front ++ part ++ rest ∧ first = front.utf8ByteSize ∧
        last = (front ++ part).utf8ByteSize := by
  refine ⟨(Walk.reads_start sql b).run_eq, fun w hw => ?_, fun _ _ _ => slice?_bytes_iff⟩
  obtain ⟨r, tail, h⟩ := hw.exists_reads
  exact h.safe

/-- characters of two and of three bytes before and behind signs, names and quotes -/
def accentsSql : String := "é@p€ = ü@@p OR 'ü''@q–' = @p_é@p || @p–@p_"

def accentsBindings : Bindings := ⟨[("p", .text "ä"), ("p_", .int 2)]⟩

theorem accentsSql_by_bytes :
    numberedByBytes accentsSql accentsBindings =
      .ok ⟨"é$1€ = ü@@p OR 'ü''@q–' = $2é$1 || $1–$2", [.text "ä", .int 2]⟩ ∧
    isBoundary (bytes accentsSql) 1 = false ∧
    Walk.start.advance.Safe (bytes accentsSql) accentsBindings := by
  obtain ⟨hrun, hsafe, _⟩ := numbered_by_bytes accentsSql accentsBindings
  have hlt : Walk.start.cursor < (bytes accentsSql).length := by decide +kernel
  have hstep : Walk.start.step (bytes accentsSql) accentsBindings = .ok Walk.start.advance := by
    decide +kernel
  refine ⟨?_, by decide +kernel, hsafe _ (.step .start hlt hstep)⟩
  rw [hrun]
  decide +kernel

end PagedSql

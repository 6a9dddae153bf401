import Mathlib.Data.List.GetD
import Mathlib.Data.List.Nodup
import Mathlib.Data.Set.Function
import PagedSql.Placeholder.Numbered
import PagedSql.Proofs.Bindings
import PagedSql.Proofs.Placeholder.Scan

/-!
# What numbering makes of a statement

Names are numbered while the statement is read.  Seen from the end of the reading, the numbers are the
places of the names in one list, the names in the order of their first occurrences.

* `names`          the names of placeholders among pieces;
* `newNames`       those of them that are not known yet, each once, in the order of first occurrence;
* `Mark`           a character of a numbered text, or the position of a value;
* `Piece.mark`     a piece in the numbered text, names placed by a list;
* `number_eq`      numbering as marks and values, when every name has a value;
* `numbered_eq_ok_iff`   the same for a statement: it is numbered exactly if every name has a value.
-/

namespace PagedSql

/-! ## names -/

def Piece.name? : Piece → Option (List Char)
  | .char _ => none
  | .name n => some n

def names (ps : List Piece) : List (List Char) := ps.filterMap Piece.name?

theorem names_char (c : Char) (ps : List Piece) : names (.char c :: ps) = names ps := rfl
theorem names_name (n : List Char) (ps : List Piece) : names (.name n :: ps) = n :: names ps := rfl
theorem names_append (ps qs : List Piece) : names (ps ++ qs) = names ps ++ names qs := by
  simp [names, List.filterMap_append]

theorem names_map_char (cs : List Char) : names (cs.map .char) = [] := by
  induction cs with
  | nil => rfl
  | cons c cs ih => exact ih

theorem names_chars (s : String) : names (chars s) = [] := names_map_char s.toList

/-- without names, pieces are the characters of their source -/
theorem eq_chars_of_names_nil {ps : List Piece} (h : names ps = []) :
    ps = (ps.flatMap Piece.source).map .char := by
  induction ps with
  | nil => rfl
  | cons p ps ih =>
    cases p with
    | char c =>
      rw [names_char] at h
      rw [List.flatMap_cons, List.map_append, ← ih h]
      rfl
    | name n => exact absurd h (by simp [names_name])

/-! ## order of first occurrence -/

def newNames (known : List (List Char)) : List (List Char) → List (List Char)
  | [] => []
  | n :: ns => if n ∈ known then newNames known ns else n :: newNames (known ++ [n]) ns

theorem newNames_nil (known : List (List Char)) : newNames known [] = [] := rfl

theorem newNames_of_mem {known : List (List Char)} {n : List Char} (h : n ∈ known)
    (ns : List (List Char)) : newNames known (n :: ns) = newNames known ns := by
  rw [newNames, if_pos h]

theorem newNames_of_notMem {known : List (List Char)} {n : List Char} (h : n ∉ known)
    (ns : List (List Char)) : newNames known (n :: ns) = n :: newNames (known ++ [n]) ns := by
  rw [newNames, if_neg h]

theorem mem_newNames {known ns : List (List Char)} {n : List Char} :
    n ∈ newNames known ns ↔ n ∈ ns ∧ n ∉ known := by
  induction ns generalizing known with
  | nil => simp [newNames_nil]
  | cons m ns ih =>
    by_cases hm : m ∈ known
    · rw [newNames_of_mem hm, ih, List.mem_cons]
      constructor
      · exact fun ⟨hn, hk⟩ => ⟨Or.inr hn, hk⟩
      · rintro ⟨rfl | hn, hk⟩
        · exact absurd hm hk
        · exact ⟨hn, hk⟩
    · rw [newNames_of_notMem hm, List.mem_cons, ih, List.mem_cons, List.mem_append,
        List.mem_singleton]
      constructor
      · rintro (rfl | ⟨hn, hk⟩)
        · exact ⟨Or.inl rfl, hm⟩
        · exact ⟨Or.inr hn, fun h => hk (Or.inl h)⟩
      · rintro ⟨rfl | hn, hk⟩
        · exact Or.inl rfl
        · by_cases he : n = m
          · exact Or.inl he
          · exact Or.inr ⟨hn, fun h => h.elim hk he⟩

theorem nodup_newNames (known ns : List (List Char)) : (newNames known ns).Nodup := by
  induction ns generalizing known with
  | nil => exact List.nodup_nil
  | cons m ns ih =>
    by_cases hm : m ∈ known
    · rw [newNames_of_mem hm]
      exact ih known
    · rw [newNames_of_notMem hm, List.nodup_cons]
      refine ⟨fun h => (mem_newNames.mp h).2 ?_, ih _⟩
      exact List.mem_append_right _ (List.mem_singleton.mpr rfl)

/-- names that do not repeat are all new -/
theorem newNames_of_nodup {known ns : List (List Char)} (h : ns.Nodup)
    (hd : ∀ n ∈ ns, n ∉ known) : newNames known ns = ns := by
  induction ns generalizing known with
  | nil => rfl
  | cons m ns ih =>
    rw [List.nodup_cons] at h
    rw [newNames_of_notMem (hd m List.mem_cons_self), ih h.2]
    intro n hn hk
    rcases List.mem_append.mp hk with hk | hk
    · exact hd n (List.mem_cons_of_mem _ hn) hk
    · rw [List.mem_singleton] at hk
      exact h.1 (hk ▸ hn)

/-- the first of two lists of names comes first -/
theorem newNames_append (known ns ms : List (List Char)) :
    newNames known (ns ++ ms) = newNames known ns ++ newNames (known ++ newNames known ns) ms := by
  induction ns generalizing known with
  | nil => rw [newNames_nil, List.append_nil]; rfl
  | cons n ns ih =>
    rw [List.cons_append]
    by_cases hn : n ∈ known
    · rw [newNames_of_mem hn, newNames_of_mem hn, ih]
    · rw [newNames_of_notMem hn, newNames_of_notMem hn, ih, List.append_assoc]
      rfl

/-! ## marks -/

inductive Mark where
  | char (c : Char)
  | place (k : Nat)
  deriving DecidableEq, Repr

/-- positions are counted from one in the text -/
def Mark.text : Mark → List Char
  | .char c => [c]
  | .place k => position (k + 1)

def Mark.move (f : Nat → Nat) : Mark → Mark
  | .char c => .char c
  | .place k => .place (f k)

def spell (ms : List Mark) : String := String.ofList (ms.flatMap Mark.text)

def Piece.mark (order : List (List Char)) : Piece → Mark
  | .char c => .char c
  | .name n => .place (order.idxOf n)

theorem spell_append (ms ns : List Mark) : spell (ms ++ ns) = spell ms ++ spell ns := by
  unfold spell
  rw [List.flatMap_append, String.ofList_append]

theorem spell_chars (order : List (List Char)) (s : String) :
    spell ((chars s).map (Piece.mark order)) = s := by
  have h : ∀ cs : List Char, ((cs.map Piece.char).map (Piece.mark order)).flatMap Mark.text = cs := by
    intro cs
    induction cs with
    | nil => rfl
    | cons c cs ih => exact congrArg (c :: ·) ih
  unfold spell chars
  rw [h, String.ofList_toList]

/-! ## names behind positions -/

/-- a mark with the name put back for the position -/
def Mark.piece (order : List (List Char)) : Mark → Piece
  | .char c => .char c
  | .place k => .name (order.getD k [])

theorem lt_length_of_place_mem {order : List (List Char)} {ps : List Piece}
    (h : ∀ n ∈ names ps, n ∈ order) {k : Nat} (hk : Mark.place k ∈ ps.map (Piece.mark order)) :
    k < order.length := by
  obtain ⟨p, hp, hpk⟩ := List.mem_map.mp hk
  cases p with
  | char c => exact absurd hpk (by simp [Piece.mark])
  | name n =>
    have hn : n ∈ names ps := List.mem_filterMap.mpr ⟨.name n, hp, rfl⟩
    have hk : order.idxOf n = k := by simpa [Piece.mark] using hpk
    rw [← hk]
    exact List.idxOf_lt_length_of_mem (h n hn)

/-- the marks are the text, each placeholder replaced by the place of its name -/
def Marks (order : List (List Char)) (s : String) (ms : List Mark) : Prop :=
  ms.map (Mark.piece order) = scan s

theorem getD_idxOf {order : List (List Char)} {n : List Char} (h : n ∈ order) :
    order.getD (order.idxOf n) [] = n := by
  rw [List.getD_eq_getElem?_getD, List.getElem?_idxOf h]
  rfl

theorem map_piece_mark {order : List (List Char)} {ps : List Piece}
    (h : ∀ n ∈ names ps, n ∈ order) : (ps.map (Piece.mark order)).map (Mark.piece order) = ps := by
  induction ps with
  | nil => rfl
  | cons p ps ih =>
    cases p with
    | char c =>
      rw [names_char] at h
      simp only [List.map_cons, Piece.mark, Mark.piece, ih h]
    | name n =>
      rw [names_name] at h
      have hn := getD_idxOf (h n List.mem_cons_self)
      simp only [List.map_cons, Piece.mark, Mark.piece, hn, ih fun m hm => h m (List.mem_cons_of_mem _ hm)]

/-- the place in `large` of the name that `small` has at a place -/
def transfer (small large : List (List Char)) (k : Nat) : Nat := large.idxOf (small.getD k [])

theorem map_move_mark {small : List (List Char)} (large : List (List Char)) {ps : List Piece}
    (h : ∀ n ∈ names ps, n ∈ small) :
    (ps.map (Piece.mark small)).map (Mark.move (transfer small large)) =
      ps.map (Piece.mark large) := by
  induction ps with
  | nil => rfl
  | cons p ps ih =>
    cases p with
    | char c =>
      rw [names_char] at h
      simp only [List.map_cons, Piece.mark, Mark.move, ih h]
    | name n =>
      rw [names_name] at h
      have hn := getD_idxOf (h n List.mem_cons_self)
      simp only [List.map_cons, Piece.mark, Mark.move, transfer, hn,
        ih fun m hm => h m (List.mem_cons_of_mem _ hm)]

section
variable {small large : List (List Char)} (hs : ∀ n ∈ small, n ∈ large)
include hs

theorem getElem?_transfer {k : Nat} (hk : k < small.length) :
    large[transfer small large k]? = small[k]? := by
  have hm : small[k] ∈ large := hs _ (List.getElem_mem hk)
  rw [transfer, List.getD_eq_getElem _ _ hk, List.getElem?_idxOf hm, List.getElem?_eq_getElem hk]

theorem transfer_lt {k : Nat} (hk : k < small.length) : transfer small large k < large.length := by
  rw [transfer, List.getD_eq_getElem _ _ hk]
  exact List.idxOf_lt_length_of_mem (hs _ (List.getElem_mem hk))

theorem transfer_injOn (hn : small.Nodup) : Set.InjOn (transfer small large) {k | k < small.length} := by
  intro j hj k hk hjk
  have hj' := getElem?_transfer hs hj
  have hk' := getElem?_transfer hs hk
  rw [hjk, hk'] at hj'
  exact ((List.getElem?_inj hk hn).mp hj').symm

end

/-! ## numbering -/

theorem number_eq (b : Bindings) (known : List (List Char)) (ps : List Piece)
    (h : ∀ n ∈ names ps, n ∉ known → b.Binds n) :
    number b known ps =
      .ok ((ps.map (Piece.mark (known ++ newNames known (names ps)))).flatMap Mark.text,
        (newNames known (names ps)).map b.value) := by
  induction ps generalizing known with
  | nil => rfl
  | cons p ps ih =>
    cases p with
    | char c =>
      rw [names_char] at h ⊢
      rw [number, ih known h]
      rfl
    | name n =>
      rw [names_name] at h ⊢
      by_cases hn : n ∈ known
      · obtain ⟨i, hi⟩ := Option.isSome_iff_exists.mp (List.isSome_idxOf?.mpr hn)
        have hidx : known.idxOf n = i := by
          rw [List.idxOf_eq_getD_idxOf?, hi]
          rfl
        rw [number, hi]
        simp only []
        rw [ih known fun m hm => h m (List.mem_cons_of_mem _ hm), newNames_of_mem hn]
        simp only [List.map_cons, Piece.mark]
        rw [List.idxOf_append_of_mem hn, hidx]
        rfl
      · have hb := Bindings.find?_of_binds (h n List.mem_cons_self hn)
        have hrest : ∀ m ∈ names ps, m ∉ known ++ [n] → b.Binds m := fun m hm hk =>
          h m (List.mem_cons_of_mem _ hm) fun hm' => hk (List.mem_append_left _ hm')
        rw [number, List.idxOf?_eq_none_iff.mpr hn]
        simp only [hb]
        rw [ih _ hrest, newNames_of_notMem hn]
        have hidx : (known ++ n :: newNames (known ++ [n]) (names ps)).idxOf n = known.length := by
          rw [List.idxOf_append_of_notMem hn, List.idxOf_cons_self, Nat.add_zero]
        have horder : known ++ [n] ++ newNames (known ++ [n]) (names ps) =
            known ++ n :: newNames (known ++ [n]) (names ps) := by
          rw [List.append_assoc, List.singleton_append]
        simp only [List.map_cons, Piece.mark, hidx, horder]
        rfl

/-- numbering succeeds only if every name that it meets has a value -/
theorem binds_of_number {b : Bindings} {known : List (List Char)} {ps : List Piece}
    {r : List Char × List Value} (h : number b known ps = .ok r) :
    ∀ n ∈ names ps, n ∉ known → b.Binds n := by
  induction ps generalizing known r with
  | nil => exact fun n hn => absurd hn List.not_mem_nil
  | cons p ps ih =>
    cases p with
    | char c =>
      rw [number] at h
      split at h
      · cases h
      · next hr => exact ih hr
    | name m =>
      rw [number] at h
      rw [names_name]
      intro n hn hk
      split at h
      · next i hi =>
        have hm : m ∈ known := List.isSome_idxOf?.mp (by rw [hi]; rfl)
        split at h
        · cases h
        · next hr =>
          rcases List.mem_cons.mp hn with rfl | hn
          · exact absurd hm hk
          · exact ih hr n hn hk
      · next hi =>
        split at h
        · cases h
        · next v hv =>
          have hb : b.Binds m := Option.isSome_iff_exists.mpr ⟨v, hv⟩
          split at h
          · cases h
          · next hr =>
            by_cases he : n = m
            · rw [he]
              exact hb
            · have hn' : n ∈ names ps := (List.mem_cons.mp hn).resolve_left he
              refine ih hr n hn' fun hk' => ?_
              rcases List.mem_append.mp hk' with hk' | hk'
              · exact hk hk'
              · exact he (List.mem_singleton.mp hk')

/-! ## statements -/

/-- the names of the placeholders in a text -/
def placeholders (sql : String) : List (List Char) := names (scan sql)

/-- those names, each once, in the order of their first occurrences -/
def order (sql : String) : List (List Char) := newNames [] (placeholders sql)

theorem mem_order {sql : String} {n : List Char} : n ∈ order sql ↔ n ∈ placeholders sql := by
  unfold order
  rw [mem_newNames]
  exact ⟨fun h => h.1, fun h => ⟨h, List.not_mem_nil⟩⟩

theorem nodup_order (sql : String) : (order sql).Nodup := nodup_newNames [] _

/-- the marks of a text, names placed by a list -/
def marks (order : List (List Char)) (sql : String) : List Mark := (scan sql).map (Piece.mark order)

theorem numbered_eq {sql : String} {b : Bindings} (h : ∀ n ∈ placeholders sql, b.Binds n) :
    numbered sql b =
      .ok ⟨spell (marks (order sql) sql), (order sql).map b.value⟩ := by
  unfold numbered
  rw [number_eq b [] (pieces (.plain none) sql.toList) fun n hn _ => h n hn]
  rfl

theorem binds_of_numbered {sql : String} {b : Bindings} {r : Numbered} (h : numbered sql b = .ok r) :
    ∀ n ∈ placeholders sql, b.Binds n := by
  unfold numbered at h
  split at h
  · cases h
  · next hr => exact fun n hn => binds_of_number hr n hn List.not_mem_nil

/-- a statement is numbered exactly if all its names have values, and there is one result -/
theorem numbered_eq_ok_iff {sql : String} {b : Bindings} {r : Numbered} :
    numbered sql b = .ok r ↔
      (∀ n ∈ placeholders sql, b.Binds n) ∧
        r = ⟨spell (marks (order sql) sql), (order sql).map b.value⟩ := by
  constructor
  · intro h
    have hb := binds_of_numbered h
    refine ⟨hb, ?_⟩
    rw [numbered_eq hb] at h
    exact (Except.ok.inj h).symm
  · rintro ⟨hb, rfl⟩
    exact numbered_eq hb

end PagedSql

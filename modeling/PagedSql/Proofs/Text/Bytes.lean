import PagedSql.Placeholder.Walk

/-!
# The bytes of characters

* `encode`                 characters as bytes;
* `bytes_eq_encode`        the bytes of a text are those of its characters, one after the other;
* `exists_encodeChar`      a character begins with a byte that continues none, and goes on with bytes
                           that do;
* `isBoundary_iff`         the boundaries are the ends of the parts in which the characters can be cut;
* `slice?_encode`, `slice?_bytes_iff`   a slice between boundaries has the characters between them, and
                           there are no other slices.
-/

namespace PagedSql.Text

/-! ## one character -/

theorem encodeChar_of_lt {c : Char} (h : c.toNat < 128) :
    String.utf8EncodeChar c = [UInt8.ofNat c.toNat] :=
  if_pos (Nat.le_of_lt_succ h)

theorem le_of_mem_encodeChar {c : Char} (h : 128 ≤ c.toNat) {b : UInt8}
    (hb : b ∈ String.utf8EncodeChar c) : 128 ≤ b.toNat := by
  have hc : ¬ c.val.toNat ≤ 127 := Nat.not_le.mpr h
  unfold String.utf8EncodeChar at hb
  simp only [hc, if_false, apply_ite (b ∈ ·), List.mem_cons, List.not_mem_nil, or_false] at hb
  split at hb
  · rcases hb with rfl | rfl <;> rw [UInt8.toNat_ofNat'] <;> omega
  · split at hb
    · rcases hb with rfl | rfl | rfl <;> rw [UInt8.toNat_ofNat'] <;> omega
    · rcases hb with rfl | rfl | rfl | rfl <;> rw [UInt8.toNat_ofNat'] <;> omega

theorem isContinuation_eq_true {b : UInt8} :
    isContinuation b = true ↔ 128 ≤ b.toNat ∧ b.toNat < 192 := by
  simp [isContinuation, UInt8.le_iff_toNat_le, UInt8.lt_iff_toNat_lt]

theorem isContinuation_ofNat (v : Nat) : isContinuation (UInt8.ofNat (v % 64 + 128)) = true := by
  rw [isContinuation_eq_true, UInt8.toNat_ofNat']
  omega

theorem isContinuation_eq_false {n : Nat} (h : n < 256) (hn : n < 128 ∨ 192 ≤ n) :
    isContinuation (UInt8.ofNat n) = false := by
  rw [← Bool.not_eq_true, isContinuation_eq_true, UInt8.toNat_ofNat', Nat.mod_eq_of_lt h]
  omega

/-- a character has a first byte that continues none, and the bytes behind it do -/
theorem exists_encodeChar (c : Char) : ∃ x xs, String.utf8EncodeChar c = x :: xs ∧
    isContinuation x = false ∧ ∀ y ∈ xs, isContinuation y = true := by
  have hmem : ∀ (v : Nat) (xs : List UInt8), (∀ y ∈ xs, isContinuation y = true) →
      ∀ y ∈ UInt8.ofNat (v % 64 + 128) :: xs, isContinuation y = true := by
    intro v xs hxs y hy
    rcases List.mem_cons.mp hy with rfl | hy
    · exact isContinuation_ofNat v
    · exact hxs y hy
  have hnil : ∀ y ∈ ([] : List UInt8), isContinuation y = true := by
    intro y hy
    cases hy
  unfold String.utf8EncodeChar
  dsimp only
  split
  · exact ⟨_, _, rfl, isContinuation_eq_false (by omega) (by omega), hnil⟩
  · split
    · exact ⟨_, _, rfl, isContinuation_eq_false (by omega) (by omega), hmem _ _ hnil⟩
    · split
      · exact ⟨_, _, rfl, isContinuation_eq_false (by omega) (by omega), hmem _ _ (hmem _ _ hnil)⟩
      · exact ⟨_, _, rfl, isContinuation_eq_false (by omega) (by omega),
          hmem _ _ (hmem _ _ (hmem _ _ hnil))⟩

/-! ## texts -/

def encode (cs : List Char) : List UInt8 := cs.flatMap String.utf8EncodeChar

theorem encode_nil : encode [] = [] := rfl
theorem encode_cons (c : Char) (cs : List Char) :
    encode (c :: cs) = String.utf8EncodeChar c ++ encode cs := rfl
theorem encode_append (cs ds : List Char) : encode (cs ++ ds) = encode cs ++ encode ds := by
  simp [encode, List.flatMap_append]

theorem encode_singleton (c : Char) : encode [c] = String.utf8EncodeChar c := by
  rw [encode_cons, encode_nil, List.append_nil]

theorem toByteArray_encode (cs : List Char) : (encode cs).toByteArray = cs.utf8Encode := rfl

theorem bytes_eq_encode (s : String) : bytes s = encode s.toList := by
  unfold bytes
  rw [String.toUTF8_eq_toByteArray, ← String.utf8Encode_toList, ← toByteArray_encode,
    List.toList_data_toByteArray]

theorem length_bytes (s : String) : (bytes s).length = s.utf8ByteSize := by
  unfold bytes
  rw [Array.length_toList]
  rfl

theorem length_encode_toList (s : String) : (encode s.toList).length = s.utf8ByteSize := by
  rw [← bytes_eq_encode, length_bytes]

theorem length_encode (cs : List Char) : (encode cs).length = (String.ofList cs).utf8ByteSize := by
  rw [← length_encode_toList, String.toList_ofList]

/-- the bytes of characters are valid -/
theorem fromUTF8?_encode (cs : List Char) :
    String.fromUTF8? (encode cs).toByteArray = some (String.ofList cs) := by
  have hvalid : ByteArray.IsValidUTF8 (encode cs).toByteArray := ⟨cs, rfl⟩
  unfold String.fromUTF8?
  rw [dif_pos hvalid]
  refine congrArg some (String.toByteArray_inj.mp ?_)
  rw [String.toByteArray_ofList]
  rfl

/-! ## boundaries -/

theorem isBoundary_zero (text : List UInt8) : isBoundary text 0 = true := rfl

/-- the boundaries of characters are the positions at which no character goes on -/
theorem isBoundary_encode {cs : List Char} {i : Nat} : isBoundary (encode cs) i = true ↔
    i ≤ (encode cs).length ∧ ∀ b, (encode cs)[i]? = some b → isContinuation b = false := by
  by_cases h0 : i = 0
  · subst h0
    refine iff_of_true (isBoundary_zero _) ⟨Nat.zero_le _, fun b hb => ?_⟩
    cases cs with
    | nil => cases hb
    | cons c cs =>
      obtain ⟨x, xs, hc, hx, _⟩ := exists_encodeChar c
      rw [encode_cons, hc] at hb
      cases hb
      exact hx
  · cases hi : (encode cs)[i]? with
    | none =>
      have hlen := List.getElem?_eq_none_iff.mp hi
      simp only [isBoundary, h0, hi, Option.any_none, Bool.or_false, decide_false, Bool.false_or,
        decide_eq_true_eq]
      simp only [reduceCtorEq, false_implies, implies_true, and_true]
      omega
    | some b =>
      have hlt := (List.getElem?_eq_some_iff.mp hi).1
      have hne : i ≠ (encode cs).length := Nat.ne_of_lt hlt
      simp [isBoundary, h0, hne, hi, Nat.le_of_lt hlt]

/-- inside of its first character a text has no boundary, and behind it those of the rest -/
theorem isBoundary_cons {c : Char} {cs : List Char} {i : Nat} :
    isBoundary (encode (c :: cs)) i = true ↔ i = 0 ∨
      ∃ j, i = (String.utf8EncodeChar c).length + j ∧ isBoundary (encode cs) j = true := by
  obtain ⟨x, xs, hc, _, hxs⟩ := exists_encodeChar c
  by_cases hin : i < (x :: xs).length
  · cases i with
    | zero => exact iff_of_true (isBoundary_zero _) (Or.inl rfl)
    | succ k =>
      have hk : k < xs.length := Nat.lt_of_succ_lt_succ hin
      have hbyte : (encode (c :: cs))[k + 1]? = some xs[k] := by
        rw [encode_cons, hc, List.getElem?_append_left hin, List.getElem?_cons_succ,
          List.getElem?_eq_getElem hk]
      refine iff_of_false (fun h => ?_) ?_
      · have hfirst := (isBoundary_encode.mp h).2 _ hbyte
        rw [hxs _ (List.getElem_mem hk)] at hfirst
        cases hfirst
      · rintro (h | ⟨j, hj, _⟩)
        · cases h
        · rw [hc] at hj
          omega
  · obtain ⟨j, rfl⟩ := Nat.exists_eq_add_of_le (Nat.not_lt.mp hin)
    have hbyte : (encode (c :: cs))[(x :: xs).length + j]? = (encode cs)[j]? := by
      rw [encode_cons, hc, List.getElem?_append_right (Nat.le_add_right _ _), Nat.add_sub_cancel_left]
    have hrest : isBoundary (encode (c :: cs)) ((x :: xs).length + j) = true ↔
        isBoundary (encode cs) j = true := by
      rw [isBoundary_encode, isBoundary_encode, hbyte, encode_cons, hc, List.length_append,
        Nat.add_le_add_iff_left]
    rw [hrest, hc]
    constructor
    · exact fun h => Or.inr ⟨j, rfl, h⟩
    · rintro (h | ⟨k, hk, h⟩)
      · rw [List.length_cons] at h
        omega
      · rwa [Nat.add_left_cancel hk]

/-- **Boundaries.**  They are the ends of the front parts of a text. -/
theorem isBoundary_iff {cs : List Char} {i : Nat} : isBoundary (encode cs) i = true ↔
    ∃ front rest, cs = front ++ rest ∧ i = (encode front).length := by
  induction cs generalizing i with
  | nil =>
    constructor
    · exact fun h => ⟨[], [], rfl, Nat.le_zero.mp (isBoundary_encode.mp h).1⟩
    · rintro ⟨front, rest, h, rfl⟩
      obtain ⟨rfl, _⟩ := List.append_eq_nil_iff.mp h.symm
      rfl
  | cons c cs ih =>
    rw [isBoundary_cons]
    constructor
    · rintro (rfl | ⟨j, rfl, h⟩)
      · exact ⟨[], c :: cs, rfl, rfl⟩
      · obtain ⟨front, rest, rfl, rfl⟩ := ih.mp h
        refine ⟨c :: front, rest, rfl, ?_⟩
        rw [encode_cons, List.length_append]
    · rintro ⟨front, rest, hcs, rfl⟩
      cases front with
      | nil => exact Or.inl rfl
      | cons d front =>
        obtain ⟨rfl, rfl⟩ := List.cons.inj hcs
        refine Or.inr ⟨(encode front).length, ?_, ih.mpr ⟨front, rest, rfl, rfl⟩⟩
        rw [encode_cons, List.length_append]

/-! ## slices -/

theorem slice?_encode (front middle rest : List Char) :
    slice? (encode (front ++ middle ++ rest)) (encode front).length (encode (front ++ middle)).length =
      some (String.ofList middle) := by
  have hle : (encode front).length ≤ (encode (front ++ middle)).length := by
    rw [encode_append, List.length_append]
    exact Nat.le_add_right _ _
  have hfirst : isBoundary (encode (front ++ middle ++ rest)) (encode front).length = true :=
    isBoundary_iff.mpr ⟨front, middle ++ rest, List.append_assoc _ _ _, rfl⟩
  have hlast : isBoundary (encode (front ++ middle ++ rest)) (encode (front ++ middle)).length = true :=
    isBoundary_iff.mpr ⟨front ++ middle, rest, rfl, rfl⟩
  have hbytes : ((encode (front ++ middle ++ rest)).drop (encode front).length).take
      ((encode (front ++ middle)).length - (encode front).length) = encode middle := by
    rw [encode_append (front ++ middle), encode_append front, List.append_assoc, List.drop_left,
      List.length_append, Nat.add_sub_cancel_left, List.take_left]
  unfold slice?
  rw [if_pos ⟨hle, hfirst, hlast⟩, hbytes, fromUTF8?_encode]

theorem exists_middle_of_length_le {as bs cs ds : List Char} (h : as ++ bs = cs ++ ds)
    (hle : (encode as).length ≤ (encode cs).length) :
    ∃ middle, cs = as ++ middle ∧ bs = middle ++ ds := by
  rcases List.append_eq_append_iff.mp h with ⟨more, hcs, hbs⟩ | ⟨more, has, hds⟩
  · exact ⟨more, hcs, hbs⟩
  · cases more with
    | nil => exact ⟨[], by simpa using has.symm, by simpa using hds.symm⟩
    | cons c more =>
      obtain ⟨x, xs, hc, _⟩ := exists_encodeChar c
      rw [has, encode_append, encode_cons, hc, List.length_append, List.cons_append,
        List.length_cons] at hle
      omega

/-- **Slices.**  They are the parts of a text, at the bytes at which these begin and end. -/
theorem slice?_bytes_iff {s t : String} {first last : Nat} : slice? (bytes s) first last = some t ↔
    ∃ front rest, s = front ++ t ++ rest ∧ first = front.utf8ByteSize ∧
      last = (front ++ t).utf8ByteSize := by
  constructor
  · intro h
    have hcond : first ≤ last ∧ isBoundary (bytes s) first ∧ isBoundary (bytes s) last := by
      unfold slice? at h
      split at h
      · assumption
      · cases h
    obtain ⟨hle, hfirst, hlast⟩ := hcond
    rw [bytes_eq_encode] at h hfirst hlast
    obtain ⟨front, back, hs, rfl⟩ := isBoundary_iff.mp hfirst
    obtain ⟨upto, rest, hs', rfl⟩ := isBoundary_iff.mp hlast
    obtain ⟨middle, rfl, rfl⟩ := exists_middle_of_length_le (hs.symm.trans hs') hle
    rw [hs', slice?_encode] at h
    cases h
    refine ⟨String.ofList front, String.ofList rest, ?_, length_encode front, ?_⟩
    · rw [← String.ofList_append, ← String.ofList_append, ← hs', String.ofList_toList]
    · rw [← String.ofList_append, length_encode]
  · rintro ⟨front, rest, rfl, rfl, rfl⟩
    have hslice := slice?_encode front.toList t.toList rest.toList
    rwa [← String.toList_append, ← String.toList_append, ← bytes_eq_encode, length_encode_toList,
      length_encode_toList, String.ofList_toList] at hslice

end PagedSql.Text

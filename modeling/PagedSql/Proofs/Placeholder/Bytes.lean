import PagedSql.Placeholder.Walk
import PagedSql.Proofs.Identifier.Grammar
import PagedSql.Proofs.Placeholder.Scan
import PagedSql.Proofs.Text.Bytes

/-!
# What the bytes around a place say of its characters

A walk looks at single bytes.  Those of a character outside of ASCII are of no sort that it asks for, so
each byte of a character tells of which sort the character is.

* `SameAscii`            sorts of bytes and of characters that agree;
* `SameAscii.of_mem`     each byte of a character is of its sort;
* `exists_byteAt`, `exists_byteAt_before`   the bytes on both sides of a place between characters;
* `opensNameAt_encode`, `nameEnd_encode`   what opens a name and where a name ends, told by bytes and by
                         characters.
-/

namespace PagedSql
open PagedSql.Text

/-! ## bytes and characters of one sort -/

/-- a sort of bytes and a sort of characters that have the same ASCII in them and nothing else -/
structure SameAscii (p : UInt8 → Bool) (q : Char → Bool) : Prop where
  ascii : ∀ n < 128, p (UInt8.ofNat n) = q (Char.ofNat n)
  byte : ∀ n < 256, 128 ≤ n → p (UInt8.ofNat n) = false
  char : ∀ c, q c = true → c.toNat < 128

section
variable {p : UInt8 → Bool} {q : Char → Bool} (h : SameAscii p q)
include h

theorem SameAscii.eq_false {x : UInt8} (hx : 128 ≤ x.toNat) : p x = false := by
  have hbyte := h.byte x.toNat x.toNat_lt hx
  rwa [UInt8.ofNat_toNat] at hbyte

/-- every byte of a character is of the sort that the character is of -/
theorem SameAscii.of_mem {c : Char} {x : UInt8} (hx : x ∈ String.utf8EncodeChar c) : p x = q c := by
  rcases Nat.lt_or_ge c.toNat 128 with hc | hc
  · rw [encodeChar_of_lt hc, List.mem_singleton] at hx
    rw [hx, h.ascii _ hc, Char.ofNat_toNat]
  · have hchar : q c = false := Bool.eq_false_iff.mpr fun hq => Nat.not_le.mpr (h.char c hq) hc
    rw [h.eq_false (le_of_mem_encodeChar hc hx), hchar]

end

theorem toNat_lt_of_isNameChar {c : Char} (h : isNameChar c = true) : c.toNat < 128 := by
  have hsize := utf8Size_of_isNameChar h
  rw [Char.utf8Size_eq_one_iff, UInt32.le_iff_toNat_le] at hsize
  exact Nat.lt_succ_of_le hsize

theorem eq_of_isQuote {c : Char} (h : isQuote c = true) : c = '\'' ∨ c = '"' := by
  simpa [isQuote] using h

theorem toNat_lt_of_isQuote {c : Char} (h : isQuote c = true) : c.toNat < 128 := by
  rcases eq_of_isQuote h with rfl | rfl <;> decide

theorem sameAscii_name : SameAscii isNameByte isNameChar :=
  ⟨by decide +kernel, by decide +kernel, fun _ => toNat_lt_of_isNameChar⟩

theorem sameAscii_nameStart : SameAscii isNameStartByte isNameStart :=
  ⟨by decide +kernel, by decide +kernel, fun _ h =>
    toNat_lt_of_isNameChar (isNameChar_of_isNameStart h)⟩

theorem sameAscii_sign : SameAscii isSignByte (· = '@') := by
  refine ⟨by decide +kernel, by decide +kernel, fun c h => ?_⟩
  rw [of_decide_eq_true h]
  decide

theorem sameAscii_quote : SameAscii isQuoteByte isQuote :=
  ⟨by decide +kernel, by decide +kernel, fun _ => toNat_lt_of_isQuote⟩

/-- the mark that closes a quotation -/
theorem sameAscii_mark {q : Char} (h : isQuote q = true) :
    SameAscii (fun x => x = UInt8.ofNat q.toNat) (fun c => c = q) := by
  refine ⟨?_, ?_, fun c hc => ?_⟩
  · rcases eq_of_isQuote h with rfl | rfl <;> decide +kernel
  · rcases eq_of_isQuote h with rfl | rfl <;> decide +kernel
  · rw [of_decide_eq_true hc]
    exact toNat_lt_of_isQuote h

/-! ## what a walk reads -/

theorem byteAt_append (head : List UInt8) (x : UInt8) (rest : List UInt8) :
    byteAt (head ++ x :: rest) head.length = .ok x := by
  unfold byteAt
  rw [List.getElem?_append_right (Nat.le_refl _), Nat.sub_self, List.getElem?_cons_zero]

theorem length_encode_lt (front : List Char) (c : Char) (rest : List Char) :
    (encode front).length < (encode (front ++ c :: rest)).length := by
  obtain ⟨x, xs, hc, _⟩ := exists_encodeChar c
  rw [encode_append, encode_cons, hc, List.length_append, List.cons_append, List.length_cons]
  omega

/-- the byte at which a character begins -/
theorem exists_byteAt (front : List Char) (c : Char) (rest : List Char) :
    ∃ x ∈ String.utf8EncodeChar c,
      byteAt (encode (front ++ c :: rest)) (encode front).length = .ok x := by
  obtain ⟨x, xs, hc, _⟩ := exists_encodeChar c
  refine ⟨x, by rw [hc]; exact List.mem_cons_self, ?_⟩
  rw [encode_append, encode_cons, hc, List.cons_append]
  exact byteAt_append _ _ _

/-- the byte in front of which a character ends -/
theorem exists_byteAt_before (front : List Char) (c : Char) (rest : List Char) :
    ∃ x ∈ String.utf8EncodeChar c,
      byteAt (encode (front ++ c :: rest)) ((encode (front ++ [c])).length - 1) = .ok x := by
  rcases List.eq_nil_or_concat (String.utf8EncodeChar c) with hnil | ⟨xs, x, hc⟩
  · exact absurd hnil String.utf8EncodeChar_ne_nil
  · rw [List.concat_eq_append] at hc
    have hlength : (encode (front ++ [c])).length - 1 = (encode front ++ xs).length := by
      rw [encode_append, encode_singleton, hc, ← List.append_assoc, List.length_append,
        List.length_singleton, Nat.add_sub_cancel]
    have htext : encode (front ++ c :: rest) = encode front ++ xs ++ x :: encode rest := by
      rw [encode_append, encode_cons, hc]
      simp
    refine ⟨x, by rw [hc]; exact List.mem_append_right _ List.mem_cons_self, ?_⟩
    rw [hlength, htext]
    exact byteAt_append _ _ _

theorem encode_sign : encode ['@'] = [64] := by decide

theorem length_encode_sign (front : List Char) :
    (encode (front ++ ['@'])).length = (encode front).length + 1 := by
  rw [encode_append, encode_sign, List.length_append, List.length_singleton]

/-- the byte behind a sign, if there is one -/
theorem any_isNameStartByte (front rest : List Char) :
    (encode (front ++ '@' :: rest))[(encode front).length + 1]?.any isNameStartByte =
      rest.head?.any isNameStart := by
  have htext : encode (front ++ '@' :: rest) = encode (front ++ ['@']) ++ encode rest := by
    rw [← encode_append, List.append_assoc, List.singleton_append]
  rw [← length_encode_sign, htext, List.getElem?_append_right (Nat.le_refl _), Nat.sub_self]
  cases rest with
  | nil => rfl
  | cons c rest =>
    obtain ⟨x, xs, hc, _⟩ := exists_encodeChar c
    have hx := sameAscii_nameStart.of_mem (c := c) (x := x) (by rw [hc]; exact List.mem_cons_self)
    rw [encode_cons, hc]
    exact hx

theorem opensName_eq (before : Option Char) (rest : List Char) :
    opensName before rest = (before.all isBreak && rest.head?.any isNameStart) := by
  cases before <;> cases rest <;> rfl

/-- a sign opens a placeholder for the bytes around it as it does for the characters -/
theorem opensNameAt_encode (front rest : List Char) :
    opensNameAt (encode (front ++ '@' :: rest)) (encode front).length =
      .ok (opensName front.getLast? rest) := by
  unfold opensNameAt
  rw [any_isNameStartByte, opensName_eq]
  rcases List.eq_nil_or_concat front with rfl | ⟨front, c, rfl⟩
  · rfl
  · rw [List.concat_eq_append]
    obtain ⟨x, hx, hbyte⟩ := exists_byteAt_before front c ('@' :: rest)
    have hne : (encode (front ++ [c])).length ≠ 0 := Nat.ne_zero_of_lt (length_encode_lt front c [])
    rw [if_neg hne, List.append_assoc, List.singleton_append, hbyte, List.getLast?_concat]
    show Except.ok _ = Except.ok _
    rw [sameAscii_name.of_mem hx, sameAscii_sign.of_mem hx]
    rw [Bool.and_comm, Bool.not_or]
    by_cases hc : c = '@'
    · simp [isBreak, hc]
    · simp [isBreak, hc, bne_iff_ne.mpr hc]

/-- a name ends for the bytes where it ends for the characters -/
theorem nameEnd_encode (front rest : List Char) :
    nameEnd (encode (front ++ rest)) (encode front).length =
      .ok (encode (front ++ rest.takeWhile isNameChar)).length := by
  induction rest generalizing front with
  | nil =>
    rw [nameEnd, List.append_nil, if_neg (Nat.lt_irrefl _), List.takeWhile_nil, List.append_nil]
    rfl
  | cons c rest ih =>
    obtain ⟨x, hx, hbyte⟩ := exists_byteAt front c rest
    rw [nameEnd, if_pos (length_encode_lt front c rest), hbyte, List.takeWhile_cons]
    show (if isNameByte x then _ else _) = _
    rw [sameAscii_name.of_mem hx]
    cases hc : isNameChar c with
    | false =>
      rw [if_neg (by decide), if_neg (by decide), List.append_nil]
      rfl
    | true =>
      have hnext := ih (front ++ [c])
      have hlength : (encode (front ++ [c])).length = (encode front).length + 1 := by
        rw [encode_append, encode_singleton, encodeChar_of_lt (toNat_lt_of_isNameChar hc),
          List.length_append, List.length_singleton]
      rw [List.append_assoc, List.singleton_append, hlength, List.append_assoc,
        List.singleton_append] at hnext
      rw [if_pos rfl, if_pos rfl, hnext]

end PagedSql

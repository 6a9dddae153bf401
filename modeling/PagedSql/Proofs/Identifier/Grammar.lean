import Mathlib
import PagedSql.Proofs.Identifier

/-!
# The grammar of names

A text is a name exactly when it is in the grammar: one part, or two with a point between them, each
part a letter or `_` in front of at most 62 letters, digits and `_`, and no keyword in any case of its
letters.  Any other text is refused, and for the first of the things that are wrong with it: the parts
are taken from the left, and each is asked for its length before its characters.

* `IsPart`, `IsName`           the grammar;
* `Dotted`                     a text cut at its points;
* `PartRefused`, `Refused`     what a text outside the grammar is refused for;
* `dotted_iff`                 cutting at the points is the only way to undo joining with points;
* `partFault?_eq_none_iff`, `partFault?_eq_some_iff`   one part;
* `fault?_eq_none_iff`, `fault?_eq_some_iff`           a whole text;
* `identifier_grammar`         reading a name.
-/

namespace PagedSql
open PagedSql.Text

/-! ## letters and digits -/

def IsLetter (c : Char) : Prop := ('A' ≤ c ∧ c ≤ 'Z') ∨ ('a' ≤ c ∧ c ≤ 'z')

def IsDigit (c : Char) : Prop := '0' ≤ c ∧ c ≤ '9'

theorem isAlpha_iff (c : Char) : c.isAlpha = true ↔ IsLetter c := by
  unfold Char.isAlpha Char.isUpper Char.isLower IsLetter
  rw [Bool.or_eq_true, decide_eq_true_iff, Bool.and_eq_true, decide_eq_true_iff, decide_eq_true_iff]
  rfl

theorem isNameStart_iff (c : Char) : isNameStart c = true ↔ IsLetter c ∨ c = '_' := by
  unfold isNameStart
  rw [Bool.or_eq_true, isAlpha_iff, decide_eq_true_iff]

theorem isNameChar_iff (c : Char) : isNameChar c = true ↔ IsLetter c ∨ IsDigit c ∨ c = '_' := by
  unfold isNameChar Char.isAlphanum Char.isDigit
  rw [Bool.or_eq_true, Bool.or_eq_true, isAlpha_iff, Bool.and_eq_true, decide_eq_true_iff,
    decide_eq_true_iff, decide_eq_true_iff, or_assoc]
  rfl

/-- the characters of a name are one byte each -/
theorem utf8Size_of_isNameChar {c : Char} (h : isNameChar c = true) : c.utf8Size = 1 := by
  have hle : c.val.toNat ≤ 127 := by
    rw [isNameChar_iff] at h
    unfold IsLetter IsDigit at h
    simp only [Char.le_def, UInt32.le_iff_toNat_le] at h
    have hZ : 'Z'.val.toNat = 90 := rfl
    have hz : 'z'.val.toNat = 122 := rfl
    have h9 : '9'.val.toNat = 57 := rfl
    rcases h with (⟨-, h⟩ | ⟨-, h⟩) | ⟨-, h⟩ | rfl
    · omega
    · omega
    · omega
    · decide
  rw [Char.utf8Size_eq_one_iff, UInt32.le_iff_toNat_le]
  exact hle

/-! ## cutting at points -/

namespace Text

theorem splitChars_eq (sep : Char) (cs : List Char) : splitChars sep cs = cs.splitOn sep := by
  induction cs with
  | nil => rfl
  | cons c cs ih =>
    rw [List.splitOn_cons_eq_if_modifyHead, ← ih, splitChars]
    by_cases hc : c = sep
    · rw [if_pos hc, if_pos (beq_iff_eq.mpr hc)]
    · rw [if_neg hc, if_neg (mt beq_iff_eq.mp hc)]
      obtain ⟨part, parts, hparts⟩ := List.exists_cons_of_ne_nil (splitChars_ne_nil sep cs)
      rw [hparts]
      rfl

theorem not_mem_of_mem_splitChars {sep : Char} {cs part : List Char} (h : part ∈ splitChars sep cs) :
    sep ∉ part := by
  induction cs generalizing part with
  | nil =>
    rw [List.mem_singleton.mp h]
    exact List.not_mem_nil
  | cons c cs ih =>
    unfold splitChars at h
    by_cases hc : c = sep
    · rw [if_pos hc] at h
      rcases List.mem_cons.mp h with rfl | h
      · exact List.not_mem_nil
      · exact ih h
    · rw [if_neg hc] at h
      obtain ⟨first, parts, hparts⟩ := List.exists_cons_of_ne_nil (splitChars_ne_nil sep cs)
      rw [hparts] at ih h
      rcases List.mem_cons.mp h with rfl | h
      · have hfirst := ih List.mem_cons_self
        exact fun hmem => (List.mem_cons.mp hmem).elim (Ne.symm hc) hfirst
      · exact ih (List.mem_cons_of_mem _ h)

theorem toList_join (sep : String) (ss : List String) :
    (join sep ss).toList = sep.toList.intercalate (ss.map String.toList) := by
  induction ss with
  | nil => rfl
  | cons s ss ih =>
    cases ss with
    | nil => rw [join_singleton, List.map_singleton, List.intercalate_singleton]
    | cons t rest =>
      rw [join_cons_cons, List.map_cons, List.map_cons, List.intercalate_cons_cons, ← List.map_cons,
        String.toList_append, String.toList_append, ih]

end Text

/-- `name` is `parts` with a point between each two, and no point is in a part -/
structure Dotted (name : String) (parts : List String) : Prop where
  parts_ne_nil : parts ≠ []
  pointless : ∀ part ∈ parts, '.' ∉ part.toList
  name_eq : name = join "." parts

theorem dotted_iff {name : String} {parts : List String} :
    Dotted name parts ↔ parts = splitOn '.' name := by
  unfold splitOn
  constructor
  · rintro ⟨hne, hpoints, rfl⟩
    have hcut : splitChars '.' (join "." parts).toList = parts.map String.toList := by
      rw [splitChars_eq, toList_join]
      refine List.splitOn_intercalate '.' (fun part hpart => ?_) (by simpa using hne)
      obtain ⟨s, hs, rfl⟩ := List.mem_map.mp hpart
      exact hpoints s hs
    rw [hcut, List.map_map]
    exact (List.map_id'' (fun _ => String.ofList_toList) parts).symm
  · rintro rfl
    refine ⟨?_, fun part hpart => ?_, ?_⟩
    · exact fun hnil => splitChars_ne_nil '.' name.toList (List.map_eq_nil_iff.mp hnil)
    · obtain ⟨cs, hcs, rfl⟩ := List.mem_map.mp hpart
      rw [String.toList_ofList]
      exact not_mem_of_mem_splitChars hcs
    · have hback : (splitChars '.' name.toList).map (String.toList ∘ String.ofList)
          = splitChars '.' name.toList := List.map_id'' (fun _ => String.toList_ofList) _
      refine String.toList_injective ?_
      rw [toList_join, List.map_map, hback, splitChars_eq]
      exact (List.intercalate_splitOn '.').symm

theorem Dotted.unique {name : String} {parts parts' : List String} (h : Dotted name parts)
    (h' : Dotted name parts') : parts = parts' :=
  (dotted_iff.mp h).trans (dotted_iff.mp h').symm

/-! ## one part -/

namespace Identifier

def IsKeyword (part : String) : Prop := ∃ word ∈ reservedWords, SameWord part word

/-- one part of a name -/
structure IsPart (part : String) : Prop where
  shape : ∃ first rest, part = String.ofList (first :: rest) ∧ (IsLetter first ∨ first = '_') ∧
    rest.length ≤ 62 ∧ ∀ c ∈ rest, IsLetter c ∨ IsDigit c ∨ c = '_'
  free : ¬ IsKeyword part

/-- the names: one part, or two with a point between them -/
def IsName (name : String) : Prop :=
  IsPart name ∨ ∃ scope column, IsPart scope ∧ IsPart column ∧ name = scope ++ "." ++ column

def Opens (part : String) : Prop := ∃ c rest, part.toList = c :: rest ∧ (IsLetter c ∨ c = '_')

def Spelled (part : String) : Prop := ∀ c ∈ part.toList, IsLetter c ∨ IsDigit c ∨ c = '_'

/-- what a part of `name` is refused for, the first of five things -/
inductive PartRefused (name part : String) : Rejection → Prop where
  | empty (hempty : part = "") : PartRefused name part .empty
  | tooLong (hlong : 63 < part.utf8ByteSize) :
    PartRefused name part (.tooLong name part.utf8ByteSize)
  | invalidStart (hne : part ≠ "") (hshort : ¬ 63 < part.utf8ByteSize) (hstart : ¬ Opens part) :
    PartRefused name part (.invalidStart name)
  | invalidCharacters (hshort : ¬ 63 < part.utf8ByteSize) (hstart : Opens part)
      (hchars : ¬ Spelled part) : PartRefused name part (.invalidCharacters name)
  | reserved (hshort : ¬ 63 < part.utf8ByteSize) (hstart : Opens part) (hchars : Spelled part)
      (hword : IsKeyword part) : PartRefused name part (.reserved name)

/-- what a text is refused for: nothing in it, too many parts, or the first part that is refused -/
inductive Refused (name : String) : Rejection → Prop where
  | empty (hempty : name = "") : Refused name .empty
  | tooManyParts {parts : List String} (hparts : Dotted name parts) (hmany : 2 < parts.length) :
    Refused name (.tooManyParts name)
  | part {before : List String} {part : String} {after : List String} {r : Rejection}
      (hne : name ≠ "") (hparts : Dotted name (before ++ part :: after))
      (hfew : (before ++ part :: after).length ≤ 2) (hbefore : ∀ s ∈ before, IsPart s)
      (hpart : PartRefused name part r) : Refused name r

theorem byteLength_eq (cs : List Char) : byteLength cs = (String.ofList cs).utf8ByteSize := by
  induction cs with
  | nil => rfl
  | cons c cs ih =>
    rw [String.ofList_cons, String.utf8ByteSize_append, String.utf8ByteSize_singleton, ← ih]
    rfl

theorem byteLength_of_isNameChar {cs : List Char} (h : ∀ c ∈ cs, isNameChar c = true) :
    byteLength cs = cs.length := by
  induction cs with
  | nil => rfl
  | cons c cs ih =>
    have hc := utf8Size_of_isNameChar (h c List.mem_cons_self)
    have hcs := ih fun d hd => h d (List.mem_cons_of_mem _ hd)
    show c.utf8Size + byteLength cs = cs.length + 1
    omega

theorem isReserved_iff (part : String) : isReserved part.toList = true ↔ IsKeyword part := by
  have hcapitals : ∀ word ∈ reservedWords, word.toList.map Char.toUpper = word.toList := by
    decide +kernel
  unfold isReserved IsKeyword
  rw [List.contains_iff_mem]
  constructor
  · intro hmem
    refine ⟨_, hmem, ?_⟩
    unfold SameWord lowerAscii
    rw [String.toList_ofList, List.map_map]
    congr 1
    exact List.map_congr_left fun c _ => (Char.toLower_toUpper_eq_toLower c).symm
  · rintro ⟨word, hword, hsame⟩
    have hlower : part.toList.map Char.toLower = word.toList.map Char.toLower := by
      rw [← toList_lowerAscii, ← toList_lowerAscii, hsame]
    have hupper : part.toList.map Char.toUpper = word.toList := calc
      part.toList.map Char.toUpper = (part.toList.map Char.toLower).map Char.toUpper := by
          rw [List.map_map]
          exact List.map_congr_left fun c _ => (Char.toUpper_toLower_eq_toUpper c).symm
      _ = word.toList.map Char.toUpper := by
          rw [hlower, List.map_map]
          exact List.map_congr_left fun c _ => Char.toUpper_toLower_eq_toUpper c
      _ = word.toList := hcapitals word hword
    rw [hupper, String.ofList_toList]
    exact hword

theorem opens_iff {part : String} {c : Char} {cs : List Char} (h : part.toList = c :: cs) :
    Opens part ↔ isNameStart c = true := by
  rw [isNameStart_iff]
  constructor
  · rintro ⟨d, rest, hd, hstart⟩
    rw [h] at hd
    injection hd with hcd
    rw [hcd]
    exact hstart
  · exact fun hstart => ⟨c, cs, h, hstart⟩

theorem spelled_iff (part : String) : Spelled part ↔ part.toList.all isNameChar = true := by
  rw [List.all_eq_true]
  exact forall₂_congr fun c _ => (isNameChar_iff c).symm

open scoped Classical in
/-- the questions a part is asked, in their order -/
theorem partFault?_eq (name part : String) : partFault? name part.toList =
    if part = "" then some .empty
    else if 63 < part.utf8ByteSize then some (.tooLong name part.utf8ByteSize)
    else if ¬ Opens part then some (.invalidStart name)
    else if ¬ Spelled part then some (.invalidCharacters name)
    else if IsKeyword part then some (.reserved name)
    else none := by
  cases hcs : part.toList with
  | nil =>
    rw [if_pos (String.toList_eq_nil_iff.mp hcs)]
    rfl
  | cons c cs =>
    have hne : part ≠ "" := by
      rintro rfl
      cases hcs
    have hsize : byteLength (c :: cs) = part.utf8ByteSize := by
      rw [byteLength_eq, ← hcs, String.ofList_toList]
    rw [if_neg hne, partFault?, hsize, ← hcs]
    simp only [opens_iff hcs, spelled_iff, ← isReserved_iff]
    rfl

theorem partFault?_eq_some_iff {name part : String} {r : Rejection} :
    partFault? name part.toList = some r ↔ PartRefused name part r := by
  rw [partFault?_eq]
  constructor
  · intro h
    split_ifs at h with hempty hlong hstart hchars hword
    · cases h
      exact .empty hempty
    · cases h
      exact .tooLong hlong
    · cases h
      exact .reserved hlong hstart hchars hword
    · cases h
      exact .invalidCharacters hlong hstart hchars
    · cases h
      exact .invalidStart hempty hlong hstart
  · intro h
    have hne : Opens part → part ≠ "" := by
      rintro ⟨c, rest, hcs, -⟩ rfl
      cases hcs
    cases h with
    | empty hempty => rw [if_pos hempty]
    | tooLong hlong =>
      rw [if_neg (by rintro rfl; exact absurd hlong (by decide)), if_pos hlong]
    | invalidStart hpart hshort hstart => rw [if_neg hpart, if_neg hshort, if_pos hstart]
    | invalidCharacters hshort hstart hchars =>
      rw [if_neg (hne hstart), if_neg hshort, if_neg (not_not.mpr hstart), if_pos hchars]
    | reserved hshort hstart hchars hword =>
      rw [if_neg (hne hstart), if_neg hshort, if_neg (not_not.mpr hstart),
        if_neg (not_not.mpr hchars), if_pos hword]

/-- counted in bytes or in characters, a part of letters, digits and `_` is equally long -/
theorem isPart_iff {part : String} :
    IsPart part ↔ ¬ 63 < part.utf8ByteSize ∧ Opens part ∧ Spelled part ∧ ¬ IsKeyword part := by
  have hsize : Spelled part → part.utf8ByteSize = part.toList.length := fun hchars => by
    rw [spelled_iff, List.all_eq_true] at hchars
    rw [← byteLength_of_isNameChar hchars, byteLength_eq, String.ofList_toList]
  constructor
  · rintro ⟨⟨first, rest, rfl, hfirst, hlength, hrest⟩, hfree⟩
    have hcs := String.toList_ofList (l := first :: rest)
    have hchars : Spelled (String.ofList (first :: rest)) := fun c hc => by
      rw [hcs] at hc
      rcases List.mem_cons.mp hc with rfl | hc
      · exact hfirst.imp_right Or.inr
      · exact hrest c hc
    refine ⟨?_, ⟨first, rest, hcs, hfirst⟩, hchars, hfree⟩
    rw [hsize hchars, hcs, List.length_cons]
    omega
  · rintro ⟨hshort, ⟨first, rest, hcs, hfirst⟩, hchars, hfree⟩
    rw [hsize hchars, hcs, List.length_cons] at hshort
    refine ⟨⟨first, rest, ?_, hfirst, by omega, fun c hc => hchars c ?_⟩, hfree⟩
    · rw [← hcs, String.ofList_toList]
    · rw [hcs]
      exact List.mem_cons_of_mem _ hc

theorem IsPart.pointless {part : String} (h : IsPart part) : '.' ∉ part.toList := by
  intro hmem
  have hchars := (isPart_iff.mp h).2.2.1
  rw [spelled_iff, List.all_eq_true] at hchars
  exact absurd (hchars '.' hmem) (by decide)

theorem partFault?_eq_none_iff {name part : String} :
    partFault? name part.toList = none ↔ IsPart part := by
  rw [partFault?_eq, isPart_iff]
  constructor
  · intro h
    split_ifs at h with hempty hlong hstart hchars hword
    exact ⟨hlong, hstart, hchars, hword⟩
  · rintro ⟨hshort, hstart, hchars, hfree⟩
    obtain ⟨c, rest, hcs, -⟩ := id hstart
    rw [if_neg (by rintro rfl; cases hcs), if_neg hshort, if_neg (not_not.mpr hstart),
      if_neg (not_not.mpr hchars), if_neg hfree]

/-! ## the whole text -/

theorem fault?_eq {name : String} {parts : List String} (h : Dotted name parts) : fault? name =
    if name = "" then some .empty
    else if 2 < parts.length then some (.tooManyParts name)
    else parts.findSome? fun part => partFault? name part.toList := by
  have hcut : splitChars '.' name.toList = parts.map String.toList := by
    rw [dotted_iff.mp h]
    unfold splitOn
    rw [List.map_map]
    exact (List.map_id'' (fun _ => String.toList_ofList) _).symm
  unfold fault?
  dsimp only
  rw [hcut, List.length_map, List.findSome?_map]
  rfl

theorem dotted_of_isPart {part : String} (h : IsPart part) : Dotted part [part] :=
  ⟨List.cons_ne_nil _ _, List.forall_mem_singleton.mpr h.pointless, rfl⟩

theorem dotted_of_isParts {scope column : String} (hscope : IsPart scope) (hcolumn : IsPart column) :
    Dotted (scope ++ "." ++ column) [scope, column] :=
  ⟨List.cons_ne_nil _ _, List.forall_mem_cons.mpr
    ⟨hscope.pointless, List.forall_mem_singleton.mpr hcolumn.pointless⟩, rfl⟩

/-- a name is made of one part or of two -/
theorem isName_iff {name : String} {parts : List String} (h : Dotted name parts) :
    IsName name ↔ parts.length ≤ 2 ∧ ∀ part ∈ parts, IsPart part := by
  constructor
  · rintro (hname | ⟨scope, column, hscope, hcolumn, rfl⟩)
    · rw [h.unique (dotted_of_isPart hname)]
      exact ⟨by simp, List.forall_mem_singleton.mpr hname⟩
    · rw [h.unique (dotted_of_isParts hscope hcolumn)]
      exact ⟨by simp, List.forall_mem_cons.mpr ⟨hscope, List.forall_mem_singleton.mpr hcolumn⟩⟩
  · rintro ⟨hfew, hparts⟩
    match parts, h, hfew with
    | [], h, _ => exact absurd rfl h.parts_ne_nil
    | [part], h, _ =>
      have hname : name = part := h.name_eq
      rw [hname]
      exact Or.inl (hparts part List.mem_cons_self)
    | [scope, column], h, _ =>
      exact Or.inr ⟨scope, column, hparts scope List.mem_cons_self,
        hparts column (List.mem_cons_of_mem _ List.mem_cons_self), h.name_eq⟩
    | _ :: _ :: _ :: _, _, hfew => simp at hfew

theorem fault?_eq_none_iff {name : String} : fault? name = none ↔ IsName name := by
  have hparts : Dotted name (splitOn '.' name) := dotted_iff.mpr rfl
  rw [fault?_eq hparts, isName_iff hparts]
  constructor
  · intro h
    split_ifs at h with hempty hmany
    exact ⟨not_lt.mp hmany, fun part hpart =>
      partFault?_eq_none_iff.mp (List.findSome?_eq_none_iff.mp h part hpart)⟩
  · rintro ⟨hfew, hall⟩
    have hne : name ≠ "" := by
      rintro rfl
      obtain ⟨-, ⟨c, rest, hcs, -⟩, -⟩ := isPart_iff.mp (hall "" List.mem_cons_self)
      cases hcs
    rw [if_neg hne, if_neg (not_lt.mpr hfew), List.findSome?_eq_none_iff]
    exact fun part hpart => partFault?_eq_none_iff.mpr (hall part hpart)

theorem fault?_eq_some_iff {name : String} {r : Rejection} :
    fault? name = some r ↔ Refused name r := by
  constructor
  · intro h
    have hparts : Dotted name (splitOn '.' name) := dotted_iff.mpr rfl
    rw [fault?_eq hparts] at h
    split_ifs at h with hempty hmany
    · cases h
      exact .empty hempty
    · cases h
      exact .tooManyParts hparts hmany
    · obtain ⟨before, part, after, hsplit, hpart, hbefore⟩ := List.findSome?_eq_some_iff.mp h
      rw [hsplit] at hparts hmany
      exact .part hempty hparts (not_lt.mp hmany)
        (fun s hs => partFault?_eq_none_iff.mp (hbefore s hs)) (partFault?_eq_some_iff.mp hpart)
  · intro h
    cases h with
    | empty hempty =>
      rw [hempty]
      rfl
    | tooManyParts hparts hmany =>
      have hne : name ≠ "" := by
        rintro rfl
        rw [dotted_iff.mp hparts] at hmany
        exact absurd hmany (by decide)
      rw [fault?_eq hparts, if_neg hne, if_pos hmany]
    | part hne hparts hfew hbefore hpart =>
      rw [fault?_eq hparts, if_neg hne, if_neg (not_lt.mpr hfew), List.findSome?_eq_some_iff]
      exact ⟨_, _, _, rfl, partFault?_eq_some_iff.mpr hpart,
        fun s hs => partFault?_eq_none_iff.mpr (hbefore s hs)⟩

/-! ## reading -/

theorem text_of_read {name : String} {id : Identifier} (h : read name = .ok id) : id.text = name := by
  cases hfault : fault? name with
  | none =>
    rw [read_of_none hfault] at h
    cases h
    rfl
  | some r =>
    rw [read_of_some hfault] at h
    cases h

theorem exists_read_iff {name : String} : (∃ id, read name = .ok id) ↔ fault? name = none := by
  cases hfault : fault? name with
  | none => simp [read_of_none hfault]
  | some r => simp [read_of_some hfault]

theorem read_eq_error_iff {name : String} {r : Rejection} :
    read name = .error r ↔ fault? name = some r := by
  cases hfault : fault? name with
  | none => simp [read_of_none hfault]
  | some s => simp [read_of_some hfault]

end Identifier

/-- **Names are read by their grammar.**  A text that is read is unchanged; the texts that are read are
those of the grammar, and all others are refused for the first thing that is wrong with them. -/
theorem identifier_grammar (name : String) :
    (∀ id, Identifier.read name = .ok id → id.text = name) ∧
      ((∃ id, Identifier.read name = .ok id) ↔ Identifier.IsName name) ∧
      ∀ r, Identifier.read name = .error r ↔ Identifier.Refused name r := by
  refine ⟨fun _ => Identifier.text_of_read, ?_, fun r => ?_⟩
  · rw [Identifier.exists_read_iff, Identifier.fault?_eq_none_iff]
  · rw [Identifier.read_eq_error_iff, Identifier.fault?_eq_some_iff]

/-- the second part is a keyword, but the first is refused before it -/
example : Identifier.fault? "1st.order" = some (.invalidStart "1st.order") := by decide

end PagedSql

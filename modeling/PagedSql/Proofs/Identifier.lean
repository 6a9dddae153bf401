import PagedSql.Identifier
import PagedSql.Proofs.Placeholder.Parts

/-!
# Names without fault

A name without fault is made of letters, digits, underscores and dots.  So there is nothing to trim
from it, and nothing in it that the scan for placeholders would stop at.

* `IsWord`             texts of such characters, not empty;
* `isWord_of_fault?`   names without fault, `isWord_lastPart` the last part of one;
* `IsWord.trim_eq`, `IsWord.not_blank`, `IsWord.plain`   what that means to a statement.
-/

namespace PagedSql
open PagedSql.Text

/-- a character of a name or the dot between two parts -/
def isWordChar (c : Char) : Bool := isNameChar c || c == '.'

structure IsWord (s : String) : Prop where
  chars : ∀ c ∈ s.toList, isWordChar c = true
  ne_empty : s ≠ ""

/-! ## parts -/

theorem mem_splitChars (sep : Char) {cs : List Char} {c : Char} (h : c ∈ cs) :
    c = sep ∨ ∃ part ∈ splitChars sep cs, c ∈ part := by
  induction cs with
  | nil => exact absurd h List.not_mem_nil
  | cons d cs ih =>
    unfold splitChars
    by_cases hd : d = sep
    · rw [if_pos hd]
      rcases List.mem_cons.mp h with rfl | h
      · exact Or.inl hd
      · rcases ih h with hc | ⟨part, hpart, hc⟩
        · exact Or.inl hc
        · exact Or.inr ⟨part, List.mem_cons_of_mem _ hpart, hc⟩
    · rw [if_neg hd]
      obtain ⟨first, parts, hparts⟩ := List.exists_cons_of_ne_nil (splitChars_ne_nil sep cs)
      rw [hparts] at ih ⊢
      rcases List.mem_cons.mp h with rfl | h
      · exact Or.inr ⟨_, List.mem_cons_self, List.mem_cons_self⟩
      · rcases ih h with hc | ⟨part, hpart, hc⟩
        · exact Or.inl hc
        · rcases List.mem_cons.mp hpart with rfl | hpart
          · exact Or.inr ⟨_, List.mem_cons_self, List.mem_cons_of_mem _ hc⟩
          · exact Or.inr ⟨part, List.mem_cons_of_mem _ hpart, hc⟩

namespace Identifier

theorem all_of_partFault? {name : String} {part : List Char} (h : partFault? name part = none) :
    part ≠ [] ∧ part.all isNameChar = true := by
  cases part with
  | nil => cases h
  | cons c cs =>
    refine ⟨List.cons_ne_nil c cs, ?_⟩
    simp only [partFault?] at h
    by_contra hall
    rw [if_pos hall] at h
    split at h
    · cases h
    · split at h
      · cases h
      · cases h

theorem parts_of_fault? {name : String} (h : fault? name = none) :
    name ≠ "" ∧ ∀ part ∈ splitChars '.' name.toList, part ≠ [] ∧ part.all isNameChar = true := by
  unfold fault? at h
  split at h
  · cases h
  · next hne =>
    refine ⟨hne, fun part hpart => ?_⟩
    dsimp only at h
    split at h
    · cases h
    · exact all_of_partFault? (List.findSome?_eq_none_iff.mp h part hpart)

end Identifier

theorem isWord_of_fault? {name : String} (h : Identifier.fault? name = none) : IsWord name := by
  obtain ⟨hne, hparts⟩ := Identifier.parts_of_fault? h
  refine ⟨fun c hc => ?_, hne⟩
  unfold isWordChar
  rw [Bool.or_eq_true, beq_iff_eq]
  rcases mem_splitChars '.' hc with hdot | ⟨part, hpart, hc⟩
  · exact Or.inr hdot
  · exact Or.inl (List.all_eq_true.mp (hparts part hpart).2 c hc)

theorem isWord_lastPart {name : String} (h : Identifier.fault? name = none) :
    IsWord ((splitOn '.' name).getLast?.getD "") := by
  have hparts := (Identifier.parts_of_fault? h).2
  have hne := splitChars_ne_nil '.' name.toList
  have hlast := hparts _ (List.getLast_mem hne)
  unfold splitOn
  rw [List.getLast?_map, List.getLast?_eq_some_getLast hne, Option.map_some, Option.getD_some]
  refine ⟨fun c hc => ?_, fun hempty => ?_⟩
  · rw [String.toList_ofList] at hc
    unfold isWordChar
    rw [List.all_eq_true.mp hlast.2 c hc]
    rfl
  · have htoList := congrArg String.toList hempty
    rw [String.toList_ofList] at htoList
    exact hlast.1 htoList

/-! ## words in a statement -/

theorem not_isBlank_of_isWordChar {c : Char} (h : isWordChar c = true) : isBlank c = false := by
  unfold isWordChar at h
  rw [Bool.or_eq_true, beq_iff_eq] at h
  rcases h with hname | rfl
  · exact not_isBlank_of_isNameChar hname
  · decide

namespace IsWord
variable {s : String} (h : IsWord s)
include h

theorem trim_eq : trim s = s := by
  refine trim_of_noBlankEnds ⟨fun c hc => ?_, fun c hc => ?_⟩
  · exact not_isBlank_of_isWordChar (h.chars c (List.mem_of_mem_head? hc))
  · exact not_isBlank_of_isWordChar (h.chars c (List.mem_of_mem_getLast? hc))

theorem not_blank : ¬ Blank s := by
  unfold Blank
  rw [h.trim_eq]
  exact h.ne_empty

theorem plain : Plain s := by
  refine List.all_eq_true.mpr fun c hc => ?_
  have hw := h.chars c hc
  unfold isWordChar at hw
  rw [Bool.or_eq_true, beq_iff_eq] at hw
  rcases hw with hn | rfl
  · have hat : c ≠ '@' := by
      rintro rfl
      exact absurd hn (by decide)
    unfold isPlain
    rw [isQuote_of_isNameChar hn, bne_iff_ne.mpr hat]
    rfl
  · decide

end IsWord

end PagedSql

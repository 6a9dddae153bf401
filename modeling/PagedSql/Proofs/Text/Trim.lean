import Mathlib.Data.List.TakeWhile
import PagedSql.Text.Blank

/-!
# What trimming takes away

* `AllBlank`         texts that hold nothing but blanks;
* `NoBlankEnds`      texts that neither begin nor end with a blank;
* `Unblank`          texts without any blank;
* `exists_trim`      a text is its trimmed form with blanks around it;
* `noBlankEnds_trim`, `trim_of_noBlankEnds`   trimmed forms are the texts without blanks at the ends;
* `trim_padded`      blanks that are put around a text are taken away again;
* `mem_trim`, `trim_ne_empty`   another character is left, and the text with it is not blank.
-/

namespace PagedSql.Text

def AllBlank (cs : List Char) : Prop := ∀ c ∈ cs, isBlank c = true

structure NoBlankEnds (cs : List Char) : Prop where
  first : ∀ c, cs.head? = some c → isBlank c = false
  last : ∀ c, cs.getLast? = some c → isBlank c = false

/-! ## the beginning -/

theorem exists_dropBlanks (cs : List Char) : ∃ lead, AllBlank lead ∧ cs = lead ++ dropBlanks cs :=
  ⟨cs.takeWhile isBlank, fun _ hc => List.mem_takeWhile_imp hc, List.takeWhile_append_dropWhile.symm⟩

theorem dropBlanks_of_head {cs : List Char} (h : ∀ c, cs.head? = some c → isBlank c = false) :
    dropBlanks cs = cs := by
  cases cs with
  | nil => rfl
  | cons c cs =>
    rw [dropBlanks_cons, h c rfl]
    rfl

theorem head_dropBlanks (cs : List Char) :
    ∀ c, (dropBlanks cs).head? = some c → isBlank c = false := by
  induction cs with
  | nil => exact fun c hc => absurd hc (by simp [dropBlanks_nil])
  | cons d cs ih =>
    rw [dropBlanks_cons]
    split
    · exact ih
    · next hd =>
      intro c hc
      cases hc
      exact Bool.eq_false_iff.mpr hd

theorem dropBlanks_append {lead : List Char} (h : AllBlank lead) (cs : List Char) :
    dropBlanks (lead ++ cs) = dropBlanks cs := by
  induction lead with
  | nil => rfl
  | cons c lead ih =>
    rw [List.cons_append, dropBlanks_cons, h c List.mem_cons_self, if_pos rfl]
    exact ih fun d hd => h d (List.mem_cons_of_mem _ hd)

theorem allBlank_of_dropBlanks {cs : List Char} (h : dropBlanks cs = []) : AllBlank cs := by
  obtain ⟨lead, hlead, hcs⟩ := exists_dropBlanks cs
  rw [hcs, h, List.append_nil]
  exact hlead

/-- behind a character that is no blank nothing is dropped -/
theorem dropBlanks_append_of_ne {cs : List Char} (h : dropBlanks cs ≠ []) (ds : List Char) :
    dropBlanks (cs ++ ds) = dropBlanks cs ++ ds := by
  unfold dropBlanks at h ⊢
  rw [List.dropWhile_append, if_neg fun hnil => h (List.isEmpty_iff.mp hnil)]

/-! ## the end -/

theorem exists_dropBlanksEnd (cs : List Char) :
    ∃ trail, AllBlank trail ∧ cs = dropBlanksEnd cs ++ trail := by
  obtain ⟨lead, hlead, hcs⟩ := exists_dropBlanks cs.reverse
  refine ⟨lead.reverse, fun c hc => hlead c (List.mem_reverse.mp hc), ?_⟩
  rw [dropBlanksEnd, ← List.reverse_append, ← hcs, List.reverse_reverse]

theorem dropBlanksEnd_of_last {cs : List Char}
    (h : ∀ c, cs.getLast? = some c → isBlank c = false) : dropBlanksEnd cs = cs := by
  rw [dropBlanksEnd, dropBlanks_of_head, List.reverse_reverse]
  intro c hc
  rw [List.head?_reverse] at hc
  exact h c hc

theorem last_dropBlanksEnd (cs : List Char) :
    ∀ c, (dropBlanksEnd cs).getLast? = some c → isBlank c = false := by
  intro c hc
  rw [dropBlanksEnd, List.getLast?_reverse] at hc
  exact head_dropBlanks _ c hc

theorem dropBlanksEnd_append {trail : List Char} (h : AllBlank trail) (cs : List Char) :
    dropBlanksEnd (cs ++ trail) = dropBlanksEnd cs := by
  rw [dropBlanksEnd, List.reverse_append, dropBlanks_append, dropBlanksEnd]
  exact fun c hc => h c (List.mem_reverse.mp hc)

/-! ## both ends -/

theorem noBlankEnds_trimChars (cs : List Char) : NoBlankEnds (trimChars cs) := by
  refine ⟨fun c hc => ?_, last_dropBlanksEnd (dropBlanks cs)⟩
  obtain ⟨trail, _, hds⟩ := exists_dropBlanksEnd (dropBlanks cs)
  refine head_dropBlanks cs c ?_
  rw [hds, List.head?_append, show (dropBlanksEnd (dropBlanks cs)).head? = some c from hc]
  rfl

theorem trimChars_of_noBlankEnds {cs : List Char} (h : NoBlankEnds cs) : trimChars cs = cs := by
  rw [trimChars, dropBlanks_of_head h.first, dropBlanksEnd_of_last h.last]

/-- texts without any blank -/
def Unblank (cs : List Char) : Prop := ∀ c ∈ cs, isBlank c = false

instance (cs : List Char) : Decidable (Unblank cs) :=
  decidable_of_iff (cs.all fun c => !isBlank c) (by simp [Unblank])

theorem unblank_nil : Unblank [] := fun _ h => absurd h List.not_mem_nil

theorem Unblank.cons {c : Char} (hc : isBlank c = false) {cs : List Char} (h : Unblank cs) :
    Unblank (c :: cs) := by
  intro d hd
  rcases List.mem_cons.mp hd with rfl | hd
  · exact hc
  · exact h d hd

theorem Unblank.append {cs ds : List Char} (h : Unblank cs) (hd : Unblank ds) : Unblank (cs ++ ds) := by
  intro c hc
  rcases List.mem_append.mp hc with hc | hc
  · exact h c hc
  · exact hd c hc

theorem Unblank.noBlankEnds {cs : List Char} (h : Unblank cs) : NoBlankEnds cs :=
  ⟨fun c hc => h c (List.mem_of_mem_head? hc), fun c hc => h c (List.mem_of_mem_getLast? hc)⟩

theorem exists_trimChars (cs : List Char) :
    ∃ lead trail, AllBlank lead ∧ AllBlank trail ∧ cs = lead ++ trimChars cs ++ trail := by
  obtain ⟨lead, hlead, hcs⟩ := exists_dropBlanks cs
  obtain ⟨trail, htrail, hds⟩ := exists_dropBlanksEnd (dropBlanks cs)
  refine ⟨lead, trail, hlead, htrail, ?_⟩
  rw [List.append_assoc, trimChars, ← hds]
  exact hcs

theorem dropBlanksEnd_dropBlanks_append {trail : List Char} (h : AllBlank trail) (cs : List Char) :
    dropBlanksEnd (dropBlanks (cs ++ trail)) = dropBlanksEnd (dropBlanks cs) := by
  by_cases hd : dropBlanks cs = []
  · have hnil : dropBlanks trail = [] := by
      have happ := dropBlanks_append h []
      rwa [List.append_nil, dropBlanks_nil] at happ
    rw [dropBlanks_append (allBlank_of_dropBlanks hd), hnil, hd]
  · rw [dropBlanks_append_of_ne hd, dropBlanksEnd_append h]

theorem trimChars_padded {lead trail : List Char} (hl : AllBlank lead) (ht : AllBlank trail)
    (cs : List Char) : trimChars (lead ++ cs ++ trail) = trimChars cs := by
  unfold trimChars
  rw [List.append_assoc, dropBlanks_append hl, dropBlanksEnd_dropBlanks_append ht]

/-! ## texts -/

section
variable {lead trail : String} (hl : AllBlank lead.toList) (ht : AllBlank trail.toList)
include hl ht

theorem trim_padded (s : String) : trim (lead ++ s ++ trail) = trim s := by
  unfold trim
  rw [String.toList_append, String.toList_append, trimChars_padded hl ht]

end

theorem noBlankEnds_trim (s : String) : NoBlankEnds (trim s).toList := by
  rw [toList_trim]
  exact noBlankEnds_trimChars s.toList

theorem trim_of_noBlankEnds {s : String} (h : NoBlankEnds s.toList) : trim s = s := by
  rw [trim, trimChars_of_noBlankEnds h, String.ofList_toList]

theorem exists_trim (s : String) :
    ∃ lead trail : String, AllBlank lead.toList ∧ AllBlank trail.toList ∧
      s = lead ++ trim s ++ trail := by
  obtain ⟨lead, trail, hlead, htrail, hs⟩ := exists_trimChars s.toList
  refine ⟨String.ofList lead, String.ofList trail, ?_, ?_, ?_⟩
  · rwa [String.toList_ofList]
  · rwa [String.toList_ofList]
  · rw [trim, ← String.ofList_append, ← String.ofList_append, ← hs, String.ofList_toList]

/-- a character that is no blank is left -/
theorem mem_trim {s : String} {c : Char} (hc : c ∈ s.toList) (hb : isBlank c = false) :
    c ∈ (trim s).toList := by
  obtain ⟨lead, trail, hl, ht, hs⟩ := exists_trim s
  have hne : ∀ cs, AllBlank cs → c ∉ cs := by
    intro cs hcs hmem
    rw [hcs c hmem] at hb
    cases hb
  rw [hs, String.toList_append, String.toList_append] at hc
  rcases List.mem_append.mp hc with hc | hc
  · exact (List.mem_append.mp hc).resolve_left (hne _ hl)
  · exact absurd hc (hne _ ht)

theorem trim_ne_empty {s : String} {c : Char} (hc : c ∈ s.toList) (hb : isBlank c = false) :
    trim s ≠ "" := by
  intro h
  have hmem := mem_trim hc hb
  rw [h] at hmem
  exact absurd hmem List.not_mem_nil

end PagedSql.Text

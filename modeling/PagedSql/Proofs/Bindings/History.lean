import Mathlib.Data.Finset.Card
import Mathlib.Data.List.Induction
import PagedSql.Proofs.Query.TakenNames

/-!
# Bindings as the record of what was bound

Values are bound one after the other, under names with any number of signs in front.  What is found
afterwards can be said from this history alone: a name stands where it was first bound, and holds the
value that it was last given.

* `given`            the value that a history last gives to a name, signs in front left out;
* `Records`          bindings that are the record of a history;
* `Records.bind`     binding one more value keeps the record;
* `records_ofList`   so what is bound one after the other is recorded;
* `entries_bind_of_mem`, `entries_bind_of_notMem`   one entry is changed in its place, or added at the end;
* `bindings_in_order`    the record, with the names that a query gives away for it.
-/

namespace PagedSql

/-! ## names with signs in front -/

/-- a name with signs in front -/
def withSigns (signs : Nat) (name : String) : String :=
  String.ofList (List.replicate signs '@') ++ name

theorem plainName_withSigns (signs : Nat) (name : String) :
    plainName (withSigns signs name) = plainName name := by
  refine String.toList_injective ?_
  rw [toList_plainName, toList_plainName, withSigns, String.toList_append, String.toList_ofList]
  induction signs with
  | zero => rfl
  | succ signs ih => exact ih

theorem head_plainName (name : String) : (plainName name).toList.head? ≠ some '@' := by
  rw [toList_plainName]
  intro h
  have hsign := List.head?_dropWhile_not (fun c => decide (c = '@')) name.toList
  rw [h] at hsign
  exact absurd hsign (by simp)

theorem plainName_plainName (name : String) : plainName (plainName name) = plainName name :=
  plainName_of_head (head_plainName name)

namespace Bindings

/-! ## one entry -/

/-- a name that is there gets its value where it stands, and nothing else changes -/
theorem put_of_mem {name : String} {es : List (String × Value)} (h : name ∈ es.map Prod.fst)
    (value : Value) : ∃ front old back, es = front ++ (name, old) :: back ∧
      put name value es = front ++ (name, value) :: back := by
  induction es with
  | nil => exact absurd h List.not_mem_nil
  | cons e es ih =>
    obtain ⟨n, v⟩ := e
    by_cases hn : n = name
    · subst hn
      exact ⟨[], v, es, rfl, by simp [put]⟩
    · have hrest : name ∈ es.map Prod.fst := by
        rcases List.mem_cons.mp h with heq | hrest
        · exact absurd heq.symm hn
        · exact hrest
      obtain ⟨front, old, back, hes, hput⟩ := ih hrest
      refine ⟨(n, v) :: front, old, back, by rw [hes]; rfl, ?_⟩
      rw [put, if_neg hn, hput]
      rfl

theorem put_of_notMem {name : String} {es : List (String × Value)} (h : name ∉ es.map Prod.fst)
    (value : Value) : put name value es = es ++ [(name, value)] := by
  induction es with
  | nil => rfl
  | cons e es ih =>
    obtain ⟨n, v⟩ := e
    rw [List.map_cons, List.mem_cons, not_or] at h
    rw [put, if_neg (Ne.symm h.1), ih h.2]
    rfl

section
variable {b : Bindings} {name : String} (value : Value)

theorem entries_bind_of_mem (h : plainName name ∈ b.names) :
    ∃ front old back, b.entries = front ++ (plainName name, old) :: back ∧
      (b.bind name value).entries = front ++ (plainName name, value) :: back :=
  put_of_mem h value

theorem entries_bind_of_notMem (h : plainName name ∉ b.names) :
    (b.bind name value).entries = b.entries ++ [(plainName name, value)] :=
  put_of_notMem h value

end

/-! ## histories -/

/-- what the last entry under a name says -/
def given (history : List (String × Value)) (name : String) : Option Value :=
  ((history.filter fun e => plainName e.1 = plainName name).getLast?).map Prod.snd

theorem given_concat (history : List (String × Value)) (e : String × Value) (name : String) :
    given (history ++ [e]) name =
      if plainName name = plainName e.1 then some e.2 else given history name := by
  unfold given
  rw [List.filter_append]
  split
  · next h =>
    rw [List.filter_cons_of_pos (by simpa using h.symm), List.filter_nil, List.getLast?_concat]
    rfl
  · next h =>
    rw [List.filter_cons_of_neg (by simpa using Ne.symm h), List.filter_nil, List.append_nil]

/-- one more element comes behind the others, unless it is there already -/
theorem eraseDups_concat {α : Type} [DecidableEq α] (as : List α) (a : α) :
    (as ++ [a]).eraseDups = if a ∈ as then as.eraseDups else as.eraseDups ++ [a] := by
  have hsingle : ([a] : List α).eraseDups = [a] := by simp [List.eraseDups_cons]
  rw [List.eraseDups_append]
  split
  · next h => simp [h, List.removeAll]
  · next h => simp [h, List.removeAll, hsingle]

structure Records (b : Bindings) (history : List (String × Value)) : Prop where
  distinct : b.names.Nodup
  /-- names are kept without signs -/
  plain : ∀ name ∈ b.names, plainName name = name
  /-- names stand in the order in which they came first -/
  order : b.names = (history.map fun e => plainName e.1).eraseDups
  values : ∀ name, b.find? name = given history name

theorem records_empty : Records empty [] :=
  ⟨List.nodup_nil, fun _ h => absurd h List.not_mem_nil, rfl, fun _ => rfl⟩

/-- **One binding.**  The record of a history becomes that of the history with one more entry. -/
theorem Records.bind {b : Bindings} {history : List (String × Value)} (h : b.Records history)
    (e : String × Value) : (b.bind e.1 e.2).Records (history ++ [e]) := by
  have hknown : plainName e.1 ∈ b.names ↔ plainName e.1 ∈ history.map fun e => plainName e.1 := by
    rw [h.order]
    exact List.mem_eraseDups
  refine ⟨?_, ?_, ?_, ?_⟩
  · rw [names_bind]
    split
    · exact h.distinct
    · next hnew =>
      rw [← List.concat_eq_append]
      exact h.distinct.concat hnew
  · intro name hname
    rw [names_bind] at hname
    split at hname
    · exact h.plain name hname
    · rcases List.mem_append.mp hname with hname | hname
      · exact h.plain name hname
      · rw [List.mem_singleton.mp hname]
        exact plainName_plainName e.1
  · rw [names_bind, List.map_append, List.map_singleton, eraseDups_concat, ← h.order]
    simp only [hknown]
  · intro name
    rw [find?_bind, given_concat, h.values]

/-- **What is bound one after the other is recorded.** -/
theorem records_ofList (history : List (String × Value)) : (ofList history).Records history := by
  induction history using List.reverseRecOn with
  | nil => exact records_empty
  | append_singleton history e ih =>
    have hlast : ofList (history ++ [e]) = (ofList history).bind e.1 e.2 := by
      simp [ofList, List.foldl_append]
    rw [hlast]
    exact ih.bind e

section
variable {b : Bindings} {history : List (String × Value)} (h : b.Records history)
include h

theorem Records.mem_names_iff (name : String) :
    plainName name ∈ b.names ↔ ∃ e ∈ history, plainName e.1 = plainName name := by
  rw [h.order, List.mem_eraseDups, List.mem_map]

theorem Records.has_iff (name : String) : b.has name = true ↔ plainName name ∈ b.names := by
  unfold has
  rw [h.mem_names_iff, h.values, given, Option.isSome_map, List.getLast?_isSome, ne_eq,
    List.filter_eq_nil_iff]
  simp

theorem Records.size_eq : b.size = (history.map fun e => plainName e.1).toFinset.card := by
  have hsize : b.size = b.names.length := (List.length_map _).symm
  have hsame : b.names.toFinset = (history.map fun e => plainName e.1).toFinset := by
    ext name
    rw [List.mem_toFinset, List.mem_toFinset, h.order, List.mem_eraseDups]
  rw [hsize, ← List.toFinset_card_of_nodup h.distinct, hsame]

end

end Bindings

/-- **Bindings are the record of what was bound.**  Of any history, with any number of signs in front of
its names: the names that are kept are different, have no sign in front, and stand in the order in which
they came first; a name, however many signs it is written with, has the value that it was last given, and
is there exactly if it was given one; there are as many entries as names.  Binding a name that is there
changes the value of its entry only, and a new name comes last.  The names that a query gives away for
one stem are different from one another, so that each of them keeps an entry of its own. -/
theorem bindings_in_order (history : List (String × Value)) :
    let b := Bindings.ofList history
    (b.names.Nodup ∧ ∀ name ∈ b.names, name.toList.head? ≠ some '@') ∧
      b.names = (history.map fun e => plainName e.1).eraseDups ∧
      (∀ signs name, b.find? (withSigns signs name) = Bindings.given history name ∧
        (b.has (withSigns signs name) = true ↔
          ∃ e ∈ history, plainName e.1 = plainName name)) ∧
      (∀ name value,
        (b.has name = true → ∃ front old back, b.entries = front ++ (plainName name, old) :: back ∧
          (b.bind name value).entries = front ++ (plainName name, value) :: back) ∧
        (b.has name = false → (b.bind name value).entries = b.entries ++ [(plainName name, value)])) ∧
      b.size = (history.map fun e => plainName e.1).toFinset.card ∧
      ∀ (q : Query) (stem : String) (steps : List Step),
        ((q.takenNames stem steps).map plainName).Nodup ∧
          ∀ values, values.map Prod.fst = q.takenNames stem steps →
            ∀ e ∈ values, (b.bindAll values).find? e.1 = some e.2 := by
  intro b
  have hrecords := Bindings.records_ofList history
  refine ⟨⟨hrecords.distinct, fun name hname => ?_⟩, hrecords.order, fun signs name => ?_,
    fun name value => ⟨fun hhas => ?_, fun hhas => ?_⟩, hrecords.size_eq, fun q stem steps => ?_⟩
  · rw [← hrecords.plain name hname]
    exact head_plainName name
  · have hplain := plainName_withSigns signs name
    rw [b.find?_congr hplain, hrecords.has_iff, hplain, hrecords.mem_names_iff]
    exact ⟨hrecords.values name, Iff.rfl⟩
  · exact Bindings.entries_bind_of_mem value ((hrecords.has_iff name).mp hhas)
  · refine Bindings.entries_bind_of_notMem value fun hmem => ?_
    rw [(hrecords.has_iff name).mpr hmem] at hhas
    cases hhas
  · have hnodup := q.nodup_plainName_takenNames stem steps
    refine ⟨hnodup, fun values hvalues e he => b.find?_bindAll_of_mem ?_ he⟩
    rw [← hvalues, List.map_map] at hnodup
    exact hnodup

def signedHistory : List (String × Value) :=
  [("@HotelId", .int 1), ("City", .text "Bern"), ("@@HotelId", .int 2)]

/-- two names for the stem `p`, and one for a search between them -/
def namingSteps : List Step := [.nextName "p", .search "x" ["n"], .nextName "p"]

theorem signedHistory_in_order :
    let b := Bindings.ofList signedHistory
    b.names = ["HotelId", "City"] ∧ b.find? "@@@HotelId" = some (.int 2) ∧
      (∃ front old back, b.entries = front ++ ("HotelId", old) :: back ∧
        (b.bind "@HotelId" .null).entries = front ++ ("HotelId", .null) :: back) ∧
      filteredStart.takenNames "p" namingSteps = ["p_0", "p_2"] ∧
      (b.bindAll [("p_0", .int 3), ("p_2", .int 4)]).find? "p_0" = some (.int 3) := by
  intro b
  obtain ⟨_, horder, hfound, hbind, _, htaken⟩ := bindings_in_order signedHistory
  have hvalue : Bindings.given signedHistory "HotelId" = some (.int 2) := by decide +kernel
  have hhas : b.has "@HotelId" = true := by decide +kernel
  have hplain : plainName "@HotelId" = "HotelId" := by decide +kernel
  have hnames : filteredStart.takenNames "p" namingSteps = ["p_0", "p_2"] := by decide +kernel
  refine ⟨horder.trans (by decide +kernel), ((hfound 3 "HotelId").1).trans hvalue, ?_, hnames, ?_⟩
  · have hchanged := (hbind "@HotelId" .null).1 hhas
    rwa [hplain] at hchanged
  · exact (htaken filteredStart "p" namingSteps).2 [("p_0", .int 3), ("p_2", .int 4)] hnames.symm
      ("p_0", .int 3) List.mem_cons_self

end PagedSql

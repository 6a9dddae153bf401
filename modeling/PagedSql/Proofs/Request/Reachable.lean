import PagedSql.Request.OfJson
import PagedSql.Proofs.KeyMap
import PagedSql.Proofs.Text.Trim

/-!
# Requests that can come about

* `Request.Reachable`    requests that were made, sent or edited;
* `Request.WellFormed`   a search term that is not blank, and filters in the order of their keys;
* `wellFormed_edit`      one edit keeps a request well formed;
* `Reachable.wellFormed` so every request that can come about is;
* `reachable_ofText?`    a request that is read from a text can come about.
-/

namespace PagedSql
open PagedSql.Text

/-- the filters of a request that is sent are read one after the other -/
inductive Request.Reachable : Request → Prop where
  | make (page pageSize : Int64) : Reachable (.make page pageSize)
  | sent (raw : RawRequest) (filters : List (String × String)) (h : raw.filters = .ofList filters) :
    Reachable (.ofRaw raw)
  | edit (r : Request) (e : Request.Edit) (h : Reachable r) : Reachable (r.edit e)

structure Request.WellFormed (r : Request) : Prop where
  search : ∀ term, r.searchTerm = some term → trim term ≠ ""
  filters : r.filters.Ordered

theorem trim_ne_of_nonBlank {s : Option String} {t : String} (h : nonBlank s = some t) :
    trim t ≠ "" := by
  unfold nonBlank at h
  obtain ⟨hmap, hne⟩ := Option.filter_eq_some_iff.mp h
  obtain ⟨u, _, rfl⟩ := Option.map_eq_some_iff.mp hmap
  rw [trim_of_noBlankEnds (noBlankEnds_trim u)]
  exact of_decide_eq_true hne

namespace Request

theorem wellFormed_make (page pageSize : Int64) : (make page pageSize).WellFormed :=
  ⟨fun _ h => absurd h (by simp [make]), KeyMap.ordered_empty⟩

theorem wellFormed_ofRaw {raw : RawRequest} {filters : List (String × String)}
    (h : raw.filters = .ofList filters) : (ofRaw raw).WellFormed := by
  refine ⟨fun term => trim_ne_of_nonBlank, ?_⟩
  show raw.filters.Ordered
  rw [h]
  exact KeyMap.ordered_ofList filters

/-- **One edit.** -/
theorem wellFormed_edit {r : Request} (h : r.WellFormed) (e : Edit) : (r.edit e).WellFormed := by
  unfold edit
  cases e with
  | page n => exact ⟨h.search, h.filters⟩
  | pageSize n => exact ⟨h.search, h.filters⟩
  | search term => exact ⟨fun t => trim_ne_of_nonBlank, h.filters⟩
  | sort column direction => exact ⟨h.search, h.filters⟩
  | filter key value => exact ⟨h.search, h.filters.insert key value⟩
  | filters entries => exact ⟨h.search, h.filters.insertAll entries⟩

/-- **All edits**, whatever the request started as. -/
theorem Reachable.wellFormed {r : Request} (h : r.Reachable) : r.WellFormed := by
  induction h with
  | make page pageSize => exact wellFormed_make page pageSize
  | sent raw filters h => exact wellFormed_ofRaw h
  | edit r e _ ih => exact wellFormed_edit ih e

end Request

/-! ## requests that are read -/

section
open Json

/-- a map that is read entry by entry -/
def ReadInOrder (m : KeyMap String) : Prop := ∃ entries, m = .ofList entries

theorem readInOrder_textMap? {j : Json} {m : KeyMap String} (h : textMap? j = some m) :
    ReadInOrder m := by
  unfold textMap? at h
  split at h
  · obtain ⟨entries, _, rfl⟩ := Option.map_eq_some_iff.mp h
    exact ⟨entries, rfl⟩
  · cases h

theorem member_eq_some {α : Type} {read : Json → Option α} {absent a : α} {name : String}
    {members : List (Option String × Json)} (h : member read absent name members = some a) :
    a = absent ∨ ∃ j, read j = some a := by
  unfold member at h
  split at h
  · exact Or.inl (Option.some.inj h).symm
  · next m _ => exact Or.inr ⟨_, h⟩
  · cases h

theorem element_eq_some {α : Type} {read : Json → Option α} {absent a : α}
    {elements rest : List Json} (h : element read absent elements = some (a, rest)) :
    a = absent ∨ ∃ j, read j = some a := by
  unfold element at h
  split at h
  · cases h
    exact Or.inl rfl
  · obtain ⟨b, hb, hpair⟩ := Option.map_eq_some_iff.mp h
    cases hpair
    exact Or.inr ⟨_, hb⟩

theorem readInOrder_ofMembers {members : List (Option String × Json)} {raw : RawRequest}
    (h : RawRequest.ofMembers members = some raw) : ReadInOrder raw.filters := by
  unfold RawRequest.ofMembers at h
  split at h
  · cases h
  · obtain ⟨page, _, h⟩ := Option.bind_eq_some_iff.mp h
    obtain ⟨pageSize, _, h⟩ := Option.bind_eq_some_iff.mp h
    obtain ⟨searchTerm, _, h⟩ := Option.bind_eq_some_iff.mp h
    obtain ⟨sortColumn, _, h⟩ := Option.bind_eq_some_iff.mp h
    obtain ⟨sortDirection, _, h⟩ := Option.bind_eq_some_iff.mp h
    obtain ⟨filters, hfilters, h⟩ := Option.bind_eq_some_iff.mp h
    cases h
    rcases member_eq_some hfilters with rfl | ⟨j, hj⟩
    · exact ⟨[], rfl⟩
    · exact readInOrder_textMap? hj

theorem readInOrder_ofElements {elements : List Json} {raw : RawRequest}
    (h : RawRequest.ofElements elements = some raw) : ReadInOrder raw.filters := by
  unfold RawRequest.ofElements at h
  obtain ⟨⟨page, es⟩, _, h⟩ := Option.bind_eq_some_iff.mp h
  obtain ⟨⟨pageSize, es⟩, _, h⟩ := Option.bind_eq_some_iff.mp h
  obtain ⟨⟨searchTerm, es⟩, _, h⟩ := Option.bind_eq_some_iff.mp h
  obtain ⟨⟨sortColumn, es⟩, _, h⟩ := Option.bind_eq_some_iff.mp h
  obtain ⟨⟨sortDirection, es⟩, _, h⟩ := Option.bind_eq_some_iff.mp h
  obtain ⟨⟨filters, es⟩, hfilters, h⟩ := Option.bind_eq_some_iff.mp h
  dsimp only at h
  split at h
  · cases h
    rcases element_eq_some hfilters with rfl | ⟨j, hj⟩
    · exact ⟨[], rfl⟩
    · exact readInOrder_textMap? hj
  · cases h

theorem readInOrder_ofJson {j : Json} {raw : RawRequest} (h : RawRequest.ofJson j = some raw) :
    ReadInOrder raw.filters := by
  cases j with
  | object members => exact readInOrder_ofMembers h
  | array elements => exact readInOrder_ofElements h
  | _ => cases h

theorem Request.reachable_ofText? {text : String} {r : Request} (h : Request.ofText? text = some r) :
    r.Reachable := by
  unfold Request.ofText? at h
  obtain ⟨raw, hraw, rfl⟩ := Option.map_eq_some_iff.mp h
  obtain ⟨j, _, hj⟩ := Option.bind_eq_some_iff.mp hraw
  obtain ⟨filters, heq⟩ := readInOrder_ofJson hj
  exact .sent raw filters heq

end

end PagedSql

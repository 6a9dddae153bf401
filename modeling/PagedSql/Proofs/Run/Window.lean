import PagedSql.Proofs.Run.Checks

/-!
# The window of a request

Page and size of a request are in range however it comes about, so that the rows in front of its page
are counted without loss.  The one failure that is there for an offset out of range never arises, and
the window of a batch is made of the very numbers of the request.

* `toInt_offset`, `toInt_size`   both numbers as signed words;
* `find?_offset_batch`, `find?_size_batch`   what a batch binds for its window;
* `Subject.cause_ne_page`    no run fails for its page;
* `request_normal_form`      a request as it comes about, and the window of its runs.
-/

namespace PagedSql
open PagedSql.Text

/-! ## the two numbers of a window -/

theorem Request.InRange.toInt_offset {r : Request} (h : r.InRange) :
    (Int64.ofNat r.skip.toNat).toInt = r.skip.toNat := by
  have hlt := h.toNat_skip_lt
  exact Int64.toInt_ofNat_of_lt (by omega)

theorem toInt_size (size : UInt32) : (Int64.ofNat size.toNat).toInt = size.toNat := by
  have hlt := size.toNat_lt
  exact Int64.toInt_ofNat_of_lt (by omega)

section
variable (q : Query) (offset : Int64) (size : UInt32)

theorem Query.find?_size_batch :
    (q.batch offset size).parameters.find? sizeName = some (.int (Int64.ofNat size.toNat)) := by
  show (((q.parameters.bind offsetName _).bind sizeName _).find? sizeName) = _
  rw [Bindings.find?_bind, if_pos rfl]

theorem Query.find?_offset_batch :
    (q.batch offset size).parameters.find? offsetName = some (.int offset) := by
  have hne : plainName offsetName ≠ plainName sizeName := by decide +kernel
  show (((q.parameters.bind offsetName _).bind sizeName _).find? offsetName) = _
  rw [Bindings.find?_bind, if_neg hne, Bindings.find?_bind, if_pos rfl]

end

/-! ## windows of runs -/

namespace Subject
variable {α : Type} {s : Subject} {r : Request} (hr : r.InRange) (l : Limits)
  (executor : Batch → Reply α)
include hr

theorem cause_ne_page (place : Place) (message : String) :
    (s.run r l executor).outcome ≠
      some (.error ⟨place, .invalidParameters "page" message⟩) := by
  intro h
  cases hf : s.fault? r with
  | some f =>
    have hrefused := isRefusal_fault? hf
    rw [(run_of_fault l executor hf).1] at h
    cases h
    have hparameter := hrefused.parameter "page" message rfl
    cases hentry : s.place.entry with
    | table =>
      rw [hentry] at hparameter
      exact absurd hparameter (by decide)
    | joined =>
      rw [hentry] at hparameter
      exact absurd hparameter (by decide)
  | none =>
    rw [(run_of_faultless l executor hr hf).1] at h
    obtain ⟨ending, _, hsettle⟩ := Option.map_eq_some_iff.mp h
    have hclient := isClientError_of_settle hsettle
    cases hclient

theorem exists_window_of_mem_batches {batch : Batch} (h : batch ∈ (s.run r l executor).batches) :
    ∃ offset size : Int64, batch.parameters.find? offsetName = some (.int offset) ∧
      batch.parameters.find? sizeName = some (.int size) ∧
      offset.toInt = r.skip.toNat ∧ size.toInt = r.pageSize.toNat := by
  obtain ⟨offset, ho, rfl⟩ := exists_of_mem_batches h
  rw [hr.offset?_eq] at ho
  cases ho
  exact ⟨_, _, Query.find?_offset_batch _ _ _, Query.find?_size_batch _ _ _,
    hr.toInt_offset, toInt_size r.pageSize⟩

end Subject

/-- **A request as it comes about.**  Whether it is made, taken as it is, or sent, and whatever is changed
about it afterwards: page and size are in range; search term, column and direction are trimmed and not
empty if they are there; the filters are in the order of their keys, each with the value that was given
last.  So the rows in front of its page are counted without loss and fit a signed word, no run of it
fails for its page, and the window of every batch is made of these numbers. -/
theorem request_normal_form {r : Request} {given : List (String × String)} (h : r.Built given) :
    (1 ≤ r.page.toNat ∧ r.page.toNat ≤ 2 ^ 32 - 1 ∧ 1 ≤ r.pageSize.toNat ∧
      r.pageSize.toNat ≤ 100) ∧
    (∀ t, r.searchTerm = some t ∨ r.sortColumn = some t ∨ r.sortDirection = some t →
      t ≠ "" ∧ trim t = t) ∧
    r.filters.Ordered ∧ (∀ key, r.filters.find? key = given.reverse.lookup key) ∧
    ((r.page - 1).toNat + 1 = r.page.toNat ∧
      r.skip.toNat = (r.page.toNat - 1) * r.pageSize.toNat ∧ r.skip.toNat ≤ 2 ^ 63 - 1) ∧
    ∀ (s : Subject) (α : Type) (l : Limits) (executor : Batch → Reply α),
      (∀ place message, (s.run r l executor).outcome ≠
        some (.error ⟨place, .invalidParameters "page" message⟩)) ∧
      ∀ batch ∈ (s.run r l executor).batches, ∃ offset size : Int64,
        batch.parameters.find? "Offset" = some (.int offset) ∧
        batch.parameters.find? "PageSize" = some (.int size) ∧
        offset.toInt = r.skip.toNat ∧ size.toInt = r.pageSize.toNat := by
  have hnormal := h.normal
  have hrange := hnormal.toInRange
  have hlt : r.page.toNat < 2 ^ 32 := r.page.toNat_lt
  refine ⟨⟨hrange.page_pos, by omega, hrange.size_pos, hrange.size_le⟩, ?_, hnormal.filters,
    h.find?_filters, ⟨?_, hrange.toNat_skip, ?_⟩, fun s α l executor => ⟨?_, ?_⟩⟩
  · rintro t (ht | ht | ht)
    · exact hnormal.search t ht
    · exact hnormal.column t ht
    · exact hnormal.direction t ht
  · rw [hrange.toNat_page_sub_one]
    have hpos := hrange.page_pos
    omega
  · have hskip := hrange.toNat_skip_lt
    omega
  · exact Subject.cause_ne_page hrange l executor
  · intro batch hbatch
    exact Subject.exists_window_of_mem_batches hrange l executor hbatch

/-- sent with numbers far out of range, blanks around the term and a key given twice -/
def farRequest : Request := .ofRaw
  ⟨some 9223372036854775807, some 500, some " grand ", some "Name", none,
    .ofList [("stars", "4"), ("city", "Rome"), ("stars", "5")]⟩

def noInns (_ : Batch) : Reply Nat := ⟨some 0, .ok ⟨[], 0⟩⟩

/-- the last page that there is, of the inns of one city -/
theorem request_normal_form_of_farRequest :
    let r := farRequest.edit (.filter "city" "Oslo")
    let inns : Subject := .table
      ⟨"Inns", none, ["Name"], some ⟨[("city", ⟨"City", .text⟩)]⟩, none, none⟩
    r.page.toNat = 4294967295 ∧ r.pageSize.toNat = 100 ∧ r.searchTerm = some "grand" ∧
      r.filters.find? "stars" = some "5" ∧ r.filters.find? "city" = some "Oslo" ∧
      r.skip.toNat = 4294967294 * 100 ∧
      ∃ batch ∈ (inns.run r ⟨none, none⟩ noInns).batches, ∃ offset size : Int64,
        batch.parameters.find? "Offset" = some (.int offset) ∧
        batch.parameters.find? "PageSize" = some (.int size) ∧
        offset.toInt = 429496729400 ∧ size.toInt = 100 := by
  intro r inns
  have hbuilt : r.Built ([("stars", "4"), ("city", "Rome"), ("stars", "5")] ++ [("city", "Oslo")]) :=
    .edit farRequest _ (.filter "city" "Oslo") (.sent _ _ rfl)
  obtain ⟨_, _, _, hfilters, ⟨_, hskip, _⟩, hruns⟩ := request_normal_form hbuilt
  have hpage : r.page.toNat = 4294967295 := by decide +kernel
  have hsize : r.pageSize.toNat = 100 := by decide +kernel
  have hterm : r.searchTerm = some "grand" := by decide +kernel
  have hsent : (inns.run r ⟨none, none⟩ noInns).batches ≠ [] := by decide +kernel
  rw [hpage, hsize] at hskip
  obtain ⟨batch, hbatch⟩ := List.exists_mem_of_ne_nil _ hsent
  obtain ⟨offset, size, hoffset, hwindow, heq, hsizeEq⟩ := (hruns inns Nat _ noInns).2 batch hbatch
  refine ⟨hpage, hsize, hterm, ?_, ?_, hskip, batch, hbatch, offset, size, hoffset, hwindow, ?_, ?_⟩
  · rw [hfilters]
    decide
  · rw [hfilters]
    decide
  · rw [heq, hskip]
    rfl
  · rw [hsizeEq, hsize]
    rfl

end PagedSql

import PagedSql.Proofs.Request.Normal

/-!
# Requests as they are sent

A request that is sent is the request that is made of its page and its size and then edited with the
rest of it.  What comes of it can be sent again: nothing is left to bring into range or to trim.

* `nonBlank_getD`       a text that is not given counts as the empty one;
* `nonBlank_of_trimmed`, `clampPage_of_inRange`, `clampPageSize_of_inRange`   what is normal stays;
* `RawRequest.edits`    what is sent besides page and size, as edits;
* `Request.toRaw`       a request as it is sent, everything in it given;
* `ordered_of_ofJson`   a map that is read from JSON is ordered;
* `sent_as_edited`      the two ways to a request agree, and a request is sent unchanged.
-/

namespace PagedSql
open PagedSql.Text

/-! ## texts and numbers -/

theorem nonBlank_getD (s : Option String) : nonBlank (some (s.getD "")) = nonBlank s := by
  cases s with
  | none => rfl
  | some t => rfl

theorem nonBlank_of_trimmed {s : Option String} (h : TrimmedIfAny s) : nonBlank s = s := by
  cases s with
  | none => rfl
  | some t =>
    obtain ⟨hne, htrim⟩ := h t rfl
    unfold nonBlank
    rw [Option.map_some, htrim]
    exact Option.filter_eq_some_iff.mpr ⟨rfl, decide_eq_true hne⟩

theorem toInt_ofNat_toNat (n : UInt32) : (Int64.ofNat n.toNat).toInt = n.toNat := by
  have hlt := n.toNat_lt
  exact Int64.toInt_ofNat_of_lt (by omega)

section
variable {n : UInt32} (hpos : 1 ≤ n.toNat)
include hpos

theorem clampPage_of_inRange : clampPage (Int64.ofNat n.toNat) = n := by
  apply UInt32.toNat_inj.mp
  have hclamp := toNat_clampPage (Int64.ofNat n.toNat)
  have hlt := n.toNat_lt
  rw [toInt_ofNat_toNat] at hclamp
  omega

theorem clampPageSize_of_inRange (hle : n.toNat ≤ 100) : clampPageSize (Int64.ofNat n.toNat) = n := by
  apply UInt32.toNat_inj.mp
  have hclamp := toNat_clampPageSize (Int64.ofNat n.toNat)
  rw [toInt_ofNat_toNat, if_neg (by omega)] at hclamp
  omega

end

/-! ## the two ways -/

/-- a text that is not given is edited in as the empty one -/
def RawRequest.edits (raw : RawRequest) : List Request.Edit :=
  [.search (some (raw.searchTerm.getD "")),
    .sort (raw.sortColumn.getD "") (raw.sortDirection.getD ""),
    .filters raw.filters.entries]

def Request.toRaw (r : Request) : RawRequest where
  page := some (Int64.ofNat r.page.toNat)
  pageSize := some (Int64.ofNat r.pageSize.toNat)
  searchTerm := r.searchTerm
  sortColumn := r.sortColumn
  sortDirection := r.sortDirection
  filters := r.filters

theorem ordered_of_ofJson {j : Json} {raw : RawRequest} (h : RawRequest.ofJson j = some raw) :
    raw.filters.Ordered := by
  obtain ⟨entries, hentries⟩ := readInOrder_ofJson h
  rw [hentries]
  exact KeyMap.ordered_ofList entries

theorem ofRaw_eq_editAll {raw : RawRequest} (h : raw.filters.Ordered) :
    Request.ofRaw raw =
      (Request.make (raw.page.getD 1) (raw.pageSize.getD 10)).editAll raw.edits := by
  have hfilters : KeyMap.empty.insertAll raw.filters.entries = raw.filters := h.ofList_entries
  unfold RawRequest.edits
  rw [Request.editAll_cons, Request.editAll_cons, Request.editAll_cons, Request.editAll_nil]
  simp only [Request.edit, Request.make, nonBlank_getD, hfilters]
  rw [Request.ofRaw]

theorem Request.Normal.ofRaw_toRaw {r : Request} (h : r.Normal) : Request.ofRaw r.toRaw = r := by
  unfold Request.ofRaw Request.toRaw
  simp only [Option.getD_some]
  rw [clampPage_of_inRange h.page_pos, clampPageSize_of_inRange h.size_pos h.size_le,
    nonBlank_of_trimmed h.search, nonBlank_of_trimmed h.column, nonBlank_of_trimmed h.direction]

/-- **Sent or made.**  A request that is sent is the one that is made of its page and size and edited
with the rest of it; and whatever request can come about, sent as it is it stays as it is. -/
theorem sent_as_edited :
    (∀ raw : RawRequest, raw.filters.Ordered →
      Request.ofRaw raw =
        (Request.make (raw.page.getD 1) (raw.pageSize.getD 10)).editAll raw.edits) ∧
    ∀ r : Request, r.Reachable → Request.ofRaw r.toRaw = r :=
  ⟨fun _ h => ofRaw_eq_editAll h, fun _ h => h.normal.ofRaw_toRaw⟩

/-- a page below the first, no size, a padded term, a blank column, and a key that comes twice -/
def paddedJson : Json :=
  .object [(some "page", .number "-4"), (some "searchTerm", .string (some "\t Grand\u00a0")),
    (some "sortColumn", .string (some " ")), (some "sortDirection", .string (some " DESC ")),
    (some "filters", .object [(some "stars__gte", .string (some "4")),
      (some "city", .string (some "Paris")), (some "stars__gte", .string (some "5"))])]

def paddedRaw : RawRequest :=
  ⟨some (-4), none, some "\t Grand\u00a0", some " ", some " DESC ",
    ⟨[("city", "Paris"), ("stars__gte", "5")]⟩⟩

def paddedRequest : Request :=
  ⟨1, 10, some "Grand", none, some "DESC", ⟨[("city", "Paris"), ("stars__gte", "5")]⟩⟩

theorem sent_as_edited_of_paddedJson :
    RawRequest.ofJson paddedJson = some paddedRaw ∧ Request.ofRaw paddedRaw = paddedRequest ∧
      paddedRequest = (Request.make (-4) 10).editAll [.search (some "\t Grand\u00a0"),
        .sort " " " DESC ", .filters [("city", "Paris"), ("stars__gte", "5")]] ∧
      Request.ofRaw paddedRequest.toRaw = paddedRequest := by
  have hread : RawRequest.ofJson paddedJson = some paddedRaw := by
    decide +kernel
  have hrequest : Request.ofRaw paddedRaw = paddedRequest := by
    decide +kernel
  have hordered := ordered_of_ofJson hread
  have hreachable : paddedRequest.Reachable := by
    rw [← hrequest]
    exact .sent paddedRaw paddedRaw.filters.entries hordered.ofList_entries.symm
  refine ⟨hread, hrequest, ?_, sent_as_edited.2 paddedRequest hreachable⟩
  rw [← hrequest]
  exact sent_as_edited.1 paddedRaw hordered

end PagedSql

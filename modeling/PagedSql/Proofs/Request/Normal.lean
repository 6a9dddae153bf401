import PagedSql.Proofs.Request.Reachable

/-!
# The normal form of a request

However a request comes about, its page and its size are in range, its texts are trimmed and not empty,
and of its filters the last that was given under each key is kept.  No number is cut off on the way.

* `toNat_clampPage`, `toNat_clampPageSize`   numbers that are brought into range;
* `Trimmed`, `TrimmedIfAny`   texts that are not empty and have no blanks at their ends;
* `Request.InRange`      page and size as they can be, `Request.Normal` the texts and filters as well;
* `Request.Built`        a request with the filters that were given for it, in their order;
* `Built.normal`, `Built.find?_filters`   what came about is normal and holds the last of these;
* `InRange.toNat_skip`, `toNat_skip_lt`   the rows in front of a page, counted without loss.
-/

namespace PagedSql
open PagedSql.Text

/-! ## numbers in range -/

theorem toNat_clampPage (n : Int64) :
    ((clampPage n).toNat : Int) = max 1 (min n.toInt 4294967295) := by
  have hlt : (max 1 (min n.toInt 4294967295)).toNat < UInt32.size := by
    show _ < 4294967296
    omega
  unfold clampPage
  rw [UInt32.toNat_ofNat_of_lt' hlt]
  omega

theorem toNat_clampPageSize (n : Int64) :
    ((clampPageSize n).toNat : Int) = if n.toInt < 1 then 10 else min n.toInt 100 := by
  have hmax : maxPageSize.toNat = 100 := rfl
  unfold clampPageSize
  rw [hmax]
  split
  · rfl
  · next hn =>
    have hlt : (min n.toInt 100).toNat < UInt32.size := by
      show _ < 4294967296
      omega
    rw [show ((100 : Nat) : Int) = 100 from rfl, UInt32.toNat_ofNat_of_lt' hlt]
    omega

/-! ## texts -/

def Trimmed (s : String) : Prop := s ≠ "" ∧ trim s = s

/-- an optional text, trimmed if it is there -/
def TrimmedIfAny (s : Option String) : Prop := ∀ t, s = some t → Trimmed t

theorem trimmedIfAny_none : TrimmedIfAny none := by
  intro t h
  cases h

theorem trimmedIfAny_nonBlank (s : Option String) : TrimmedIfAny (nonBlank s) := by
  intro t h
  unfold nonBlank at h
  obtain ⟨hmap, hne⟩ := Option.filter_eq_some_iff.mp h
  obtain ⟨u, _, rfl⟩ := Option.map_eq_some_iff.mp hmap
  exact ⟨of_decide_eq_true hne, trim_of_noBlankEnds (noBlankEnds_trim u)⟩

/-! ## normal requests -/

namespace Request

structure InRange (r : Request) : Prop where
  page_pos : 1 ≤ r.page.toNat
  size_pos : 1 ≤ r.pageSize.toNat
  size_le : r.pageSize.toNat ≤ 100

structure Normal (r : Request) : Prop extends InRange r where
  search : TrimmedIfAny r.searchTerm
  column : TrimmedIfAny r.sortColumn
  direction : TrimmedIfAny r.sortDirection
  filters : r.filters.Ordered

theorem one_le_clampPage (n : Int64) : 1 ≤ (clampPage n).toNat := by
  have h := toNat_clampPage n
  omega

theorem clampPageSize_mem (n : Int64) :
    1 ≤ (clampPageSize n).toNat ∧ (clampPageSize n).toNat ≤ 100 := by
  have h := toNat_clampPageSize n
  split at h
  · omega
  · omega

theorem inRange_clamp (page pageSize : Int64) {r : Request} (hpage : r.page = clampPage page)
    (hsize : r.pageSize = clampPageSize pageSize) : r.InRange := by
  have hmem := clampPageSize_mem pageSize
  refine ⟨?_, ?_, ?_⟩
  · rw [hpage]
    exact one_le_clampPage page
  · rw [hsize]
    exact hmem.1
  · rw [hsize]
    exact hmem.2

theorem normal_make (page pageSize : Int64) : (make page pageSize).Normal where
  toInRange := inRange_clamp page pageSize rfl rfl
  search := trimmedIfAny_none
  column := trimmedIfAny_none
  direction := trimmedIfAny_none
  filters := KeyMap.ordered_empty

theorem default_eq_make : (default : Request) = make 1 10 := rfl

theorem normal_ofRaw {raw : RawRequest} {given : List (String × String)}
    (h : raw.filters = .ofList given) : (ofRaw raw).Normal where
  toInRange := inRange_clamp (raw.page.getD 1) (raw.pageSize.getD 10) rfl rfl
  search := trimmedIfAny_nonBlank raw.searchTerm
  column := trimmedIfAny_nonBlank raw.sortColumn
  direction := trimmedIfAny_nonBlank raw.sortDirection
  filters := by
    show raw.filters.Ordered
    rw [h]
    exact KeyMap.ordered_ofList given

theorem InRange.of_eq {r r' : Request} (h : r.InRange) (hpage : r'.page = r.page)
    (hsize : r'.pageSize = r.pageSize) : r'.InRange := by
  refine ⟨?_, ?_, ?_⟩
  · rw [hpage]
    exact h.page_pos
  · rw [hsize]
    exact h.size_pos
  · rw [hsize]
    exact h.size_le

/-- **One edit.**  A change touches one part of a request and leaves it in its normal form. -/
theorem Normal.edit {r : Request} (h : r.Normal) (e : Edit) : (r.edit e).Normal := by
  unfold Request.edit
  cases e with
  | page n =>
    exact ⟨⟨one_le_clampPage n, h.size_pos, h.size_le⟩, h.search, h.column, h.direction, h.filters⟩
  | pageSize n =>
    have hmem := clampPageSize_mem n
    exact ⟨⟨h.page_pos, hmem.1, hmem.2⟩, h.search, h.column, h.direction, h.filters⟩
  | search term =>
    have hterm := trimmedIfAny_nonBlank term
    exact ⟨h.toInRange.of_eq rfl rfl, hterm, h.column, h.direction, h.filters⟩
  | sort column direction =>
    refine ⟨h.toInRange.of_eq rfl rfl, h.search, ?_, ?_, h.filters⟩
    · dsimp only
      exact trimmedIfAny_nonBlank (some column)
    · dsimp only
      exact trimmedIfAny_nonBlank (some direction)
  | filter key value =>
    exact ⟨h.toInRange.of_eq rfl rfl, h.search, h.column, h.direction, h.filters.insert key value⟩
  | filters entries =>
    exact ⟨h.toInRange.of_eq rfl rfl, h.search, h.column, h.direction, h.filters.insertAll entries⟩

/-! ## how requests come about -/

/-- the filters that an edit gives -/
def Edit.given : Edit → List (String × String)
  | .filter key value => [(key, value)]
  | .filters entries => entries
  | _ => []

theorem filters_edit (r : Request) (e : Edit) :
    (r.edit e).filters = r.filters.insertAll e.given := by
  unfold edit Edit.given
  cases e <;> dsimp only <;> rfl

/-- a request, and the filters that were given for it one after the other -/
inductive Built : Request → List (String × String) → Prop where
  | make (page pageSize : Int64) : Built (.make page pageSize) []
  | default : Built default []
  | sent (raw : RawRequest) (given : List (String × String)) (h : raw.filters = .ofList given) :
    Built (.ofRaw raw) given
  | edit (r : Request) (given : List (String × String)) (e : Edit) (h : Built r given) :
    Built (r.edit e) (given ++ e.given)

/-- whatever comes about, some filters were given for it -/
theorem Reachable.exists_built {r : Request} (h : r.Reachable) : ∃ given, r.Built given := by
  induction h with
  | make page pageSize => exact ⟨_, .make page pageSize⟩
  | sent raw given h => exact ⟨_, .sent raw given h⟩
  | edit r e _ ih =>
    obtain ⟨given, hbuilt⟩ := ih
    exact ⟨_, .edit r given e hbuilt⟩

/-- **All edits**, whatever the request started as. -/
theorem Built.normal {r : Request} {given : List (String × String)} (h : r.Built given) :
    r.Normal := by
  induction h with
  | make page pageSize => exact normal_make page pageSize
  | default =>
    rw [default_eq_make]
    exact normal_make 1 10
  | sent raw given h => exact normal_ofRaw h
  | edit r given e _ ih => exact ih.edit e

theorem Reachable.normal {r : Request} (h : r.Reachable) : r.Normal := by
  obtain ⟨given, hbuilt⟩ := h.exists_built
  exact hbuilt.normal

/-- of the filters that were given, the last under a key is the one that is kept -/
theorem Built.find?_filters {r : Request} {given : List (String × String)} (h : r.Built given)
    (key : String) : r.filters.find? key = given.reverse.lookup key := by
  induction h with
  | make page pageSize => exact KeyMap.find?_empty key
  | default => exact KeyMap.find?_empty key
  | sent raw given h =>
    show raw.filters.find? key = _
    rw [h, KeyMap.find?_ofList]
  | edit r given e _ ih =>
    rw [filters_edit, KeyMap.find?_insertAll, ih, List.reverse_append, List.lookup_append]

/-! ## rows in front of the page -/

section
variable {r : Request} (h : r.InRange)
include h

theorem InRange.toNat_page_sub_one : (r.page - 1).toNat = r.page.toNat - 1 := by
  have hone : (1 : UInt32).toNat = 1 := rfl
  have hle : (1 : UInt32) ≤ r.page := by
    rw [UInt32.le_iff_toNat_le, hone]
    exact h.page_pos
  rw [UInt32.toNat_sub_of_le _ _ hle, hone]

theorem InRange.skip_lt : (r.page.toNat - 1) * r.pageSize.toNat < 2 ^ 32 * 100 := by
  have hpage : r.page.toNat < 2 ^ 32 := r.page.toNat_lt
  calc (r.page.toNat - 1) * r.pageSize.toNat
      ≤ (r.page.toNat - 1) * 100 := Nat.mul_le_mul_left _ h.size_le
    _ < 2 ^ 32 * 100 := by omega

theorem InRange.toNat_skip : r.skip.toNat = (r.page.toNat - 1) * r.pageSize.toNat := by
  have hlt : (r.page.toNat - 1) * r.pageSize.toNat < 2 ^ 64 := by
    have hskip := h.skip_lt
    omega
  unfold skip
  rw [UInt64.toNat_mul, UInt32.toNat_toUInt64, UInt32.toNat_toUInt64, h.toNat_page_sub_one,
    Nat.mod_eq_of_lt hlt]

theorem InRange.toNat_skip_lt : r.skip.toNat < 2 ^ 32 * 100 := by
  rw [h.toNat_skip]
  exact h.skip_lt

end

end Request

end PagedSql

import PagedSql.Proofs.Filter.Operands
import PagedSql.Proofs.Run.Classification

/-!
# Which filter a run fails for

A filter is refused for its operator and its value at the column behind its key, and for nothing else:
neither the query nor the other filters have a part in it.  A run that gets as far as the filters fails
for the least raw key whose filter is refused.

* `Columns.Refuses`         filters that are refused, said without looking at how they are read;
* `resolve_refused_iff`     reading fails exactly for them;
* `Subject.Refuses`         the same for what a run filters by;
* `exists_filtersFault?_iff`, `filtersFault?_of_least`   a fault is found exactly if a filter is refused,
                            and it is the one of the least key;
* `Failure.IsOfFilter`      the failures that are reported for a filter;
* `fails_for_least_refused_filter`   the runs that fail so.
-/

namespace PagedSql
open PagedSql.Text

/-! ## one filter -/

/-- the key is public, and either nothing goes by the name of the operator or the value is none that the
operator takes from a column of that kind -/
def Columns.Refuses (columns : Columns) (rawKey value : String) : Prop :=
  ∃ target, columns.find? (splitKey rawKey).1 = some target ∧
    ((∀ op : Operator, op.name ≠ lowerAscii (trim (splitKey rawKey).2)) ∨
      ∃ op : Operator, op.name = lowerAscii (trim (splitKey rawKey).2) ∧ op.Refuses target.kind value)

theorem Columns.resolve_refused_iff (columns : Columns) (rawKey value : String) :
    (∃ e, columns.resolve rawKey value = .error e) ↔ columns.Refuses rawKey value := by
  unfold resolve Refuses
  cases columns.find? (splitKey rawKey).1 with
  | none =>
    constructor
    · rintro ⟨e, he⟩
      cases he
    · rintro ⟨target, htarget, _⟩
      cases htarget
  | some target =>
    simp only [Option.some.injEq, exists_eq_left']
    cases hread : Operator.read (splitKey rawKey).2 with
    | error e => exact ⟨fun _ => Or.inl (Operator.read_eq_error.mp hread).1, fun _ => ⟨e, rfl⟩⟩
    | ok op =>
      have hname := Operator.read_eq_ok.mp hread
      have hrefused : (∃ e, Test.ofFilter op target.kind value = .error e) ↔
          ((∀ op : Operator, op.name ≠ lowerAscii (trim (splitKey rawKey).2)) ∨
            ∃ op : Operator, op.name = lowerAscii (trim (splitKey rawKey).2) ∧
              op.Refuses target.kind value) := by
        rw [Test.ofFilter_refused_iff]
        constructor
        · exact fun h => Or.inr ⟨op, hname, h⟩
        · rintro (hnone | ⟨other, hother, h⟩)
          · exact absurd hname (hnone op)
          · rwa [Operator.name_injective (hname.trans hother.symm)]
      rw [← hrefused]
      dsimp only
      cases Test.ofFilter op target.kind value with
      | error e => exact ⟨fun _ => ⟨e, rfl⟩, fun _ => ⟨e, rfl⟩⟩
      | ok test =>
        constructor
        · rintro ⟨e, he⟩
          cases he
        · rintro ⟨e, he⟩
          cases he

theorem filterFault?_ne_none {place : Place} {columns : Columns} {rawKey value : String} :
    filterFault? place columns (rawKey, value) ≠ none ↔ columns.Refuses rawKey value := by
  rw [← columns.resolve_refused_iff, Option.ne_none_iff_exists']
  simp only [filterFault?_eq_some]
  constructor
  · rintro ⟨f, e, he, _⟩
    exact ⟨e, he⟩
  · rintro ⟨e, he⟩
    exact ⟨_, e, he, rfl⟩

/-! ## the filters of a run -/

namespace Subject

/-- nothing is refused if nothing may be filtered -/
def Refuses (s : Subject) (rawKey value : String) : Prop :=
  ∃ columns, s.filterable = some columns ∧ columns.Refuses rawKey value

section
variable {s : Subject} {r : Request} (hr : r.filters.Ordered)
include hr

theorem exists_filtersFault?_iff : (∃ f, filtersFault? s.place s.filterable r = some f) ↔
    ∃ rawKey value, r.filters.find? rawKey = some value ∧ s.Refuses rawKey value := by
  constructor
  · rintro ⟨f, hf⟩
    obtain ⟨columns, rawKey, value, e, hcolumns, hmem, he, _⟩ := exists_of_filtersFault? hf
    exact ⟨rawKey, value, hr.find?_of_mem hmem, columns, hcolumns,
      (columns.resolve_refused_iff rawKey value).mp ⟨e, he⟩⟩
  · rintro ⟨rawKey, value, hfind, columns, hcolumns, hrefuses⟩
    refine Option.ne_none_iff_exists'.mp fun hnone => ?_
    unfold filtersFault? at hnone
    rw [hcolumns, Option.bind_some, List.findSome?_eq_none_iff] at hnone
    exact filterFault?_ne_none.mpr hrefuses (hnone _ (KeyMap.mem_of_find? hfind))

/-- of the filters that are refused, the one with the least key is reported -/
theorem filtersFault?_of_least {rawKey value : String} (hfind : r.filters.find? rawKey = some value)
    (hrefuses : s.Refuses rawKey value)
    (hleast : ∀ other v, r.filters.find? other = some v → s.Refuses other v → rawKey ≤ other) :
    ∃ columns e, s.filterable = some columns ∧ columns.resolve rawKey value = .error e ∧
      filtersFault? s.place s.filterable r = some (filterFailure s.place rawKey value e) := by
  obtain ⟨columns, hcolumns, hrefused⟩ := hrefuses
  obtain ⟨e, he⟩ := (columns.resolve_refused_iff rawKey value).mpr hrefused
  refine ⟨columns, e, hcolumns, he, ?_⟩
  unfold filtersFault?
  rw [hcolumns, Option.bind_some]
  have hfault : filterFault? s.place columns (rawKey, value) =
      some (filterFailure s.place rawKey value e) := filterFault?_eq_some.mpr ⟨e, he, rfl⟩
  refine hr.findSome?_of_least hfind hfault fun other v hother h => ?_
  exact hleast other v hother ⟨columns, hcolumns, filterFault?_ne_none.mp h⟩

end

end Subject

/-! ## the failures of a run -/

/-- the failure is one of a filter -/
def Failure.IsOfFilter (f : Failure) : Prop :=
  ∃ key value operator message, f.cause = .filter key value operator message

theorem isOfFilter_filtersFault? {place : Place} {columns : Option Columns} {r : Request} {f : Failure}
    (h : filtersFault? place columns r = some f) : f.IsOfFilter := by
  obtain ⟨_, _, _, _, _, _, _, rfl⟩ := exists_of_filtersFault? h
  exact ⟨_, _, _, _, rfl⟩

theorem not_isOfFilter_orderingFault? {place : Place} {ordering : String × Direction} {f : Failure}
    (h : orderingFault? place ordering = some f) : ¬ f.IsOfFilter := by
  obtain ⟨fault, _, rfl⟩ := Option.map_eq_some_iff.mp h
  rintro ⟨key, value, operator, message, hcause⟩
  cases hcause

theorem not_isOfFilter_sortFault? {place : Place} {r : Request} {default : Option (String × Direction)}
    {f : Failure} (h : sortFault? place r default = some f) : ¬ f.IsOfFilter := by
  unfold sortFault? at h
  split at h
  · obtain ⟨ordering, _, hordering⟩ := Option.bind_eq_some_iff.mp h
    exact not_isOfFilter_orderingFault? hordering
  · split at h
    · cases h
      rintro ⟨key, value, operator, message, hcause⟩
      cases hcause
    · exact not_isOfFilter_orderingFault? h

namespace Subject
variable {s : Subject} {r : Request}

/-- table and search columns are faultless -/
theorem fault?_of_valid (htable : Identifier.fault? s.tableName = none)
    (hsearch : r.searchTerm ≠ none → ∀ c ∈ s.searchable, Identifier.fault? c = none) :
    s.fault? r = (filtersFault? s.place s.filterable r).or (sortFault? s.place r s.defaultSort) := by
  have htable' : tableFault? s.place s.tableName = none := by
    unfold tableFault?
    rw [if_neg (isWord_of_fault? htable).not_blank, htable]
    rfl
  have hsearch' : searchFault? s.place r s.searchable = none := by
    unfold searchFault?
    cases hterm : r.searchTerm with
    | none => rfl
    | some term =>
      have hcolumns : s.searchable.findSome? Identifier.fault? = none :=
        List.findSome?_eq_none_iff.mpr (hsearch (by rw [hterm]; exact Option.some_ne_none term))
      rw [Option.bind_some, hcolumns]
      rfl
  rw [s.fault?_eq r, htable', hsearch', Option.none_or, Option.none_or]

theorem filter_of_fault? (hvalid : s.fault? r =
      (filtersFault? s.place s.filterable r).or (sortFault? s.place r s.defaultSort)) {f : Failure}
    (hf : f.IsOfFilter) : s.fault? r = some f ↔ filtersFault? s.place s.filterable r = some f := by
  rw [hvalid, Option.or_eq_some_iff]
  constructor
  · rintro (h | ⟨_, h⟩)
    · exact h
    · exact absurd hf (not_isOfFilter_sortFault? h)
  · exact Or.inl

end Subject

/-- **The filter a run fails for.**  Where table and search columns are faultless, a run fails for a
filter exactly if some filter of the request is refused, whatever the query, the other filters, the limits
and the executor are.  Of several such filters the one with the least raw key is reported, with its key,
its whole value and the name of its operator in small letters, and nothing was sent. -/
theorem fails_for_least_refused_filter {s : Subject} {r : Request} (hr : r.Reachable)
    (htable : Identifier.fault? s.tableName = none)
    (hsearch : r.searchTerm ≠ none → ∀ c ∈ s.searchable, Identifier.fault? c = none)
    {α : Type} (l : Limits) (executor : Batch → Reply α) :
    ((∃ f : Failure, (s.run r l executor).outcome = some (.error f) ∧ f.IsOfFilter) ↔
      ∃ rawKey value, r.filters.find? rawKey = some value ∧ s.Refuses rawKey value) ∧
    ∀ rawKey value, r.filters.find? rawKey = some value → s.Refuses rawKey value →
      (∀ other v, r.filters.find? other = some v → s.Refuses other v → rawKey ≤ other) →
      ∃ columns e, s.filterable = some columns ∧ columns.resolve rawKey value = .error e ∧
        (s.run r l executor).outcome = some (.error ⟨s.place,
          .filter (splitKey rawKey).1 value (lowerAscii (splitKey rawKey).2)
            ("Error applying filter with operator '" ++ (splitKey rawKey).2 ++ "': " ++ e.message)⟩) ∧
        (s.run r l executor).batches = [] := by
  have hnormal := hr.normal
  have hvalid := Subject.fault?_of_valid htable hsearch
  constructor
  · rw [← Subject.exists_filtersFault?_iff hnormal.filters]
    constructor
    · rintro ⟨f, hf, hfilter⟩
      have hfails := (Subject.outcome_eq_error_iff hnormal.toInRange).mp hf
      have hclient : f.isClientError = true := by
        obtain ⟨key, value, operator, message, hcause⟩ := hfilter
        unfold Failure.isClientError
        rw [hcause]
        rfl
      exact ⟨f, (Subject.filter_of_fault? hvalid hfilter).mp (hfails.client_iff.mp hclient)⟩
    · rintro ⟨f, hf⟩
      have hfilter := isOfFilter_filtersFault? hf
      have hfault := (Subject.filter_of_fault? hvalid hfilter).mpr hf
      exact ⟨f, (Subject.run_of_fault l executor hfault).1, hfilter⟩
  · intro rawKey value hfind hrefuses hleast
    obtain ⟨columns, e, hcolumns, he, hfound⟩ :=
      Subject.filtersFault?_of_least hnormal.filters hfind hrefuses hleast
    have hfault := (Subject.filter_of_fault? hvalid (isOfFilter_filtersFault? hfound)).mpr hfound
    exact ⟨columns, e, hcolumns, he, Subject.run_of_fault l executor hfault⟩

def staffColumns : Columns := .ofList [("age", ⟨"Age", .integer⟩), ("name", ⟨"Name", .text⟩)]

def staffListing : Listing where
  table := "Staff"
  columns := none
  searchable := []
  filterable := some staffColumns
  baseCondition := none
  defaultSort := none

/-- two filters are refused, and one that is passed over stands in front of them -/
def oddStaff : Request :=
  ((Request.make 1 10).edit (.filter "name__like" "A%")).edit
    (.filters [("age__in", "30, ,soon"), ("Age__like", "")])

def noStaff (_ : Batch) : Reply Nat := ⟨some 0, .ok ⟨[], 0⟩⟩

theorem oddStaff_fail_for_age :
    (staffListing.run oddStaff ⟨none, none⟩ noStaff).outcome =
      some (.error ⟨⟨.table, "Staff"⟩, .filter "age" "30, ,soon" "in"
        "Error applying filter with operator 'in': Value 'soon' is not a valid integer"⟩) := by
  have hreachable : oddStaff.Reachable := .edit _ _ (.edit _ _ (.make 1 10))
  have hentries : oddStaff.filters.entries =
      [("Age__like", ""), ("age__in", "30, ,soon"), ("name__like", "A%")] := by decide
  have hrefuses : (Subject.table staffListing).Refuses "age__in" "30, ,soon" :=
    ⟨_, rfl, ⟨"Age", .integer⟩, by decide, Or.inr ⟨.isIn, by decide, by decide⟩⟩
  have hleast : ∀ other v, oddStaff.filters.find? other = some v →
      (Subject.table staffListing).Refuses other v → "age__in" ≤ other := by
    intro other v hfind hrefused
    have hmem := KeyMap.mem_of_find? hfind
    rw [hentries] at hmem
    simp only [List.mem_cons, Prod.mk.injEq, List.not_mem_nil, or_false] at hmem
    rcases hmem with ⟨rfl, rfl⟩ | ⟨rfl, rfl⟩ | ⟨rfl, rfl⟩
    · obtain ⟨columns, hcolumns, target, htarget, _⟩ := hrefused
      have hnone : staffColumns.find? (splitKey "Age__like").1 = none := by decide
      rw [← Option.some.inj hcolumns, hnone] at htarget
      cases htarget
    · exact le_rfl
    · decide
  obtain ⟨columns, e, hcolumns, he, houtcome, _⟩ :=
    (fails_for_least_refused_filter (s := .table staffListing) hreachable (by decide)
      (fun hterm => absurd rfl hterm) ⟨none, none⟩ noStaff).2 "age__in" "30, ,soon" (by decide)
      hrefuses hleast
  have hsoon : staffColumns.resolve "age__in" "30, ,soon" =
      .error (.invalidValue "soon" .integer) := by decide
  rw [← Option.some.inj hcolumns, hsoon] at he
  rw [← Except.error.inj he] at houtcome
  exact houtcome

end PagedSql

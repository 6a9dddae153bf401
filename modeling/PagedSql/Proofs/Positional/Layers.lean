import PagedSql.Proofs.KeyMap
import PagedSql.Proofs.Identifier
import PagedSql.Proofs.Positional.Conditions
import PagedSql.Proofs.Query.Steps
import PagedSql.Proofs.Run.RequestNames

/-!
# Layers with positions

* `Agrees`           a layer and conjuncts with positions: the same texts once the names have their
                     places, and the same values;
* `agrees_base`, `agrees_search`, `agrees_tests`   the three layers of a listing;
* `placeholders_testsLayer`, `newNames_searchLayer`   in which order their names are met.
-/

namespace PagedSql
open PagedSql.Text

structure Agrees (order : List (List Char)) (l : Layer) (cs : List Numbered) : Prop where
  closed : ∀ c ∈ l.conditions, Closed c
  texts : l.conditions.map (fun c => spelled order (scan c)) = cs.map Numbered.sql
  values : l.parameters.map Prod.snd = Positional.values cs

namespace Agrees
variable {order : List (List Char)} {a b : Layer} {cs ds : List Numbered}

theorem empty (order : List (List Char)) : Agrees order .empty [] :=
  ⟨fun _ hc => absurd hc List.not_mem_nil, rfl, rfl⟩

theorem and (ha : Agrees order a cs) (hb : Agrees order b ds) :
    Agrees order (a.and b) (cs ++ ds) := by
  refine ⟨fun c hc => ?_, ?_, ?_⟩
  · exact (List.mem_append.mp hc).elim (ha.closed c) (hb.closed c)
  · rw [Layer.and, List.map_append, List.map_append, ha.texts, hb.texts]
  · show (a.parameters ++ b.parameters).map Prod.snd = (cs ++ ds).flatMap Numbered.values
    rw [List.map_append, List.flatMap_append, ha.values, hb.values]
    rfl

/-- as many values as names -/
theorem length_values (ha : Agrees order a cs) : (Positional.values cs).length = a.names.length := by
  rw [← ha.values, List.length_map, Layer.names, List.length_map]

end Agrees

/-! ## conditions in parentheses -/

section
variable (order : List (List Char)) {condition : String} (h : Closed condition)
include h

theorem closed_restriction : ∀ c ∈ restriction condition, Closed c := by
  intro c hc
  unfold restriction at hc
  split at hc
  · exact absurd hc List.not_mem_nil
  · rw [List.mem_singleton.mp hc]
    exact (scans_restriction h).closed

theorem placeholders_restriction :
    (restriction condition).flatMap placeholders = placeholders condition := by
  unfold restriction
  split
  · next hblank =>
    rw [← placeholders_trim h, hblank]
    rfl
  · rw [List.flatMap_singleton, (scans_restriction h).placeholders_eq, names_restrictionPieces h]

theorem spelled_restriction (hblank : trim condition ≠ "") :
    (restriction condition).map (fun c => spelled order (scan c)) =
      ["(" ++ trim (spelled order (scan condition)) ++ ")"] := by
  unfold restriction
  rw [if_neg hblank, List.map_singleton, (scans_restriction h).scan_eq,
    spelled_restrictionPieces h]

end

/-! ## base -/

def Listing.restrictions (l : Listing) : List String :=
  match l.baseCondition with
  | none => []
  | some condition => restriction condition

theorem agrees_base (order : List (List Char)) {l : Listing}
    (h : ∀ c, l.baseCondition = some c → Inert c) :
    Agrees order ⟨l.restrictions, [], 0⟩ (Positional.base l.baseCondition) := by
  unfold Listing.restrictions Positional.base
  cases hc : l.baseCondition with
  | none => exact Agrees.empty order
  | some condition =>
    have hinert := h condition hc
    refine ⟨?_, ?_, ?_⟩
    · dsimp only
      exact closed_restriction hinert.closed
    · dsimp only
      split
      · next hblank =>
        rw [restriction, if_pos (show trim condition = "" from hblank)]
        rfl
      · next hblank =>
        rw [spelled_restriction order hinert.closed hblank, hinert.spelled_eq]
        rfl
    · dsimp only
      split <;> rfl

theorem placeholders_restrictions {l : Listing} (h : ∀ c, l.baseCondition = some c → Inert c) :
    l.restrictions.flatMap placeholders = [] := by
  unfold Listing.restrictions
  cases hc : l.baseCondition with
  | none => rfl
  | some condition =>
    have hinert := h condition hc
    dsimp only
    rw [placeholders_restriction hinert.closed, hinert.names]

/-! ## search -/

theorem searched_of_isWord {columns : List String} (h : ∀ c ∈ columns, IsWord c) :
    searched columns = columns := by
  have htrim : columns.map trim = columns := by
    conv_rhs => rw [← List.map_id columns]
    exact List.map_congr_left fun c hc => (h c hc).trim_eq
  unfold searched
  rw [htrim, List.filter_eq_self]
  intro c hc
  exact decide_eq_true (h c hc).ne_empty

theorem nonBlank_some (t : String) :
    nonBlank (some t) = if trim t = "" then none else some (trim t) := by
  unfold nonBlank
  rw [Option.map_some, Option.filter_some]
  by_cases h : trim t = ""
  · rw [if_pos h, if_neg (by simpa using h)]
  · rw [if_neg h, if_pos (by simpa using h)]

/-- the layer of a search, once the columns are known to be words -/
theorem searchLayer_eq {r : Request} {searchable : List String} (k : Nat)
    (h : ∀ term, r.searchTerm = some term → ∀ c ∈ searchable, IsWord c) :
    r.searchLayer k searchable =
      match nonBlank r.searchTerm with
      | none => .empty
      | some term =>
        if searchable = [] then .empty
        else
          ⟨restriction (Query.searchCondition (madeName "search" k) searchable),
            [(madeName "search" k, .text ("%" ++ lowercase term ++ "%"))], 1⟩ := by
  unfold Request.searchLayer
  cases ht : r.searchTerm with
  | none => rfl
  | some term =>
    have hcols := searched_of_isWord (h term ht)
    dsimp only
    unfold searchLayer searchValue
    rw [hcols, nonBlank_some]
    by_cases hblank : trim term = ""
    · rw [if_pos (Or.inl hblank), if_pos hblank]
    · rw [if_neg hblank]
      by_cases hnone : searchable = []
      · rw [if_pos (Or.inr hnone)]
        dsimp only
        rw [if_pos hnone]
      · rw [if_neg (not_or.mpr ⟨hblank, hnone⟩)]
        dsimp only
        rw [if_neg hnone]

section
variable {r : Request} {searchable : List String}
  (h : ∀ term, r.searchTerm = some term → ∀ c ∈ searchable, IsWord c)
include h

theorem inert_searchable {term : String} (ht : nonBlank r.searchTerm = some term) :
    ∀ c ∈ searchable, Inert c := by
  intro c hc
  cases hterm : r.searchTerm with
  | none =>
    rw [hterm] at ht
    cases ht
  | some t => exact (h t hterm c hc).plain.inert

/-- the name of a search comes first, if there is a search -/
theorem idxOf_searchLayer (k : Nat) (rest : List (List Char)) :
    ∀ name ∈ (r.searchLayer k searchable).names,
      ((r.searchLayer k searchable).names.map String.toList ++ rest).idxOf name.toList = 0 := by
  intro name hname
  rw [searchLayer_eq k h] at hname ⊢
  cases ht : nonBlank r.searchTerm with
  | none =>
    rw [ht] at hname
    exact absurd hname List.not_mem_nil
  | some term =>
    rw [ht] at hname
    dsimp only at hname ⊢
    by_cases hnone : searchable = []
    · rw [if_pos hnone] at hname
      exact absurd hname List.not_mem_nil
    · rw [if_neg hnone] at hname ⊢
      rw [List.mem_singleton.mp hname]
      exact List.idxOf_cons_self

theorem agrees_search {order : List (List Char)} {k : Nat}
    (hplace : ∀ name ∈ (r.searchLayer k searchable).names, order.idxOf name.toList = 0) :
    Agrees order (r.searchLayer k searchable) (Positional.search r searchable) := by
  rw [searchLayer_eq k h] at hplace ⊢
  unfold Positional.search
  cases ht : nonBlank r.searchTerm with
  | none => exact Agrees.empty order
  | some term =>
    rw [ht] at hplace
    dsimp only at hplace ⊢
    by_cases hnone : searchable = []
    · rw [if_pos hnone, if_pos hnone]
      exact Agrees.empty order
    · rw [if_neg hnone] at hplace
      rw [if_neg hnone, if_neg hnone]
      have hinert := inert_searchable h ht
      have hname := isName_searchName k
      have hscans := scans_searchCondition hname fun c hc => (hinert c hc).closed
      have hblank := trim_searchCondition_ne (madeName "search" k) hnone
      have hfirst : order.idxOf (madeName "search" k).toList = 0 :=
        hplace _ List.mem_cons_self
      have htexts := spelled_restriction order hscans.closed hblank
      rw [hscans.scan_eq, spelled_searchPieces _ hinert, hfirst] at htexts
      refine ⟨?_, ?_, rfl⟩
      · dsimp only
        exact closed_restriction hscans.closed
      · dsimp only
        rw [htexts]
        rfl

/-- the one name of a search is met once for each column -/
theorem newNames_searchLayer (k : Nat) :
    newNames [] ((r.searchLayer k searchable).conditions.flatMap placeholders) =
      (r.searchLayer k searchable).names.map String.toList := by
  rw [searchLayer_eq k h]
  cases ht : nonBlank r.searchTerm with
  | none => rfl
  | some term =>
    dsimp only
    by_cases hnone : searchable = []
    · rw [if_pos hnone]
      rfl
    · rw [if_neg hnone]
      have hinert := inert_searchable h ht
      have hname := isName_searchName k
      have hscans := scans_searchCondition hname fun c hc => (hinert c hc).closed
      have hrepeat : ∀ cs : List String, newNames [(madeName "search" k).toList]
          (cs.flatMap fun _ => [(madeName "search" k).toList]) = [] := by
        intro cs
        induction cs with
        | nil => rfl
        | cons c cs ih =>
          rw [List.flatMap_cons, List.singleton_append, newNames_of_mem List.mem_cons_self]
          exact ih
      have hnames : searchable.flatMap (fun c => placeholders c ++ [(madeName "search" k).toList]) =
          searchable.flatMap fun _ => [(madeName "search" k).toList] := by
        refine List.flatMap_congr fun c hc => ?_
        rw [(hinert c hc).names, List.nil_append]
      dsimp only
      rw [placeholders_restriction hscans.closed, hscans.placeholders_eq, names_searchPieces, hnames]
      obtain ⟨c, cs, rfl⟩ := List.exists_cons_of_ne_nil hnone
      rw [List.flatMap_cons, List.singleton_append, newNames_of_notMem List.not_mem_nil,
        List.nil_append, hrepeat cs]
      rfl

end

/-! ## tests -/

section
variable {column : String} (hc : Inert column) (j : Nat) (test : Test)
include hc

theorem scans_testCondition : Scans (test.condition (madeName "filter" j) column)
    (scan column ++ test.pieces (madeName "filter" j)) :=
  test.scans_condition
    (fun _ => isName_filterName j) hc.closed

theorem agrees_testLayer {order : List (List Char)} {k : Nat}
    (hplaces : ((test.layer j column).names.map String.toList).map order.idxOf =
      List.range' k (test.layer j column).names.length) :
    Agrees order (test.layer j column) [Positional.parenthesized (test.at k column)] := by
  have hscans := scans_testCondition hc j test
  have htexts := spelled_restriction order hscans.closed
    (trim_condition_ne (madeName "filter" j) column test)
  have hcondition : spelled order (scan column ++ test.pieces (madeName "filter" j)) =
      (test.at k column).sql := by
    have hnames : (test.layer j column).names.map String.toList =
        (test.parameters (madeName "filter" j)).map fun e => e.1.toList := List.map_map
    have hlength : (test.layer j column).names.length =
        (test.parameters (madeName "filter" j)).length := List.length_map _
    rw [hnames, hlength] at hplaces
    exact spelled_condition hc test hplaces
  rw [hscans.scan_eq, hcondition] at htexts
  unfold Test.layer
  refine ⟨?_, ?_, ?_⟩
  · dsimp only
    exact closed_restriction hscans.closed
  · dsimp only
    rw [htexts]
    rfl
  · dsimp only
    rw [← values_at k (madeName "filter" j) column test, Positional.values, List.flatMap_singleton]
    rfl

theorem placeholders_testLayer : (test.layer j column).conditions.flatMap placeholders =
    (test.layer j column).names.map String.toList := by
  have hscans := scans_testCondition hc j test
  unfold Layer.names Test.layer
  dsimp only
  rw [placeholders_restriction hscans.closed, hscans.placeholders_eq, names_append,
    Test.names_pieces, show names (scan column) = [] from hc.names, List.nil_append, List.map_map]
  rfl

end

/-- without placeholders in the columns, the names of tests are met in the order they are bound -/
theorem placeholders_testsLayer (j : Nat) {tests : List (Column × Test)}
    (h : ∀ t ∈ tests, Inert t.1.column) :
    (testsLayer j tests).conditions.flatMap placeholders =
      (testsLayer j tests).names.map String.toList := by
  induction tests generalizing j with
  | nil => rfl
  | cons t tests ih =>
    obtain ⟨target, test⟩ := t
    have hfirst := placeholders_testLayer (h _ List.mem_cons_self) j test
    have hrest := ih (j + (test.layer j target.column).used) fun t ht =>
      h t (List.mem_cons_of_mem _ ht)
    rw [testsLayer_cons, Layer.names_and, List.map_append, ← hfirst, ← hrest, ← List.flatMap_append]
    rfl

theorem filter_of_resolve_none {columns : Columns} {rawKey raw : String}
    (h : columns.resolve rawKey raw = .ok none) (k : Nat) :
    Positional.filter columns k rawKey raw = some none := by
  rw [Positional.filter, Columns.of_resolve_none h]

theorem filter_of_resolve_some {columns : Columns} {rawKey raw : String} {target : Column}
    {test : Test} (h : columns.resolve rawKey raw = .ok (some (target, test))) (k : Nat) :
    Positional.filter columns k rawKey raw = some (some (test.at k target.column)) := by
  obtain ⟨htarget, op, hop, htest⟩ := Columns.of_resolve_some h
  rw [Positional.filter, htarget]
  dsimp only
  rw [hop]
  dsimp only
  rw [condition_eq_at k target.column htest, Option.map_some]

section
variable {columns : Columns} (hfree : ∀ e ∈ columns.entries, Inert e.2.column)
include hfree

theorem inert_of_find? {key : String} {target : Column} (h : columns.find? key = some target) :
    Inert target.column :=
  hfree (key, target) (KeyMap.mem_of_find? h)

theorem inert_of_mem_tests {entries : List (String × String)} :
    ∀ t ∈ entries.filterMap (Request.test? columns), Inert t.1.column := by
  intro t ht
  obtain ⟨e, _, he⟩ := List.mem_filterMap.mp ht
  unfold Request.test? at he
  split at he
  · next found hfound =>
    subst he
    exact inert_of_find? hfree (Columns.of_resolve_some hfound).1
  · cases he

/-- Filters that are not refused are compiled to the conjuncts of their tests.  The names of the tests
are a segment of the order, and the positions count on from its start. -/
theorem agrees_tests {entries : List (String × String)}
    (haccepted : ∀ e ∈ entries, ∃ found, columns.resolve e.1 e.2 = .ok found) (j : Nat)
    {order pre post : List (List Char)}
    (horder : order = pre ++
      (testsLayer j (entries.filterMap (Request.test? columns))).names.map String.toList ++ post)
    (hnodup : order.Nodup) :
    ∃ cs, Positional.filters columns pre.length entries = some cs ∧
      Agrees order (testsLayer j (entries.filterMap (Request.test? columns))) cs := by
  induction entries generalizing j pre with
  | nil => exact ⟨[], rfl, Agrees.empty order⟩
  | cons e entries ih =>
    obtain ⟨rawKey, raw⟩ := e
    obtain ⟨found, hfound⟩ := haccepted _ List.mem_cons_self
    have hlater : ∀ e ∈ entries, ∃ found, columns.resolve e.1 e.2 = .ok found := fun e he =>
      haccepted e (List.mem_cons_of_mem _ he)
    dsimp only at hfound
    cases found with
    | none =>
      have hskip : Request.test? columns (rawKey, raw) = none := by rw [Request.test?, hfound]
      rw [List.filterMap_cons_none hskip] at horder ⊢
      simp only [Positional.filters, filter_of_resolve_none hfound]
      exact ih hlater j horder
    | some t =>
      obtain ⟨target, test⟩ := t
      have htake : Request.test? columns (rawKey, raw) = some (target, test) := by
        rw [Request.test?, hfound]
      rw [List.filterMap_cons_some htake, testsLayer_cons] at horder ⊢
      rw [Layer.names_and, List.map_append] at horder
      have hcolumn := inert_of_find? hfree (Columns.of_resolve_some hfound).1
      have hplaces : ((test.layer j target.column).names.map String.toList).map order.idxOf =
          List.range' pre.length (test.layer j target.column).names.length := by
        have hsegment := horder
        rw [← List.append_assoc, List.append_assoc _ _ post] at hsegment
        rw [hsegment] at hnodup ⊢
        rw [map_idxOf_segment hnodup, List.length_map]
      have hfirst := agrees_testLayer hcolumn j test hplaces
      rw [← List.append_assoc] at horder
      obtain ⟨cs, hcs, hrest⟩ := ih hlater (j + (test.layer j target.column).used) horder
      have hlength : pre.length + (test.at pre.length target.column).values.length =
          (pre ++ (test.layer j target.column).names.map String.toList).length := by
        have hvalues := hfirst.length_values
        rw [Positional.values, List.flatMap_singleton] at hvalues
        rw [List.length_append, List.length_map, ← hvalues]
        rfl
      refine ⟨Positional.parenthesized (test.at pre.length target.column) :: cs, ?_, hfirst.and hrest⟩
      simp only [Positional.filters, filter_of_resolve_some hfound]
      rw [hlength, hcs, Option.map_some]

end

end PagedSql

import PagedSql.Proofs.Query.LayerNames
import PagedSql.Proofs.Run.Layers

/-!
# The names that a request brings along

* `Request.window`            the two entries of the window;
* `parameters_batch`          a batch binds them on top of the parameters of its query;
* `nodup_layer`               the names of a search and of tests are different, the first letter tells
                              the two apart;
* `distinct_layer_window`     so are they together with the names of the window.
-/

namespace PagedSql
open PagedSql.Text

def Request.window (r : Request) : List (String × Value) :=
  [(offsetName, .int (r.offset?.getD 0)), (sizeName, .int (Int64.ofNat r.pageSize.toNat))]

theorem Request.offset?_eq_some {r : Request} {offset : Int64} (h : r.offset? = some offset) :
    offset = Int64.ofNat r.skip.toNat := by
  unfold Request.offset? Decimal.int64? at h
  split at h
  · exact (Option.some.inj h).symm
  · cases h

theorem Query.parameters_batch (q : Query) {r : Request} {offset : Int64}
    (h : r.offset? = some offset) :
    (q.batch offset r.pageSize).parameters = q.parameters.bindAll r.window := by
  unfold Request.window
  rw [h]
  rfl

/-! ## different names -/

namespace Request
variable (r : Request) (k : Nat) (searchable : List String) (columns : Option Columns)

theorem nodup_searchLayer : (r.searchLayer k searchable).names.Nodup := by
  unfold searchLayer
  cases r.searchTerm with
  | none => exact List.nodup_nil
  | some term => exact PagedSql.nodup_searchLayer k term searchable

theorem head_searchLayer :
    ∀ name ∈ (r.searchLayer k searchable).names, name.toList.head? = some 's' := by
  intro name h
  unfold searchLayer at h
  cases ht : r.searchTerm with
  | none =>
    rw [ht] at h
    exact absurd h List.not_mem_nil
  | some term =>
    rw [ht] at h
    rw [names_searchLayer k term searchable name h]
    exact (namedAt_madeName "search" k).head (by decide)

theorem head_tests (tests : List (Column × Test)) :
    ∀ name ∈ (testsLayer k tests).names, name.toList.head? = some 'f' := by
  intro name h
  obtain ⟨m, _, hm⟩ := (nodup_testsLayer k tests).2 name h
  exact hm.head (by decide)

/-- the first letter tells where a name comes from -/
theorem nodup_layer : (r.layer k searchable columns).names.Nodup := by
  unfold layer
  rw [Layer.names_and]
  have htests := nodup_testsLayer (k + (r.searchLayer k searchable).used) (r.tests columns)
  refine List.nodup_append.mpr ⟨r.nodup_searchLayer k searchable, htests.1, ?_⟩
  rintro name hs other hf rfl
  have hhead := r.head_searchLayer k searchable name hs
  rw [head_tests _ _ name hf] at hhead
  cases hhead

theorem head_layer : ∀ name ∈ (r.layer k searchable columns).names,
    name.toList.head? = some 's' ∨ name.toList.head? = some 'f' := by
  intro name h
  unfold layer at h
  rw [Layer.names_and] at h
  rcases List.mem_append.mp h with h | h
  · exact Or.inl (r.head_searchLayer k searchable name h)
  · exact Or.inr (head_tests _ _ name h)

theorem nodup_layer_window :
    (((r.layer k searchable columns).parameters ++ r.window).map Prod.fst).Nodup := by
  have hwindow : r.window.map Prod.fst = [offsetName, sizeName] := rfl
  rw [List.map_append, hwindow]
  refine List.nodup_append.mpr ⟨r.nodup_layer k searchable columns, by decide, ?_⟩
  rintro name hname other hother rfl
  have hhead := r.head_layer k searchable columns name hname
  rcases List.mem_cons.mp hother with rfl | hother
  · exact absurd hhead (by decide)
  · rw [List.mem_singleton] at hother
    subst hother
    exact absurd hhead (by decide)

theorem head_layer_window : ∀ e ∈ (r.layer k searchable columns).parameters ++ r.window,
    e.1.toList.head? ≠ some '@' := by
  intro e he
  rcases List.mem_append.mp he with he | he
  · rcases r.head_layer k searchable columns e.1 (List.mem_map_of_mem he) with h | h
    · rw [h]
      decide
    · rw [h]
      decide
  · rcases List.mem_cons.mp he with rfl | he
    · show offsetName.toList.head? ≠ some '@'
      decide
    · rw [List.mem_singleton] at he
      subst he
      show sizeName.toList.head? ≠ some '@'
      decide

theorem distinct_layer_window :
    Bindings.Distinct ((r.layer k searchable columns).parameters ++ r.window) :=
  Bindings.distinct_of_nodup (r.nodup_layer_window k searchable columns)
    (r.head_layer_window k searchable columns)

end Request

end PagedSql

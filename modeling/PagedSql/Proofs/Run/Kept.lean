import PagedSql.Query.Step
import PagedSql.Proofs.Run.RequestNames

/-!
# Parameters that the caller has bound

The names that a request brings along are counted on from the query's next number; nobody looks
whether the caller has bound one of them already.  They are different from each other, so that the
caller's values are kept exactly if none of these names carries another value.

* `Joined.generated`        the names and values of search, filters and window, from the request alone;
* `distinct_generated`      they are different names;
* `parameters_of_batch`     a batch binds them on top of the parameters of the caller;
* `bindings_kept_iff`       when the caller's values are kept;
* `request_overwrites_tenant`   a run in which one is not.
-/

namespace PagedSql
open PagedSql.Text PagedSql.Decimal

/-! ## names of a request -/

/-- all that a request binds -/
def Joined.generated (j : Joined) (r : Request) : List (String × Value) :=
  (r.layer j.query.counter j.searchable j.filterable).parameters ++ r.window

theorem distinct_generated (j : Joined) (r : Request) : Bindings.Distinct (j.generated r) :=
  r.distinct_layer_window j.query.counter j.searchable j.filterable

/-! ## parameters of a batch -/

theorem parameters_of_laySort {place : Place} {r : Request} {q laid : Query}
    (h : laySort place r .ok q = .ok laid) : laid.parameters = q.parameters := by
  rcases laySort_eq_ok h with ⟨_, hq⟩ | ⟨column, direction, _, _, hq⟩
  · rw [Except.ok.inj hq]
  · rw [(sortBy_eq_ok hq).2]
    rfl

section
variable {α : Type} {j : Joined} {r : Request} {l : Limits} {executor : Batch → Reply α}
  {batch : Batch}

theorem parameters_of_batch (h : batch ∈ (j.run r l executor).batches) :
    batch.parameters = j.query.parameters.bindAll (j.generated r) := by
  obtain ⟨q, offset, hq, ho, rfl⟩ := Joined.exists_of_mem_batches h
  unfold Joined.generated
  rw [q.parameters_batch ho, parameters_of_laySort hq, Query.parameters_lay,
    Bindings.bindAll_append]

/-- **What the caller has bound.**  All names that were bound before the run have their values in the
batch exactly if none of the names that the request brings along was bound to something else. -/
theorem bindings_kept_iff (h : batch ∈ (j.run r l executor).batches) :
    (∀ name value, j.query.parameters.find? name = some value →
        batch.parameters.find? name = some value) ↔
      ∀ e ∈ j.generated r, ∀ value, j.query.parameters.find? e.1 = some value → value = e.2 := by
  rw [parameters_of_batch h]
  exact j.query.parameters.bindAll_keeps_iff (distinct_generated j r)

end

/-! ## one name twice -/

def roomsStart : Query := ⟨"Rooms", "r", [], [], [], [], .asc, .empty, 0⟩

/-- the rooms of one tenant, whose number is bound under the given name -/
def tenantSteps (name : String) : List Step :=
  [.bind name (.text "A"), .restrict ("r.TenantId = @" ++ name)]

def tenantRooms (name : String) : Joined :=
  ⟨roomsStart.after (tenantSteps name), "Rooms", some ⟨[("city", ⟨"r.City", .text⟩)]⟩, []⟩

def parisRequest : Request := (Request.make 1 10).edit (.filter "city" "Paris")

def noRooms (_ : Batch) : Reply Nat := ⟨some 0, .ok ⟨[], 0⟩⟩

theorem bindings_kept_of_tenantRooms :
    ∃ batch ∈ ((tenantRooms "tenant").run parisRequest ⟨none, none⟩ noRooms).batches,
      ∀ name value, (tenantRooms "tenant").query.parameters.find? name = some value →
        batch.parameters.find? name = some value := by
  have hbatches : ((tenantRooms "tenant").run parisRequest ⟨none, none⟩ noRooms).batches ≠ [] := by
    decide +kernel
  obtain ⟨batch, hbatch⟩ := List.exists_mem_of_ne_nil _ hbatches
  refine ⟨batch, hbatch, (bindings_kept_iff hbatch).mpr ?_⟩
  have hfree : ∀ e ∈ (tenantRooms "tenant").generated parisRequest,
      (tenantRooms "tenant").query.parameters.find? e.1 = none := by
    decide +kernel
  intro e he value hvalue
  rw [hfree e he] at hvalue
  cases hvalue

/-- The caller's value is bound as `filter_0` before the request's filter takes that name: the
condition on the tenant is compared with the text of the request. -/
theorem request_overwrites_tenant :
    Query.make "Rooms" "r" = .ok roomsStart ∧
      (tenantRooms "filter_0").query = roomsStart.after (tenantSteps "filter_0") ∧
      (tenantRooms "filter_0").query.parameters.find? "filter_0" = some (.text "A") ∧
      ∃ batch ∈ ((tenantRooms "filter_0").run parisRequest ⟨none, none⟩ noRooms).batches,
        batch.parameters.find? "filter_0" = some (.text "Paris") :=
  ⟨by decide +kernel, rfl, by decide +kernel, by decide +kernel⟩

end PagedSql

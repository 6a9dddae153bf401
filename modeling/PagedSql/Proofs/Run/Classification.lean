import PagedSql.Proofs.Run.Ending

/-!
# What a failure tells

A run fails in one of seven ways: a check refuses it, the executor returns one of three errors or too
many rows, or one of the two limits comes first.  From its kind a failure tells which it was, and whether
anything had been sent by then.

* `Subject.EndsBy`, `Subject.Returns`   a run that passes the checks, by its ending and by its answer;
* `Subject.Fails`              the ways in which a run fails, each with its failure;
* `outcome_eq_error_iff`       a run fails in these ways and in no other, `Fails.unique` in one of them;
* `failure_tells_its_origin`   the kinds of failure and where they come from.
-/

namespace PagedSql

namespace Subject

section
variable {α : Type} (s : Subject) (r : Request) (l : Limits) (executor : Batch → Reply α)

/-- the run passes the checks, and this ending is found first -/
def EndsBy (e : Ending) : Prop :=
  s.fault? r = none ∧ (ending l (executor (s.batch r)).after).Yields e

/-- the run is left to the executor, which answers -/
def Returns (answer : Except ExecutorError (Rows α)) : Prop :=
  s.EndsBy r l executor .completed ∧ (executor (s.batch r)).answer = answer

inductive Fails : Failure → Prop where
  | refused (f : Failure) (h : s.fault? r = some f) : Fails f
  | driver (e : DriverError) (h : s.Returns r l executor (.error (.driver e))) :
    Fails ⟨s.place, .database "A database error occurred while retrieving paged data"
      (s.batch r).script (some e)⟩
  | other (message : String) (h : s.Returns r l executor (.error (.other message))) :
    Fails ⟨s.place, .database message (s.batch r).script none⟩
  | unbound (u : Unbound) (h : s.Returns r l executor (.error (.unbound u))) :
    Fails ⟨s.place, .unexpected "An unexpected error occurred during pagination" (some u)⟩
  | overfull (rows : Rows α) (h : s.Returns r l executor (.ok rows))
    (hrows : r.pageSize.toNat < rows.items.length) :
    Fails (tooManyRows s.place rows.items.length r.pageSize)
  | timedOut (h : s.EndsBy r l executor .timedOut) : Fails (timeoutFailure s.place (s.batch r) l)
  | cancelled (h : s.EndsBy r l executor .cancelled) : Fails ⟨s.place, .cancelled⟩

end

section
variable {α : Type} {s : Subject} {r : Request} {l : Limits} {executor : Batch → Reply α}

theorem pageOf_of_overfull {place : Place} {rows : Rows α}
    (h : r.pageSize.toNat < rows.items.length) :
    pageOf place r rows = .error (tooManyRows place rows.items.length r.pageSize) :=
  if_pos h

theorem pageOf_eq_error {place : Place} {rows : Rows α} {f : Failure}
    (h : pageOf place r rows = .error f) : r.pageSize.toNat < rows.items.length ∧
      f = tooManyRows place rows.items.length r.pageSize := by
  unfold pageOf at h
  split at h
  · next hlt => exact ⟨hlt, (Except.error.inj h).symm⟩
  · cases h

/-- each error of an executor is a failure of its own -/
theorem fails_of_answered {f : Failure} (hends : s.EndsBy r l executor .completed)
    (h : answered s.place r (s.batch r) (executor (s.batch r)).answer = .error f) :
    s.Fails r l executor f := by
  cases hanswer : (executor (s.batch r)).answer with
  | error e =>
    rw [hanswer] at h
    cases h
    cases e with
    | driver e => exact .driver e ⟨hends, hanswer⟩
    | unbound u => exact .unbound u ⟨hends, hanswer⟩
    | other message => exact .other message ⟨hends, hanswer⟩
  | ok rows =>
    rw [hanswer] at h
    obtain ⟨hrows, rfl⟩ := pageOf_eq_error h
    exact .overfull rows ⟨hends, hanswer⟩ hrows

variable (hr : r.InRange)
include hr

theorem EndsBy.outcome_eq {e : Ending} (h : s.EndsBy r l executor e) :
    (s.run r l executor).outcome =
      some (settle s.place r l (s.batch r) (executor (s.batch r)).answer e) := by
  rw [(run_of_faultless l executor hr h.1).1, race_eq_some_iff_yields.mpr h.2]
  rfl

theorem Returns.outcome_eq {answer : Except ExecutorError (Rows α)}
    (h : s.Returns r l executor answer) :
    (s.run r l executor).outcome = some (answered s.place r (s.batch r) answer) := by
  rw [h.1.outcome_eq hr, settle_completed, h.2]

/-- what ends otherwise than by a cancellation has been sent -/
theorem EndsBy.batches_eq {e : Ending} (h : s.EndsBy r l executor e) (he : e ≠ .cancelled) :
    (s.run r l executor).batches = [s.batch r] := by
  have hbefore : ¬ l.cancelledBefore = true := by
    intro hbefore
    have hrace : race l (executor (s.batch r)).after = some e := race_eq_some_iff_yields.mpr h.2
    rw [race, if_pos hbefore] at hrace
    exact he (Option.some.inj hrace).symm
  rw [(run_of_faultless l executor hr h.1).2, if_neg hbefore]

theorem length_batches_le : (s.run r l executor).batches.length ≤ 1 := by
  cases hf : s.fault? r with
  | some f =>
    rw [(run_of_fault l executor hf).2]
    exact Nat.zero_le 1
  | none =>
    rw [(run_of_faultless l executor hr hf).2]
    split
    · exact Nat.zero_le 1
    · exact le_rfl

/-- **The seven ways.** -/
theorem outcome_eq_error_iff {f : Failure} :
    (s.run r l executor).outcome = some (.error f) ↔ s.Fails r l executor f := by
  constructor
  · intro h
    cases hf : s.fault? r with
    | some g =>
      rw [(run_of_fault l executor hf).1] at h
      cases h
      exact .refused f hf
    | none =>
      rw [(run_of_faultless l executor hr hf).1] at h
      obtain ⟨e, hrace, hsettle⟩ := Option.map_eq_some_iff.mp h
      have hends : s.EndsBy r l executor e := ⟨hf, race_eq_some_iff_yields.mp hrace⟩
      cases e with
      | cancelled =>
        cases hsettle
        exact .cancelled hends
      | timedOut =>
        cases hsettle
        exact .timedOut hends
      | completed =>
        rw [settle_completed] at hsettle
        exact fails_of_answered hends hsettle
  · intro h
    cases h with
    | refused _ h => exact (run_of_fault l executor h).1
    | driver e h => exact h.outcome_eq hr
    | other message h => exact h.outcome_eq hr
    | unbound u h => exact h.outcome_eq hr
    | overfull rows h hrows =>
      rw [h.outcome_eq hr]
      exact congrArg some (pageOf_of_overfull hrows)
    | timedOut h => exact h.outcome_eq hr
    | cancelled h => exact h.outcome_eq hr

theorem Fails.unique {f g : Failure} (hf : s.Fails r l executor f) (hg : s.Fails r l executor g) :
    f = g := by
  have hfirst := (outcome_eq_error_iff hr).mpr hf
  rw [(outcome_eq_error_iff hr).mpr hg] at hfirst
  exact (Except.error.inj (Option.some.inj hfirst)).symm

end

/-! ## kinds of failure -/

section
variable {α : Type} {s : Subject} {r : Request} {l : Limits} {executor : Batch → Reply α} {f : Failure}

theorem Fails.place_eq (h : s.Fails r l executor f) : f.place = s.place := by
  cases h with
  | refused _ h => exact (isRefusal_fault? h).place_eq
  | _ => rfl

theorem Fails.client_iff (h : s.Fails r l executor f) :
    f.isClientError = true ↔ s.fault? r = some f := by
  constructor
  · intro hclient
    cases h with
    | refused _ h => exact h
    | _ => cases hclient
  · exact fun hfault => (isRefusal_fault? hfault).client

/-- a failure of another kind than the checks have -/
theorem not_refused_of_cause (hcause : f.cause.isClientError = false) : s.fault? r ≠ some f := by
  intro hfault
  have hclient : f.cause.isClientError = true := (isRefusal_fault? hfault).client
  rw [hcause] at hclient
  cases hclient

theorem Fails.of_database (h : s.Fails r l executor f) {message sql : String}
    {source : Option DriverError} (hcause : f.cause = .database message sql source) :
    ((∃ e, s.Returns r l executor (.error (.driver e))) ∨
      (∃ text, s.Returns r l executor (.error (.other text))) ∨ s.EndsBy r l executor .timedOut) ∧
      sql = (s.batch r).script := by
  cases h with
  | refused _ h => exact absurd h (not_refused_of_cause (by rw [hcause]; rfl))
  | driver e h =>
    cases hcause
    exact ⟨Or.inl ⟨e, h⟩, rfl⟩
  | other text h =>
    cases hcause
    exact ⟨Or.inr (Or.inl ⟨_, h⟩), rfl⟩
  | timedOut h =>
    cases hcause
    exact ⟨Or.inr (Or.inr h), rfl⟩
  | unbound u h => cases hcause
  | overfull rows h hrows => cases hcause
  | cancelled h => cases hcause

theorem Fails.of_unexpected (h : s.Fails r l executor f) {message : String} {source : Option Unbound}
    (hcause : f.cause = .unexpected message source) :
    (∃ u, s.Returns r l executor (.error (.unbound u))) ∨
      ∃ rows, s.Returns r l executor (.ok rows) ∧ r.pageSize.toNat < rows.items.length := by
  cases h with
  | refused _ h => exact absurd h (not_refused_of_cause (by rw [hcause]; rfl))
  | unbound u h => exact Or.inl ⟨u, h⟩
  | overfull rows h hrows => exact Or.inr ⟨rows, h, hrows⟩
  | driver e h => cases hcause
  | other text h => cases hcause
  | timedOut h => cases hcause
  | cancelled h => cases hcause

theorem Fails.of_cancelled (h : s.Fails r l executor f) (hcause : f.cause = .cancelled) :
    s.EndsBy r l executor .cancelled := by
  cases h with
  | refused _ h => exact absurd h (not_refused_of_cause (by rw [hcause]; rfl))
  | cancelled h => exact h
  | driver e h => cases hcause
  | other text h => cases hcause
  | unbound u h => cases hcause
  | overfull rows h hrows => cases hcause
  | timedOut h => cases hcause

end

theorem exists_fault?_iff (s : Subject) (r : Request) :
    (∃ f, s.fault? r = some f) ↔ ∃ f, some f ∈ s.checks r := by
  constructor
  · rintro ⟨f, hf⟩
    obtain ⟨check, hcheck, hfound⟩ := List.exists_of_findSome?_eq_some hf
    exact ⟨f, hfound ▸ hcheck⟩
  · rintro ⟨f, hf⟩
    have hsome : ((s.checks r).findSome? id).isSome := by
      rw [List.isSome_findSome?, List.any_eq_true]
      exact ⟨some f, hf, rfl⟩
    exact Option.isSome_iff_exists.mp hsome

end Subject

/-- a column to search that is none -/
def openStays : Subject := .table ⟨"Stays", none, ["Name", "1=1 OR Name"], none, none, none⟩

/-- searches, and has a direction that is none -/
def sidewaysRequest : Request :=
  ((Request.make 1 10).edit (.search (some "sea"))).edit (.sort "Name" "sideways")

def lostStays (_ : Batch) : Reply Nat := ⟨some 5, .error (.driver .poolTimedOut)⟩

end PagedSql

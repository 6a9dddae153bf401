import PagedSql.Filter.Column
import PagedSql.Proofs.Bindings

/-!
# What search and filters add to a query

Search and filters touch three fields only: they add conditions, bind values, and use up numbers.
So each of them is a layer that can be written down without the query, given the next number.

* `Layer`            conditions and named values to add, and the numbers used up for the names;
* `Query.lay`        the query with a layer on it;
* `searchLayer`, `Test.layer`   the layers of a search and of a test;
* `Query.search_eq_lay`, `Query.impose_eq_lay`   the operations add these layers, nothing else;
* `testsLayer`       the layer of tests one after the other.
-/

namespace PagedSql
open PagedSql.Text PagedSql.Decimal

/-! ## names and values -/

/-- a name made of a stem and a number -/
def madeName (stem : String) (k : Nat) : String := stem ++ "_" ++ natText k

theorem Query.nextName_eq (q : Query) (stem : String) :
    q.nextName stem = (madeName stem q.counter, { q with counter := q.counter + 1 }) := rfl

theorem Query.bind_eq (q : Query) (name : String) (value : Value) :
    q.bind name value = { q with parameters := q.parameters.bind name value } := rfl

theorem Query.bindAll_eq (q : Query) (es : List (String × Value)) :
    q.bindAll es = { q with parameters := q.parameters.bindAll es } := by
  induction es generalizing q with
  | nil => rfl
  | cons e es ih => exact ih (q.bind e.1 e.2)

/-! ## conditions -/

/-- the condition in parentheses, nothing for a blank one -/
def restriction (condition : String) : List String :=
  if trim condition = "" then [] else ["(" ++ trim condition ++ ")"]

theorem Query.restrict_eq (q : Query) (condition : String) :
    q.restrict condition = { q with conditions := q.conditions ++ restriction condition } := by
  unfold restrict restriction
  split
  · next h => rw [if_pos h, List.append_nil]
  · next h => rw [if_neg h]

/-! ## layers -/

structure Layer where
  conditions : List String
  parameters : List (String × Value)
  used : Nat
  deriving DecidableEq

namespace Layer

def empty : Layer := ⟨[], [], 0⟩

/-- one layer and another above it -/
def and (a b : Layer) : Layer :=
  ⟨a.conditions ++ b.conditions, a.parameters ++ b.parameters, a.used + b.used⟩

def names (l : Layer) : List String := l.parameters.map Prod.fst

theorem names_and (a b : Layer) : (a.and b).names = a.names ++ b.names := List.map_append

end Layer

namespace Query

def lay (q : Query) (l : Layer) : Query :=
  { q with
    conditions := q.conditions ++ l.conditions
    parameters := q.parameters.bindAll l.parameters
    counter := q.counter + l.used }

theorem parameters_lay (q : Query) (l : Layer) :
    (q.lay l).parameters = q.parameters.bindAll l.parameters := rfl

theorem lay_empty (q : Query) : q.lay .empty = q := by
  unfold lay
  rw [Layer.empty, List.append_nil, Bindings.bindAll_nil, Nat.add_zero]

theorem lay_and (q : Query) (a b : Layer) : q.lay (a.and b) = (q.lay a).lay b := by
  unfold lay Layer.and
  rw [List.append_assoc, Bindings.bindAll_append, Nat.add_assoc]

end Query

/-! ## search -/

/-- search columns as they are written -/
def searched (columns : List String) : List String := (columns.map trim).filter (· ≠ "")

def searchValue (term : String) : Value := .text ("%" ++ lowercase (trim term) ++ "%")

def searchLayer (k : Nat) (term : String) (columns : List String) : Layer :=
  if trim term = "" ∨ searched columns = [] then .empty
  else
    ⟨restriction (Query.searchCondition (madeName "search" k) (searched columns)),
      [(madeName "search" k, searchValue term)], 1⟩

theorem Query.search_eq_lay (q : Query) (term : String) (columns : List String) :
    q.search term columns = q.lay (searchLayer q.counter term columns) := by
  unfold search searchLayer
  simp only [nextName_eq]
  split
  · next h =>
    have hnone : trim term = "" ∨ searched columns = [] := h
    rw [if_pos hnone, lay_empty]
  · next h =>
    have hsome : ¬ (trim term = "" ∨ searched columns = []) := h
    rw [if_neg hsome, restrict_eq, bind_eq, lay, Bindings.bindAll_cons, Bindings.bindAll_nil,
      searched, searchValue]

/-! ## tests -/

namespace Test

/-- a test that needs no name takes the same place whatever the name would be -/
def layer (k : Nat) (column : String) (test : Test) : Layer :=
  ⟨restriction (test.condition (madeName "filter" k) column),
    test.parameters (madeName "filter" k), if test.needsName then 1 else 0⟩

section
variable {test : Test} (h : test.needsName = false)
include h

theorem parameters_of_not_needsName (base : String) : test.parameters base = [] := by
  cases test with
  | missing positive => rfl
  | compare c v => cases h
  | pattern text => cases h
  | oneOf positive vs => cases h
  | range low high => cases h

theorem condition_of_not_needsName (base base' column : String) :
    test.condition base column = test.condition base' column := by
  cases test with
  | missing positive => rfl
  | compare c v => cases h
  | pattern text => cases h
  | oneOf positive vs => cases h
  | range low high => cases h

end

end Test

theorem Query.impose_eq_lay (q : Query) (column : String) (test : Test) :
    q.impose column test = q.lay (test.layer q.counter column) := by
  unfold impose Test.layer
  rw [nextName_eq, lay]
  simp only []
  split
  · rw [bindAll_eq, restrict_eq]
  · next h =>
    have hn := Bool.eq_false_iff.mpr h
    rw [restrict_eq, Test.parameters_of_not_needsName hn, Bindings.bindAll_nil,
      Test.condition_of_not_needsName hn "" (madeName "filter" q.counter), Nat.add_zero]

/-! ## filters -/

namespace Columns

theorem of_resolve_none {columns : Columns} {rawKey value : String}
    (h : columns.resolve rawKey value = .ok none) : columns.find? (splitKey rawKey).1 = none := by
  unfold resolve at h
  split at h
  · next hnone => exact hnone
  · split at h
    · cases h
    · split at h
      · cases h
      · cases h

theorem of_resolve_some {columns : Columns} {rawKey value : String} {target : Column} {test : Test}
    (h : columns.resolve rawKey value = .ok (some (target, test))) :
    columns.find? (splitKey rawKey).1 = some target ∧
      ∃ op, Operator.read (splitKey rawKey).2 = .ok op ∧
        Test.ofFilter op target.kind value = .ok test := by
  unfold resolve at h
  split at h
  · cases h
  · next t ht =>
    split at h
    · cases h
    · next op hop =>
      split at h
      · cases h
      · next test' htest =>
        cases h
        exact ⟨ht, op, hop, htest⟩

end Columns

/-- the layer of tests one after the other, names numbered from `k` on -/
def testsLayer (k : Nat) : List (Column × Test) → Layer
  | [] => .empty
  | (target, test) :: rest =>
    (test.layer k target.column).and (testsLayer (k + (test.layer k target.column).used) rest)

theorem testsLayer_cons (k : Nat) (target : Column) (test : Test) (rest : List (Column × Test)) :
    testsLayer k ((target, test) :: rest) = (test.layer k target.column).and
      (testsLayer (k + (test.layer k target.column).used) rest) := rfl

end PagedSql

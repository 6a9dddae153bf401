import PagedSql.Filter.Column

/-!
# Steps of building a query

* `Step`        one operation on a query under construction;
* `StepResult`  what the operation answers;
* `Step.run`    the query after a step, and the answer.  A refused step leaves the query as it was;
* `Query.after` the query after a list of steps.
-/

namespace PagedSql

inductive Step where
  | project (fragment : String)
  | join (kind : JoinKind) (table label condition : String)
  | restrict (condition : String)
  | search (term : String) (columns : List String)
  | orderBy (columns : List String) (direction : Direction)
  | bind (name : String) (value : Value)
  | nextName (stem : String)
  | filter (columns : Columns) (rawKey value : String)
  deriving DecidableEq

inductive StepResult where
  | done
  | named (name : String)
  | applied
  | unknownKey
  | notBuilt (e : BuildError)
  | notFiltered (e : FilterError)
  deriving DecidableEq

def Step.run (q : Query) : Step → Query × StepResult
  | .project fragment => (q.project fragment, .done)
  | .join kind table label condition =>
    match q.join kind table label condition with
    | .ok joined => (joined, .done)
    | .error e => (q, .notBuilt e)
  | .restrict condition => (q.restrict condition, .done)
  | .search term columns => (q.search term columns, .done)
  | .orderBy columns direction => (q.orderBy columns direction, .done)
  | .bind name value => (q.bind name value, .done)
  | .nextName stem => ((q.nextName stem).2, .named (q.nextName stem).1)
  | .filter columns rawKey value =>
    match columns.filter q rawKey value with
    | .ok (some filtered) => (filtered, .applied)
    | .ok none => (q, .unknownKey)
    | .error e => (q, .notFiltered e)

def Query.after (q : Query) (steps : List Step) : Query := steps.foldl (fun q s => (s.run q).1) q

theorem Query.after_cons (q : Query) (s : Step) (steps : List Step) :
    q.after (s :: steps) = (s.run q).1.after steps := rfl
theorem Query.after_append (q : Query) (a b : List Step) : q.after (a ++ b) = (q.after a).after b := by
  simp [Query.after, List.foldl_append]

/-- the query after all steps, or the error of the first join that is refused -/
def Query.build (q : Query) : List Step → Except BuildError Query
  | [] => .ok q
  | s :: steps =>
    match s.run q with
    | (_, .notBuilt e) => .error e
    | (q, _) => q.build steps

end PagedSql

import PagedSql.Run.Plan
import PagedSql.Run.Race
import PagedSql.Page
import PagedSql.Event
import PagedSql.Decimal.Integer
import PagedSql.Decimal.Binary64

/-!
# Running a request

* `secondsUnits`    a duration of milliseconds as a binary number of seconds, in units of 2^-1074: whole
                    seconds and the fraction are rounded to binary numbers, and so is their sum;
* `secondsText`     that number with one decimal place, a half going to the even digit;
* `Report`          the outcome of a run, the batches that were sent, and the events to log;
* `settle`          the outcome of a batch from the way its run ended;
* `execute`         sends the batch of a query to an executor, within limits;
* `Plan.run`        the run of a plan;
* `Listing.run`, `Joined.run`   a page of one table, and of a query that the caller has built.

There is no outcome if the executor never answers and nothing stops it.
-/

namespace PagedSql
open PagedSql.Decimal

def secondsUnits (milliseconds : Nat) : Nat :=
  let whole := Binary64.unitsOf (Binary64.nearestCode (milliseconds / 1000) 1)
  let fraction := Binary64.unitsOf (Binary64.nearestCode (milliseconds % 1000) 1000)
  Binary64.unitsOf (Binary64.nearestCode (whole + fraction) Binary64.unit)

def secondsText (milliseconds : Nat) : String :=
  let tenths := roundDiv (10 * secondsUnits milliseconds) Binary64.unit
  natText (tenths / 10) ++ "." ++ natText (tenths % 10)

structure Report (α : Type) where
  outcome : Option (Except Failure (Page α))
  batches : List Batch
  events : List Event

/-- rows in front of the page, where they can be counted by a signed word -/
def Request.offset? (r : Request) : Option Int64 :=
  int64? r.skip.toNat

/-- a negative total counts as none -/
def countOf (total : Int64) : UInt64 := UInt64.ofNat total.toInt.toNat

def executorFailure (place : Place) (batch : Batch) : ExecutorError → Failure
  | .driver e =>
    ⟨place, .database "A database error occurred while retrieving paged data" batch.script (some e)⟩
  | .other message => ⟨place, .database message batch.script none⟩
  | .unbound u => ⟨place, .unexpected "An unexpected error occurred during pagination" (some u)⟩

def timeoutFailure (place : Place) (batch : Batch) (l : Limits) : Failure :=
  ⟨place, .database ("Query timed out after " ++ secondsText (l.timeout.getD 0) ++ "s") batch.script none⟩

def tooManyRows (place : Place) (rows : Nat) (size : UInt32) : Failure :=
  ⟨place, .unexpected
    ("Executor returned " ++ natText rows ++ " rows for a page of " ++ natText size.toNat) none⟩

section
variable {α : Type}

/-- the page that rows make up, unless there are more of them than it holds -/
def pageOf (place : Place) (r : Request) (rows : Rows α) : Except Failure (Page α) :=
  if r.pageSize.toNat < rows.items.length then
    .error (tooManyRows place rows.items.length r.pageSize)
  else .ok (.make rows.items (countOf rows.total) r.page r.pageSize)

def settle (place : Place) (r : Request) (l : Limits) (batch : Batch)
    (answer : Except ExecutorError (Rows α)) : Ending → Except Failure (Page α)
  | .cancelled => .error ⟨place, .cancelled⟩
  | .timedOut => .error (timeoutFailure place batch l)
  | .completed =>
    match answer with
    | .error e => .error (executorFailure place batch e)
    | .ok rows => pageOf place r rows

/-- the line that an outcome leaves in the log -/
def outcomeEvent (place : Place) : Except Failure (Page α) → Event
  | .error f => .failed f
  | .ok p => .fetched place.table p.page p.pageSize p.items.length p.totalCount

def execute (place : Place) (r : Request) (l : Limits) (executor : Batch → Reply α) (q : Query) :
    Report α :=
  match r.offset? with
  | none =>
    let f : Failure := ⟨place, .invalidParameters "page" "Page offset is out of range"⟩
    ⟨some (.error f), [], [.failed f]⟩
  | some offset =>
    let batch := q.batch offset r.pageSize
    let reply := executor batch
    let outcome := (race l reply.after).map (settle place r l batch reply.answer)
    ⟨outcome, if l.cancelledBefore then [] else [batch], (outcome.map (outcomeEvent place)).toList⟩

def Plan.run (p : Plan) (place : Place) (r : Request) (l : Limits) (executor : Batch → Reply α) :
    Report α :=
  let report : Report α := match p.query with
    | .error f => ⟨some (.error f), [], [.failed f]⟩
    | .ok q => execute place r l executor q
  { report with events := p.ignored.map .ignoredFilter ++ report.events }

def Listing.run (listing : Listing) (r : Request) (l : Limits) (executor : Batch → Reply α) : Report α :=
  (listing.plan r).run listing.place r l executor

def Joined.run (joined : Joined) (r : Request) (l : Limits) (executor : Batch → Reply α) : Report α :=
  (joined.plan r).run joined.place r l executor

end

end PagedSql

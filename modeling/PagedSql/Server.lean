import PagedSql.Server.Argument
import PagedSql.Run

/-!
# The conversation with the server

A batch is run in one transaction that only reads, over one snapshot, so that rows and count agree.

* `Stage`        the five statements of the conversation, in order;
* `Stage.Given`  what the server gives back for a statement: rows, their number, or nothing;
* `Sent`         a statement as it reaches the server;
* `Response`     what follows a statement: it is done, it fails, or nobody waits for it any longer;
* `Server`       how it responds to connecting and to each stage;
* `Dialogue`     statements that are sent one behind the other, and what they come to;
* `conversation` the five statements about a batch, which come to its rows and their number;
* `converse`     the statements of a dialogue that are sent, up to the first that is not done;
* `Server.fetch` runs a batch: both statements are numbered first, then the conversation is held.
-/

namespace PagedSql

inductive Stage where
  | begin
  | snapshot
  | rows
  | count
  | commit
  deriving DecidableEq, Repr

abbrev Stage.Given (α : Type) : Stage → Type
  | .rows => List α
  | .count => Int64
  | .begin | .snapshot | .commit => Unit

/-- arguments are absent from statements that take none -/
structure Sent where
  sql : String
  arguments : Option (List Argument)
  deriving DecidableEq

def Sent.ofNumbered (n : Numbered) : Sent := ⟨n.sql, some (n.values.map Argument.ofValue)⟩

inductive Response (β : Type) where
  | done (given : β)
  | failed (e : DriverError)
  | dropped
  deriving DecidableEq, Repr

namespace Response
variable {β : Type}

/-- none if nobody waits for it -/
def answer? : Response β → Option (Except DriverError β)
  | done given => some (.ok given)
  | failed e => some (.error e)
  | dropped => none

/-- what the caller of a run hears of it -/
def outcome (r : Response β) : Option (Except ExecutorError β) :=
  r.answer?.map fun answer => answer.mapError .driver

@[simp] theorem outcome_done (given : β) : (done given).outcome = some (.ok given) := rfl

@[simp] theorem outcome_failed (e : DriverError) :
    (failed e : Response β).outcome = some (.error (.driver e)) := rfl

@[simp] theorem outcome_dropped : (dropped : Response β).outcome = none := rfl

end Response

structure Server (α : Type) where
  /-- what acquiring a connection ends in -/
  connect : Response Unit
  respond : (stage : Stage) → Response (stage.Given α)
  health : Response Unit

/-- what is given back for a statement goes on to the statements behind it -/
inductive Dialogue (α β : Type) where
  | finish (result : β)
  | say (stage : Stage) (sent : Sent) (next : stage.Given α → Dialogue α β)

def transactionSql : String := "SET TRANSACTION ISOLATION LEVEL REPEATABLE READ, READ ONLY"

section
variable {α β : Type}

/-- the whole conversation about two numbered statements -/
def conversation (rows count : Numbered) : Dialogue α (Rows α) :=
  .say .begin ⟨"BEGIN", none⟩ fun _ =>
  .say .snapshot ⟨transactionSql, some []⟩ fun _ =>
  .say .rows (.ofNumbered rows) fun items =>
  .say .count (.ofNumbered count) fun total =>
  .say .commit ⟨"COMMIT", none⟩ fun _ =>
  .finish ⟨items, total⟩

/-- what is sent of a dialogue, and how it ends -/
def converse (respond : (stage : Stage) → Response (stage.Given α)) :
    Dialogue α β → List Sent × Response β
  | .finish result => ([], .done result)
  | .say stage sent next =>
    match respond stage with
    | .done given =>
      (sent :: (converse respond (next given)).1, (converse respond (next given)).2)
    | .failed e => ([sent], .failed e)
    | .dropped => ([sent], .dropped)

end

namespace Server
variable {α : Type}

/-- statements sent for a batch, and the answer, absent if nobody waits for it -/
def fetch (s : Server α) (b : Batch) : List Sent × Option (Except ExecutorError (Rows α)) :=
  match numbered b.rowsSql b.parameters with
  | .error u => ([], some (.error (.unbound u)))
  | .ok rows =>
    match numbered b.countSql b.parameters with
    | .error u => ([], some (.error (.unbound u)))
    | .ok count =>
      match s.connect with
      | .failed e => ([], some (.error (.driver e)))
      | .dropped => ([], none)
      | .done () =>
        let (sent, ended) := converse s.respond (conversation rows count)
        (sent, ended.outcome)

/-- the server as an executor that is ready at once, or never -/
def executor (s : Server α) (b : Batch) : Reply α :=
  match (s.fetch b).2 with
  | some answer => ⟨some 0, answer⟩
  | none => ⟨none, .error (.driver .workerCrashed)⟩

/-- statements sent for the batches of a run -/
def wire (s : Server α) (batches : List Batch) : List Sent := batches.flatMap fun b => (s.fetch b).1

/-- a statement that only asks whether the server is there, and its answer -/
def checkHealth (s : Server α) : List Sent × Option (Except DriverError Unit) :=
  match s.connect with
  | .failed e => ([], some (.error e))
  | .dropped => ([], none)
  | .done () => ([⟨"SELECT 1", some []⟩], s.health.answer?)

/-- no connection can be had any more -/
def close (s : Server α) : Server α := { s with connect := .failed .poolClosed }

end Server

end PagedSql

import PagedSql.Server
import PagedSql.Settings

/-!
# Pages from a server

* `Service`           a server, and the time that a page may take;
* `Service.connect`   the service that settings describe: they are checked before anything is sent;
* `Service.ofServer`  a service over a server in use, without a time limit;
* `Service.listing`, `Service.joined`   the run of a request.
-/

namespace PagedSql

inductive ServiceError where
  | connection (e : DriverError)
  | settings (e : SettingsError)
  deriving DecidableEq, Repr

namespace ServiceError

/-- the text of the error, where all of it is this library's own -/
def message? : ServiceError → Option String
  | connection e => some ("Database connection error: " ++ e.message)
  | settings e => e.message?.map ("Configuration error: " ++ ·)

def source? : ServiceError → Option String
  | connection e => some e.message
  | settings e => e.message?

end ServiceError

structure Service (α : Type) where
  server : Server α
  /-- in milliseconds -/
  timeout : Option Nat

namespace Service
variable {α : Type}

def ofServer (server : Server α) : Service α := ⟨server, none⟩

/-- a connection that does not come up is given up by the pool -/
def connect (settings : Settings) (server : Server α) : Except ServiceError (Service α) :=
  match settings.check with
  | .error e => .error (.settings e)
  | .ok settings =>
    match server.connect with
    | .done () => .ok ⟨server, settings.paging.timeoutMillis?⟩
    | .failed e => .error (.connection e)
    | .dropped => .error (.connection .poolTimedOut)

def close (s : Service α) : Service α := { s with server := s.server.close }

/-- statements sent, and the answer -/
def checkHealth (s : Service α) : List Sent × Option (Except ServiceError Unit) :=
  let (sent, answer) := s.server.checkHealth
  (sent, answer.map fun a => a.mapError .connection)

def listing (s : Service α) (l : Listing) (r : Request) (cancel : Option Nat) : Report α :=
  l.run r ⟨s.timeout, cancel⟩ s.server.executor

def joined (s : Service α) (j : Joined) (r : Request) (cancel : Option Nat) : Report α :=
  j.run r ⟨s.timeout, cancel⟩ s.server.executor

theorem connect_of_fault {settings : Settings} {f : SettingsFault} (server : Server α)
    (h : settings.database.fault? = some f) :
    connect settings server = .error (.settings (.invalid (.fault f))) := by
  simp [connect, Settings.check, h]

end Service

end PagedSql

import PagedSql.Settings
import PagedSql.Toml.Readable
import PagedSql.Toml.Reading

/-!
# Settings in TOML

Settings are a table with the tables `database` and `pagination`, of which the second may be absent;
other keys are ignored, but the numbers under them must have values.  Each of the two may also be
written as an array of its settings, in order; what follows them is not looked at.  A date or a time
counts as a table without members.

* `Source`            where the settings of a table come from: members, or elements in order;
* `Settings.ofToml`   the settings of a document, if all that are needed are there and fit;
* `Settings.ofText`   the settings written in a text, checked.
-/

namespace PagedSql
open PagedSql.Toml

/-- a table of settings, under way: an array loses the elements that have been taken -/
inductive Source where
  | members (ms : Members)
  | elements (es : List Toml)

namespace Source

def ofToml : Toml → Option Source
  | .table _ ms => if membersReadable ms then some (members ms) else none
  | .array _ es => some (elements es)
  | .moment => some (members [])
  | _ => none

/-- the value of a setting, if it is there, and the source for the settings after it -/
def take (key : String) : Source → Option Toml × Source
  | members ms => (find? key ms, members ms)
  | elements [] => (none, elements [])
  | elements (e :: es) => (some e, elements es)

/-- a setting that has to be there -/
def need {α : Type} (read : Toml → Option α) (key : String) (s : Source) : Option (α × Source) :=
  match s.take key with
  | (some v, s) => (read v).map (·, s)
  | (none, _) => none

end Source

namespace Toml

def text? : Toml → Option String
  | text s => some s
  | _ => none

def natBelow? (bound : Nat) : Toml → Option Nat
  | integer n => if 0 ≤ n ∧ n < bound then some n.toNat else none
  | _ => none

def uint16? (v : Toml) : Option UInt16 := (natBelow? UInt16.size v).map UInt16.ofNat

def uint32? (v : Toml) : Option UInt32 := (natBelow? UInt32.size v).map UInt32.ofNat

def uint64? (v : Toml) : Option UInt64 := (natBelow? UInt64.size v).map UInt64.ofNat

end Toml

def DatabaseSettings.ofToml (v : Toml) : Option DatabaseSettings := do
  let s ← Source.ofToml v
  let (host, s) ← s.need Toml.text? "host"
  let (port, s) ← s.need Toml.uint16? "port"
  let (database, s) ← s.need Toml.text? "database"
  let (username, s) ← s.need Toml.text? "username"
  let (password, s) ← s.need Toml.text? "password"
  let (minConnections, s) ← s.need Toml.uint32? "min_connections"
  let (maxConnections, s) ← s.need Toml.uint32? "max_connections"
  let (connectionTimeout, s) ← s.need Toml.uint64? "connection_timeout_seconds"
  let (idleTimeout, s) ← s.need Toml.uint64? "idle_timeout_seconds"
  let (maxLifetime, _) ← s.need Toml.uint64? "max_lifetime_seconds"
  return ⟨host, port, database, username, password, minConnections, maxConnections, connectionTimeout,
    idleTimeout, maxLifetime⟩

def PagingSettings.ofToml (v : Toml) : Option PagingSettings := do
  let s ← Source.ofToml v
  match s.take "query_timeout_seconds" with
  | (none, _) => return default
  | (some v, _) => (Toml.uint64? v).map PagingSettings.mk

/-- the members of the document that are no settings -/
def otherMembers (ms : Members) : Members := ms.filter fun m => m.1 ≠ "database" && m.1 ≠ "pagination"

def Settings.ofToml (ms : Members) : Option Settings := do
  if !membersReadable (otherMembers ms) then none
  let database ← DatabaseSettings.ofToml (← find? "database" ms)
  match find? "pagination" ms with
  | none => return ⟨database, default⟩
  | some v => return ⟨database, ← PagingSettings.ofToml v⟩

def Settings.ofText (text : String) : Except SettingsError Settings :=
  match (Toml.read text).bind Settings.ofToml with
  | none => .error .malformed
  | some s => s.check

end PagedSql

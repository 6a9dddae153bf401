import PagedSql.Decimal.Integer

/-!
# Settings

* `DatabaseSettings`             how to reach the database, and the bounds of the connection pool;
* `DatabaseSettings.fault?`      the first setting that cannot be used;
* `DatabaseSettings.connection`  the connection string;
* `PagingSettings`               the time a page may take; zero stands for any time;
* `Settings`                     both.
-/

namespace PagedSql
open PagedSql.Decimal

/-- times are in seconds -/
structure DatabaseSettings where
  host : String
  port : UInt16
  database : String
  username : String
  password : String
  minConnections : UInt32
  maxConnections : UInt32
  connectionTimeout : UInt64
  idleTimeout : UInt64
  maxLifetime : UInt64
  deriving DecidableEq, Repr

inductive SettingsFault where
  | emptyHost
  | zeroPort
  | emptyDatabase
  | emptyUsername
  | noMinConnections
  | noMaxConnections
  | minAboveMax
  | noConnectionTimeout
  deriving DecidableEq, Repr

def SettingsFault.message : SettingsFault → String
  | .emptyHost => "Database host cannot be empty"
  | .zeroPort => "Database port cannot be zero"
  | .emptyDatabase => "Database name cannot be empty"
  | .emptyUsername => "Database username cannot be empty"
  | .noMinConnections => "Database min_connections must be greater than 0"
  | .noMaxConnections => "Database max_connections must be greater than 0"
  | .minAboveMax => "Database min_connections cannot be greater than max_connections"
  | .noConnectionTimeout => "Database connection_timeout_seconds must be greater than 0"

namespace DatabaseSettings

def fault? (s : DatabaseSettings) : Option SettingsFault :=
  if s.host = "" then some .emptyHost
  else if s.port = 0 then some .zeroPort
  else if s.database = "" then some .emptyDatabase
  else if s.username = "" then some .emptyUsername
  else if s.minConnections = 0 then some .noMinConnections
  else if s.maxConnections = 0 then some .noMaxConnections
  else if s.maxConnections < s.minConnections then some .minAboveMax
  else if s.connectionTimeout = 0 then some .noConnectionTimeout
  else none

/-- every part stands as it is, nothing is escaped -/
def connection (s : DatabaseSettings) : String :=
  "postgresql://" ++ s.username ++ ":" ++ s.password ++ "@" ++ s.host ++ ":" ++ natText s.port.toNat ++
    "/" ++ s.database

end DatabaseSettings

structure PagingSettings where
  queryTimeoutSeconds : UInt64
  deriving DecidableEq, Repr

instance : Inhabited PagingSettings := ⟨⟨30⟩⟩

namespace PagingSettings

/-- seconds, if there is a bound -/
def timeout? (s : PagingSettings) : Option UInt64 :=
  if s.queryTimeoutSeconds = 0 then none else some s.queryTimeoutSeconds

/-- the bound in milliseconds -/
def timeoutMillis? (s : PagingSettings) : Option Nat := s.timeout?.map fun n => n.toNat * 1000

end PagingSettings

structure Settings where
  database : DatabaseSettings
  paging : PagingSettings
  deriving DecidableEq, Repr

/-! ## why settings cannot be had -/

/-- what was found wanting: a setting, or the file that holds them -/
inductive Invalid where
  | fault (f : SettingsFault)
  | noFile
  deriving DecidableEq, Repr

def pathVariable : String := "PAGEFORGE_CONFIG"

def defaultPath : String := "./pageforge.toml"

def Invalid.message : Invalid → String
  | .fault f => f.message
  | .noFile =>
    "Config path must be specified in .env file as " ++ pathVariable ++ " or in " ++ defaultPath ++ " file"

inductive SettingsError where
  | unreadable
  | malformed
  | notText
  | malformedEnvironment
  | invalid (reason : Invalid)
  deriving DecidableEq, Repr

/-- the text of the error, where it is this library's own -/
def SettingsError.message? : SettingsError → Option String
  | .invalid reason => some ("Invalid configuration: " ++ reason.message)
  | _ => none

def Settings.check (s : Settings) : Except SettingsError Settings :=
  match s.database.fault? with
  | some f => .error (.invalid (.fault f))
  | none => .ok s

end PagedSql

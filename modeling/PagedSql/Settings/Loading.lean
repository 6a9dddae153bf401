import PagedSql.Environment.Reading
import PagedSql.Folder
import PagedSql.Settings.OfToml

/-!
# Where settings are found

The file `.env` may add variables to the environment.  One variable names the file that holds the
settings; without it the file has a fixed name.

* `Settings.ofFile`        the settings in a file;
* `Environment.complete`   the environment with the variables of `.env`, if there is such a file;
* `settingsPath`           the file that holds the settings;
* `Settings.load`          the three, one after the other, so that the first of them to fail counts.
-/

namespace PagedSql

def Settings.ofFile (f : Folder) (path : String) : Except SettingsError Settings :=
  match f.text? path with
  | none => .error .unreadable
  | some text => Settings.ofText text

/-- a folder of that name is no environment file -/
def Environment.complete (e : Environment) (f : Folder) : Except SettingsError Environment :=
  match f.bytes? ".env" with
  | none => .ok e
  | some bytes =>
    match (String.fromUTF8? bytes).bind e.extend with
    | none => .error .malformedEnvironment
    | some e => .ok e

def settingsPath (f : Folder) (e : Environment) : Except SettingsError String :=
  match e.find? pathVariable with
  | some (some path) => .ok path
  | some none => .error .notText
  | none => if (f.entry? defaultPath).isSome then .ok defaultPath else .error (.invalid .noFile)

def Settings.load (f : Folder) (e : Environment) : Except SettingsError Settings := do
  let e ← e.complete f
  Settings.ofFile f (← settingsPath f e)

theorem Settings.ofFile_of_text? {f : Folder} {path text : String} (h : f.text? path = some text) :
    Settings.ofFile f path = Settings.ofText text := by
  simp [Settings.ofFile, h]

end PagedSql

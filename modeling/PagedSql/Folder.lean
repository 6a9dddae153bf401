import PagedSql.Text.Split

/-!
# Files below a folder

* `Entry`            what a name may stand for: a file with its bytes, or a folder;
* `Folder`           files with the names that lead to them; every name but the last is a folder's;
* `Folder.walk`      where a path leads, one part after the other, from the folder itself;
* `longestPath`      how many bytes a path may have;
* `Folder.entry?`    what a path stands for;
* `Folder.text?`     the text of a file, if its bytes are one.

Nothing above the folder can be reached: a path that begins with a slash leads nowhere, and neither
does one that is empty or too long.
-/

namespace PagedSql

namespace Folder

inductive Entry where
  | file (bytes : ByteArray)
  | folder

end Folder

structure Folder where
  files : List (List String × ByteArray)

namespace Folder

/-- what stands under these names -/
def at? (f : Folder) (names : List String) : Option Entry :=
  match f.files.find? fun file => file.1 = names with
  | some (_, bytes) => some (.file bytes)
  | none =>
    if names = [] || f.files.any fun file => names.isPrefixOf file.1 then some .folder else none

/-- only folders can be passed through, even by a part that stays where it is -/
def walk (f : Folder) : List String → List String → Option (List String)
  | here, [] => some here
  | here, part :: parts =>
    match f.at? here with
    | some .folder =>
      if part = "" ∨ part = "." then f.walk here parts
      else if part = ".." then
        if here = [] then none else f.walk here.dropLast parts
      else f.walk (here ++ [part]) parts
    | _ => none

def longestPath : Nat := 4095

def entry? (f : Folder) (path : String) : Option Entry :=
  if path = "" ∨ path.toList.head? = some '/' ∨ longestPath < path.utf8ByteSize then none
  else (f.walk [] (Text.splitOn '/' path)).bind f.at?

def bytes? (f : Folder) (path : String) : Option ByteArray :=
  match f.entry? path with
  | some (.file bytes) => some bytes
  | _ => none

def text? (f : Folder) (path : String) : Option String := (f.bytes? path).bind String.fromUTF8?

end Folder

end PagedSql

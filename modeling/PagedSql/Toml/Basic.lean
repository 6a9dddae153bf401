/-!
# TOML values and tables

* `Toml`             a value, with the way in which each table and array came about;
* `Members.find?`    the value under a key;
* `openTable`        the table that a header `[a.b.c]` opens;
* `appendTable`      the same for a header `[[a.b.c]]`, which adds one more table to an array;
* `assign`           gives a dotted key its value.

A header may open a table once, and below tables that other headers or dotted keys have made.  A
dotted key may add to tables that dotted keys have made, to no other.
-/

namespace PagedSql

/-- how a table came about: written in braces, opened by a header, or made on the way to another by
a header or by a dotted key -/
inductive TableKind where
  | inline
  | opened
  | passed
  | dotted
  deriving DecidableEq, Repr

/-- an array of values, or of tables that headers have opened -/
inductive ArrayKind where
  | values
  | tables
  deriving DecidableEq, Repr

inductive Toml where
  | text (s : String)
  | integer (n : Int)
  | float
  /-- a number that is written in order and yet has no value: it fits no machine word, or has no
  digits, or other characters among them -/
  | unreadable
  | boolean (b : Bool)
  | moment
  | array (kind : ArrayKind) (elements : List Toml)
  | table (kind : TableKind) (members : List (String × Toml))

namespace Toml

abbrev Members := List (String × Toml)

def find? (key : String) : Members → Option Toml
  | [] => none
  | (k, v) :: rest => if k = key then some v else find? key rest

/-- the value under a key replaced, or a new one added at the end -/
def store (key : String) (value : Toml) : Members → Members
  | [] => [(key, value)]
  | (k, v) :: rest => if k = key then (key, value) :: rest else (k, v) :: store key value rest

theorem find?_store_self (key : String) (value : Toml) (ms : Members) :
    find? key (store key value ms) = some value := by
  induction ms with
  | nil => simp [store, find?]
  | cons m ms ih =>
    obtain ⟨k, v⟩ := m
    by_cases h : k = key
    · simp [store, find?, h]
    · simp [store, find?, h, ih]

/-- the last of the tables that headers have opened, changed -/
def changeLast (change : Members → Option Members) : List Toml → Option (List Toml)
  | [] => none
  | [.table kind members] => (change members).map fun changed => [.table kind changed]
  | [_] => none
  | e :: f :: rest => (changeLast change (f :: rest)).map (e :: ·)

/-- below a key on the path of a header: a table made there, or one that is there -/
def descend (change : Members → Option Members) (key : String) (ms : Members) : Option Members :=
  match find? key ms with
  | none => (change []).map fun made => store key (.table .passed made) ms
  | some (.table .inline _) => none
  | some (.table kind members) => (change members).map fun changed => store key (.table kind changed) ms
  | some (.array .tables elements) =>
    (changeLast change elements).map fun changed => store key (.array .tables changed) ms
  | some _ => none

/-- at the last key of a header; a table that headers have only passed through can still be opened -/
def openHere (key : String) (ms : Members) : Option Members :=
  match find? key ms with
  | none => some (store key (.table .opened []) ms)
  | some (.table .passed members) => some (store key (.table .opened members) ms)
  | some _ => none

def appendHere (key : String) (ms : Members) : Option Members :=
  match find? key ms with
  | none => some (store key (.array .tables [.table .opened []]) ms)
  | some (.array .tables elements) =>
    some (store key (.array .tables (elements ++ [.table .opened []])) ms)
  | some _ => none

/-- a change at the end of a path of keys -/
def along (change : Members → Option Members) : List String → Members → Option Members
  | [], ms => change ms
  | key :: keys, ms => descend (along change keys) key ms

/-- the keys before the last, and the last -/
def splitLast : List String → Option (List String × String)
  | [] => none
  | [key] => some ([], key)
  | key :: next :: keys => (splitLast (next :: keys)).map fun (front, last) => (key :: front, last)

def openTable (path : List String) (ms : Members) : Option Members :=
  match splitLast path with
  | none => none
  | some (front, last) => along (openHere last) front ms

def appendTable (path : List String) (ms : Members) : Option Members :=
  match splitLast path with
  | none => none
  | some (front, last) => along (appendHere last) front ms

/-- `mayEnd` tells whether the table at hand may receive the key itself: the one that a header has
opened, and those that dotted keys have made -/
def assignAt (value : Toml) (last : String) : List String → Bool → Members → Option Members
  | [], mayEnd, ms =>
    if mayEnd && (find? last ms).isNone then some (store last value ms) else none
  | key :: keys, _, ms =>
    match find? key ms with
    | none => (assignAt value last keys true []).map fun made => store key (.table .dotted made) ms
    | some (.table .dotted members) =>
      (assignAt value last keys true members).map fun changed => store key (.table .dotted changed) ms
    | some (.table .passed members) =>
      (assignAt value last keys false members).map fun changed => store key (.table .passed changed) ms
    | some (.array .tables elements) =>
      (changeLast (assignAt value last keys false) elements).map fun changed =>
        store key (.array .tables changed) ms
    | some _ => none

def assign (path : List String) (value : Toml) (ms : Members) : Option Members :=
  match splitLast path with
  | none => none
  | some (front, last) => assignAt value last front true ms

end Toml

end PagedSql

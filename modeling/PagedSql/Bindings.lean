import PagedSql.Value

/-!
# Named parameters

* `plainName`       a name without the `@` signs in front;
* `Bindings`        values under names, in the order in which the names first came;
* `Bindings.bind`   gives a name a value; a name that is there keeps its place;
* `Bindings.find?`  the value under a name, however many `@` signs it is written with.
-/

namespace PagedSql

def plainName (name : String) : String := String.ofList (name.toList.dropWhile (· = '@'))

theorem toList_plainName (name : String) :
    (plainName name).toList = name.toList.dropWhile (· = '@') := by
  simp [plainName]

structure Bindings where
  entries : List (String × Value)
  deriving DecidableEq

namespace Bindings

def empty : Bindings := ⟨[]⟩

/-! ## entries under plain names -/

/-- the value replaced where the name is, or the entry added at the end -/
def put (name : String) (value : Value) : List (String × Value) → List (String × Value)
  | [] => [(name, value)]
  | (n, v) :: rest => if n = name then (n, value) :: rest else (n, v) :: put name value rest

def look (name : String) : List (String × Value) → Option Value
  | [] => none
  | (n, v) :: rest => if n = name then some v else look name rest

theorem look_put_self (name : String) (value : Value) (es : List (String × Value)) :
    look name (put name value es) = some value := by
  induction es with
  | nil => simp [put, look]
  | cons e es ih =>
    obtain ⟨n, v⟩ := e
    by_cases h : n = name
    · simp [put, look, h]
    · simp [put, look, h, ih]

theorem look_put_ne {name other : String} (h : other ≠ name) (value : Value)
    (es : List (String × Value)) : look other (put name value es) = look other es := by
  induction es with
  | nil => simp [put, look, h.symm]
  | cons e es ih =>
    obtain ⟨n, v⟩ := e
    by_cases hn : n = name
    · subst hn
      simp [put, look, h.symm]
    · by_cases ho : n = other
      · subst ho
        simp [put, look, h]
      · simp [put, look, hn, ho, ih]

/-! ## operations -/

def bind (b : Bindings) (name : String) (value : Value) : Bindings :=
  ⟨put (plainName name) value b.entries⟩

def find? (b : Bindings) (name : String) : Option Value := look (plainName name) b.entries

def has (b : Bindings) (name : String) : Bool := (b.find? name).isSome

def names (b : Bindings) : List String := b.entries.map Prod.fst

def size (b : Bindings) : Nat := b.entries.length

def isEmpty (b : Bindings) : Bool := b.entries.isEmpty

def ofList (entries : List (String × Value)) : Bindings :=
  entries.foldl (fun b (name, value) => b.bind name value) empty

theorem find?_bind (b : Bindings) (name other : String) (value : Value) :
    (b.bind name value).find? other =
      if plainName other = plainName name then some value else b.find? other := by
  unfold bind find?
  split
  · next h => rw [h, look_put_self]
  · next h => rw [look_put_ne h]

end Bindings

end PagedSql

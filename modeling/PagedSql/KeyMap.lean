/-!
# Maps with texts as keys, in the order of the keys

* `KeyMap`         entries with increasing keys, compared character by character;
* `KeyMap.insert`  adds an entry in its place, or replaces the one with the same key;
* `KeyMap.find?`   the value under a key;
* `KeyMap.ofList`  the entries inserted one after the other, so that of equal keys the last counts.
-/

namespace PagedSql

structure KeyMap (β : Type) where
  entries : List (String × β)
  deriving DecidableEq, Repr

namespace KeyMap
variable {β : Type}

def empty : KeyMap β := ⟨[]⟩

/-! ## lists of entries -/

def place (key : String) (value : β) : List (String × β) → List (String × β)
  | [] => [(key, value)]
  | (k, v) :: rest =>
    if k = key then (key, value) :: rest
    else if key < k then (key, value) :: (k, v) :: rest
    else (k, v) :: place key value rest

def look (key : String) : List (String × β) → Option β
  | [] => none
  | (k, v) :: rest => if k = key then some v else look key rest

theorem look_place_self (key : String) (value : β) (es : List (String × β)) :
    look key (place key value es) = some value := by
  induction es with
  | nil => simp [place, look]
  | cons e es ih =>
    obtain ⟨k, v⟩ := e
    by_cases h : k = key
    · simp [place, look, h]
    · by_cases hlt : key < k
      · simp [place, look, h, hlt]
      · simp [place, look, h, hlt, ih]

theorem look_place_ne {key other : String} (h : other ≠ key) (value : β)
    (es : List (String × β)) : look other (place key value es) = look other es := by
  induction es with
  | nil => simp [place, look, h.symm]
  | cons e es ih =>
    obtain ⟨k, v⟩ := e
    by_cases hk : k = key
    · subst hk
      simp [place, look, h.symm]
    · by_cases hlt : key < k
      · simp [place, look, hk, hlt, h.symm]
      · by_cases ho : k = other
        · subst ho
          simp [place, look, hk, hlt]
        · simp [place, look, hk, hlt, ho, ih]

/-! ## maps -/

def insert (m : KeyMap β) (key : String) (value : β) : KeyMap β := ⟨place key value m.entries⟩

def insertAll (m : KeyMap β) (entries : List (String × β)) : KeyMap β :=
  entries.foldl (fun m (key, value) => m.insert key value) m

def ofList (entries : List (String × β)) : KeyMap β := empty.insertAll entries

def find? (m : KeyMap β) (key : String) : Option β := look key m.entries

def size (m : KeyMap β) : Nat := m.entries.length

def isEmpty (m : KeyMap β) : Bool := m.entries.isEmpty

theorem find?_empty (key : String) : (empty : KeyMap β).find? key = none := rfl

theorem find?_insert (m : KeyMap β) (key other : String) (value : β) :
    (m.insert key value).find? other = if other = key then some value else m.find? other := by
  unfold insert find?
  split
  · next h => rw [h, look_place_self]
  · next h => rw [look_place_ne h]

end KeyMap

end PagedSql

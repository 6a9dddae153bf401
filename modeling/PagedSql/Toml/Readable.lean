import PagedSql.Toml.Basic

/-!
# Numbers without a value

A number without a value may be written anywhere, but nothing that holds one can be read.

* `isReadable`                       every number in a value has a value;
* `areReadable`, `membersReadable`   the same for elements and members.
-/

namespace PagedSql.Toml

mutual

def isReadable : Toml → Bool
  | text _ => true
  | integer _ => true
  | float => true
  | unreadable => false
  | boolean _ => true
  | moment => true
  | array _ elements => areReadable elements
  | table _ members => membersReadable members

def areReadable : List Toml → Bool
  | [] => true
  | e :: es => isReadable e && areReadable es

def membersReadable : List (String × Toml) → Bool
  | [] => true
  | (_, v) :: ms => isReadable v && membersReadable ms

end

theorem areReadable_iff (es : List Toml) : areReadable es = true ↔ ∀ e ∈ es, isReadable e = true := by
  induction es with
  | nil => simp [areReadable]
  | cons e es ih => simp [areReadable, ih]

theorem membersReadable_iff (ms : Members) :
    membersReadable ms = true ↔ ∀ m ∈ ms, isReadable m.2 = true := by
  induction ms with
  | nil => simp [membersReadable]
  | cons m ms ih => simp [membersReadable, ih]

end PagedSql.Toml

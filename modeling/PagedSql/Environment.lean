import PagedSql.Text.Split

/-!
# Variables of the environment

An environment is a list of texts `name=value`, searched for a beginning `name=`.  A name that is asked
for may hold an equals sign itself: then its second part has to be the beginning of the value.

* `Variable`             a name and its value, which may be no text;
* `Variable.answer?`     the value that a variable has under a name, if any;
* `Environment`          variables, each name once;
* `Environment.find?`    the value under a name;
* `Environment.text?`    the value, if it is a text;
* `Environment.supply`   gives a variable a value unless it has a text already.
-/

namespace PagedSql

structure Variable where
  name : String
  /-- absent where the bytes of the value are no text -/
  value : Option String
  deriving DecidableEq, Repr

/-- what stands behind `name=` -/
def Variable.answer? (v : Variable) (name : String) : Option (Option String) :=
  match v.value with
  | none => if v.name = name then some none else none
  | some value =>
    (Text.after? (name.toList ++ ['=']) (v.name.toList ++ '=' :: value.toList)).map fun rest =>
      some (String.ofList rest)

theorem Variable.answer?_self (name : String) (value : Option String) :
    (Variable.mk name value).answer? name = some value := by
  cases value with
  | none => simp [answer?]
  | some value =>
    have h : name.toList ++ '=' :: value.toList = (name.toList ++ ['=']) ++ value.toList := by simp
    simp only [answer?]
    rw [h, Text.after?_append]
    simp

structure Environment where
  known : List Variable
  deriving DecidableEq, Repr

namespace Environment

def empty : Environment := ⟨[]⟩

def find? (e : Environment) (name : String) : Option (Option String) :=
  e.known.findSome? fun v => v.answer? name

def text? (e : Environment) (name : String) : Option String := (e.find? name).join

def supply (e : Environment) (name value : String) : Environment :=
  if (e.text? name).isSome then e
  else ⟨⟨name, some value⟩ :: e.known.filter fun v => v.name ≠ name⟩

theorem text?_supply_self (e : Environment) (name value : String) :
    (e.supply name value).text? name = some ((e.text? name).getD value) := by
  unfold supply
  split
  · next h =>
    obtain ⟨t, ht⟩ := Option.isSome_iff_exists.mp h
    simp [ht]
  · next h =>
    rw [Option.not_isSome_iff_eq_none] at h
    rw [h]
    simp [text?, find?, Variable.answer?_self]

end Environment

end PagedSql

import Mathlib.Data.List.Nodup
import PagedSql.Bindings

/-!
# Binding many names

A name that is bound again loses its value, so that what a list of entries does to the values that
were there depends on the names alone.

* `Bindings.bindAll`       the entries bound one after the other;
* `Distinct`               entries whose names are different from one another, signs in front aside;
* `find?_bindAll_of_notMem`, `find?_bindAll_of_mem`   the value of a name afterwards;
* `Binds`                  whether a name has a value;
* `bindAll_keeps_iff`      what was bound keeps its values exactly if no entry gives a name another one;
* `names_bindAll_congr`    which names are bound, and in which order, does not depend on the values.
-/

namespace PagedSql

theorem plainName_of_head {name : String} (h : name.toList.head? ≠ some '@') :
    plainName name = name := by
  have hdrop : name.toList.dropWhile (· = '@') = name.toList := by
    cases hn : name.toList with
    | nil => rfl
    | cons c cs =>
      have hc : c ≠ '@' := by
        rintro rfl
        exact h (by rw [hn]; rfl)
      rw [List.dropWhile_cons, if_neg (by simpa using hc)]
  rw [plainName, hdrop, String.ofList_toList]

namespace Bindings

theorem find?_congr (b : Bindings) {name other : String} (h : plainName name = plainName other) :
    b.find? name = b.find? other := by
  unfold find?
  rw [h]

def bindAll (b : Bindings) (es : List (String × Value)) : Bindings :=
  es.foldl (fun b (name, value) => b.bind name value) b

theorem bindAll_nil (b : Bindings) : b.bindAll [] = b := rfl
theorem bindAll_cons (b : Bindings) (e : String × Value) (es : List (String × Value)) :
    b.bindAll (e :: es) = (b.bind e.1 e.2).bindAll es := rfl
theorem bindAll_append (b : Bindings) (ds es : List (String × Value)) :
    b.bindAll (ds ++ es) = (b.bindAll ds).bindAll es := by
  simp [bindAll, List.foldl_append]

def Distinct (es : List (String × Value)) : Prop := (es.map fun e => plainName e.1).Nodup

/-- names without signs in front are distinct as they stand -/
theorem distinct_of_nodup {es : List (String × Value)} (h : (es.map Prod.fst).Nodup)
    (hhead : ∀ e ∈ es, e.1.toList.head? ≠ some '@') : Distinct es := by
  have hplain : ∀ e ∈ es, plainName e.1 = e.1 := fun e he => plainName_of_head (hhead e he)
  unfold Distinct
  rw [List.map_congr_left hplain]
  exact h

theorem find?_bindAll_of_notMem (b : Bindings) {es : List (String × Value)} {name : String}
    (h : ∀ e ∈ es, plainName e.1 ≠ plainName name) : (b.bindAll es).find? name = b.find? name := by
  induction es generalizing b with
  | nil => rfl
  | cons e es ih =>
    have he := h e List.mem_cons_self
    rw [bindAll_cons, ih _ fun d hd => h d (List.mem_cons_of_mem _ hd), find?_bind,
      if_neg he.symm]

theorem find?_bindAll_of_mem (b : Bindings) {es : List (String × Value)} (h : Distinct es)
    {e : String × Value} (he : e ∈ es) : (b.bindAll es).find? e.1 = some e.2 := by
  induction es generalizing b with
  | nil => exact absurd he List.not_mem_nil
  | cons d es ih =>
    unfold Distinct at h
    rw [List.map_cons, List.nodup_cons] at h
    rw [bindAll_cons]
    rcases List.mem_cons.mp he with rfl | he
    · rw [find?_bindAll_of_notMem, find?_bind, if_pos rfl]
      intro f hf hfe
      exact h.1 (hfe ▸ List.mem_map_of_mem (f := fun e : String × Value => plainName e.1) hf)
    · exact ih (b.bind d.1 d.2) h.2 he

theorem bindAll_keeps_iff (b : Bindings) {es : List (String × Value)} (h : Distinct es) :
    (∀ name value, b.find? name = some value → (b.bindAll es).find? name = some value) ↔
      ∀ e ∈ es, ∀ value, b.find? e.1 = some value → value = e.2 := by
  constructor
  · intro hkeep e he value hvalue
    have hafter := hkeep e.1 value hvalue
    rw [find?_bindAll_of_mem b h he] at hafter
    exact (Option.some.inj hafter).symm
  · intro hsame name value hvalue
    by_cases hname : ∃ e ∈ es, plainName e.1 = plainName name
    · obtain ⟨e, he, hen⟩ := hname
      rw [← find?_congr b hen] at hvalue
      rw [← find?_congr _ hen, find?_bindAll_of_mem b h he, hsame e he value hvalue]
    · rw [find?_bindAll_of_notMem b fun e he hen => hname ⟨e, he, hen⟩]
      exact hvalue

/-! ## names -/

theorem names_bind (b : Bindings) (name : String) (value : Value) :
    (b.bind name value).names =
      if plainName name ∈ b.names then b.names else b.names ++ [plainName name] := by
  obtain ⟨es⟩ := b
  show (put (plainName name) value es).map Prod.fst =
    if plainName name ∈ es.map Prod.fst then es.map Prod.fst else es.map Prod.fst ++ [plainName name]
  generalize plainName name = n
  induction es with
  | nil => rfl
  | cons e es ih =>
    obtain ⟨k, v⟩ := e
    unfold put
    by_cases hk : k = n
    · simp [hk]
    · have hmem : n ∈ k :: es.map Prod.fst ↔ n ∈ es.map Prod.fst := by
        rw [List.mem_cons]
        exact or_iff_right fun h => hk h.symm
      rw [if_neg hk, List.map_cons, List.map_cons, ih]
      simp only [hmem]
      split
      · rfl
      · rfl

theorem names_bindAll_congr {b b' : Bindings} (h : b.names = b'.names)
    {es es' : List (String × Value)} (hes : es.map Prod.fst = es'.map Prod.fst) :
    (b.bindAll es).names = (b'.bindAll es').names := by
  induction es generalizing b b' es' with
  | nil =>
    rw [List.map_eq_nil_iff.mp hes.symm]
    exact h
  | cons e es ih =>
    obtain ⟨e', rest, rfl⟩ := List.exists_cons_of_ne_nil (l := es') (by rintro rfl; cases hes)
    obtain ⟨hname, hrest⟩ := List.cons.inj hes
    have hfirst : (b.bind e.1 e.2).names = (b'.bind e'.1 e'.2).names := by
      rw [names_bind, names_bind, h, hname]
    exact ih hfirst hrest

/-! ## bound names -/

/-- the value under a name that has one -/
def value (b : Bindings) (n : List Char) : Value := (b.find? (String.ofList n)).getD .null

def Binds (b : Bindings) (n : List Char) : Prop := (b.find? (String.ofList n)).isSome = true

instance (b : Bindings) (n : List Char) : Decidable (b.Binds n) :=
  inferInstanceAs (Decidable (_ = true))

theorem find?_of_binds {b : Bindings} {n : List Char} (h : b.Binds n) :
    b.find? (String.ofList n) = some (b.value n) := by
  obtain ⟨v, hv⟩ := Option.isSome_iff_exists.mp h
  rw [value, hv]
  rfl

theorem Binds.bind {b : Bindings} {n : List Char} (h : b.Binds n) (name : String) (value : Value) :
    (b.bind name value).Binds n := by
  unfold Binds at h ⊢
  rw [find?_bind]
  split
  · rfl
  · exact h

theorem binds_bind_self (b : Bindings) (name : String) (value : Value) :
    (b.bind name value).Binds name.toList := by
  unfold Binds
  rw [String.ofList_toList, find?_bind, if_pos rfl]
  rfl

theorem Binds.bindAll {b : Bindings} {n : List Char} (h : b.Binds n) (es : List (String × Value)) :
    (b.bindAll es).Binds n := by
  induction es generalizing b with
  | nil => exact h
  | cons e es ih => exact ih (h.bind e.1 e.2)

theorem binds_bindAll (b : Bindings) {es : List (String × Value)} {name : String}
    (h : name ∈ es.map Prod.fst) : (b.bindAll es).Binds name.toList := by
  induction es generalizing b with
  | nil => exact absurd h List.not_mem_nil
  | cons e es ih =>
    rcases List.mem_cons.mp h with rfl | h
    · exact (b.binds_bind_self e.1 e.2).bindAll es
    · exact ih (b.bind e.1 e.2) h

end Bindings

end PagedSql

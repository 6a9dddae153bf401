import Mathlib.Data.List.Sort
import Mathlib.Data.String.Basic
import PagedSql.KeyMap

/-!
# Maps keep their keys in order

A map that is built by insertion alone lists its keys in strictly increasing order.  So what it lists is
settled by what is found in it: two such maps with the same keys list them alike.

* `keys`, `Ordered`             the keys of a map, strictly increasing;
* `Ordered.insert`, `Ordered.insertAll`, `ordered_ofList`   what is built by insertion is ordered;
* `Ordered.ofList_entries`      an ordered map is built again from what it lists;
* `isSome_find?`                a key is found exactly if it is listed;
* `Ordered.find?_of_mem`        an entry of an ordered map is found under its key;
* `find?_insertAll`             of entries that are inserted, the last under a key is the one found;
* `Ordered.findSome?_of_least`  of the entries that ask for something, the first has the least key;
* `Ordered.filter_congr`        the entries under some of the keys;
* `Ordered.keys_eq`             the keys that are found settle how they are listed;
* `filterMap_congr_of_keys`     entries with the same keys, taken over alike.
-/

namespace PagedSql
namespace KeyMap
variable {β : Type}

def keys (m : KeyMap β) : List String := m.entries.map Prod.fst

def Ordered (m : KeyMap β) : Prop := m.keys.Pairwise (· < ·)

theorem ordered_empty : (empty : KeyMap β).Ordered := List.Pairwise.nil

/-! ## insertion -/

theorem mem_keys_place {key other : String} {value : β} {es : List (String × β)} :
    other ∈ (place key value es).map Prod.fst ↔ other = key ∨ other ∈ es.map Prod.fst := by
  induction es with
  | nil => simp [place]
  | cons e es ih =>
    obtain ⟨k, v⟩ := e
    unfold place
    split
    · next hk =>
      subst hk
      simp
    · split
      · simp
      · simp only [List.map_cons, List.mem_cons, ih]
        tauto

theorem pairwise_place (key : String) (value : β) {es : List (String × β)}
    (h : (es.map Prod.fst).Pairwise (· < ·)) :
    ((place key value es).map Prod.fst).Pairwise (· < ·) := by
  induction es with
  | nil => exact List.pairwise_singleton _ key
  | cons e es ih =>
    obtain ⟨k, v⟩ := e
    obtain ⟨hfirst, hrest⟩ := List.pairwise_cons.mp h
    unfold place
    split
    · next hk =>
      subst hk
      exact List.pairwise_cons.mpr ⟨hfirst, hrest⟩
    · next hk =>
      split
      · next hlt =>
        refine List.pairwise_cons.mpr ⟨fun other hother => ?_, h⟩
        rcases List.mem_cons.mp hother with rfl | hother
        · exact hlt
        · exact String.lt_trans hlt (hfirst other hother)
      · next hlt =>
        have hbefore : k < key := lt_of_le_of_ne (not_lt.mp hlt) hk
        refine List.pairwise_cons.mpr ⟨fun other hother => ?_, ih hrest⟩
        rcases mem_keys_place.mp hother with rfl | hother
        · exact hbefore
        · exact hfirst other hother

theorem Ordered.insert {m : KeyMap β} (h : m.Ordered) (key : String) (value : β) :
    (m.insert key value).Ordered :=
  pairwise_place key value h

theorem Ordered.insertAll {m : KeyMap β} (h : m.Ordered) (entries : List (String × β)) :
    (m.insertAll entries).Ordered := by
  induction entries generalizing m with
  | nil => exact h
  | cons e entries ih => exact ih (h.insert e.1 e.2)

theorem ordered_ofList (entries : List (String × β)) : (ofList entries).Ordered :=
  ordered_empty.insertAll entries

/-- behind all keys of a map, an entry is put at its end -/
theorem place_of_last {key : String} {es : List (String × β)} (h : ∀ k ∈ es.map Prod.fst, k < key)
    (value : β) : place key value es = es ++ [(key, value)] := by
  induction es with
  | nil => rfl
  | cons e es ih =>
    obtain ⟨k, v⟩ := e
    have hk : k < key := h k List.mem_cons_self
    have hrest := ih fun other hother => h other (List.mem_cons_of_mem _ hother)
    rw [place, if_neg hk.ne, if_neg hk.asymm, hrest, List.cons_append]

theorem entries_insertAll {m : KeyMap β} {es : List (String × β)}
    (h : (m.keys ++ es.map Prod.fst).Pairwise (· < ·)) :
    (m.insertAll es).entries = m.entries ++ es := by
  induction es generalizing m with
  | nil => exact (List.append_nil _).symm
  | cons e es ih =>
    obtain ⟨key, value⟩ := e
    have hlast : ∀ k ∈ m.entries.map Prod.fst, k < key := fun k hk =>
      (List.pairwise_append.mp h).2.2 k hk key List.mem_cons_self
    have hentries : (m.insert key value).entries = m.entries ++ [(key, value)] :=
      place_of_last hlast value
    have hkeys : (m.insert key value).keys = m.keys ++ [key] := by
      rw [keys, hentries, List.map_append]
      rfl
    have hrest : ((m.insert key value).keys ++ es.map Prod.fst).Pairwise (· < ·) := by
      rw [hkeys, List.append_assoc]
      exact h
    show ((m.insert key value).insertAll es).entries = _
    rw [ih hrest, hentries, List.append_assoc, List.singleton_append]

/-- an ordered map is built again from what it lists -/
theorem Ordered.ofList_entries {m : KeyMap β} (h : m.Ordered) : ofList m.entries = m := by
  have hentries : (ofList m.entries).entries = m.entries := entries_insertAll (m := empty) h
  exact congrArg KeyMap.mk hentries

/-! ## what is found -/

theorem find?_insertAll (m : KeyMap β) (entries : List (String × β)) (key : String) :
    (m.insertAll entries).find? key = (entries.reverse.lookup key).or (m.find? key) := by
  induction entries generalizing m with
  | nil => rfl
  | cons e entries ih =>
    obtain ⟨k, v⟩ := e
    have hfirst : [(k, v)].lookup key = if key = k then some v else none := by
      by_cases h : key = k
      · subst h
        rw [List.lookup_cons_self, if_pos rfl]
      · have hne : (key == k) = false := beq_false_of_ne h
        rw [List.lookup_cons, hne, if_neg h]
        rfl
    show ((m.insert k v).insertAll entries).find? key = _
    rw [ih, find?_insert, List.reverse_cons, List.lookup_append, hfirst, Option.or_assoc]
    split <;> rfl

theorem find?_ofList (entries : List (String × β)) (key : String) :
    (ofList entries).find? key = entries.reverse.lookup key := by
  rw [ofList, find?_insertAll, find?_empty, Option.or_none]

theorem isSome_find? (m : KeyMap β) (key : String) : (m.find? key).isSome ↔ key ∈ m.keys := by
  obtain ⟨es⟩ := m
  show (look key es).isSome ↔ key ∈ es.map Prod.fst
  induction es with
  | nil => simp [look]
  | cons e es ih =>
    obtain ⟨k, v⟩ := e
    unfold look
    split
    · next hk => simp [hk]
    · next hk =>
      rw [ih, List.map_cons, List.mem_cons]
      exact (or_iff_right fun h => hk h.symm).symm

theorem Ordered.find?_of_mem {m : KeyMap β} (h : m.Ordered) {e : String × β} (he : e ∈ m.entries) :
    m.find? e.1 = some e.2 := by
  obtain ⟨es⟩ := m
  have hkeys : (es.map Prod.fst).Pairwise (· < ·) := h
  have hmem : e ∈ es := he
  show look e.1 es = some e.2
  clear h he
  induction es with
  | nil => exact absurd hmem List.not_mem_nil
  | cons d es ih =>
    obtain ⟨hfirst, hrest⟩ := List.pairwise_cons.mp hkeys
    unfold look
    rcases List.mem_cons.mp hmem with rfl | hmem
    · rw [if_pos rfl]
    · have hlt := hfirst e.1 (List.mem_map_of_mem hmem)
      have hne : d.1 ≠ e.1 := hlt.ne
      rw [if_neg hne]
      exact ih hrest hmem

theorem mem_of_find? {m : KeyMap β} {key : String} {value : β} (h : m.find? key = some value) :
    (key, value) ∈ m.entries := by
  obtain ⟨es⟩ := m
  unfold find? at h
  dsimp only at h ⊢
  induction es with
  | nil => cases h
  | cons e es ih =>
    obtain ⟨k, v⟩ := e
    unfold look at h
    split at h
    · next hk =>
      rw [hk, Option.some.inj h]
      exact List.mem_cons_self
    · exact List.mem_cons_of_mem _ (ih h)

theorem Ordered.mem_iff {m : KeyMap β} (h : m.Ordered) {e : String × β} :
    e ∈ m.entries ↔ m.find? e.1 = some e.2 :=
  ⟨h.find?_of_mem, mem_of_find?⟩

theorem Ordered.pairwise {m : KeyMap β} (h : m.Ordered) :
    m.entries.Pairwise fun d e => d.1 < e.1 :=
  List.pairwise_map.mp h

/-- what is done for the first entry that asks for it is done for the least key that does -/
theorem Ordered.findSome?_of_least {γ : Type} {m : KeyMap β} (h : m.Ordered)
    {f : String × β → Option γ} {key : String} {value : β} {c : γ} (hfind : m.find? key = some value)
    (hf : f (key, value) = some c)
    (hleast : ∀ other v, m.find? other = some v → f (other, v) ≠ none → key ≤ other) :
    m.entries.findSome? f = some c := by
  obtain ⟨before, after, hsplit⟩ := List.append_of_mem (mem_of_find? hfind)
  refine List.findSome?_eq_some_iff.mpr ⟨before, _, after, hsplit, hf, fun e he => ?_⟩
  have hpairwise := h.pairwise
  rw [hsplit] at hpairwise
  have hlt : e.1 < key := (List.pairwise_append.mp hpairwise).2.2 e he _ List.mem_cons_self
  have hmem : e ∈ m.entries := hsplit ▸ List.mem_append_left _ he
  by_contra hsome
  exact not_lt.mpr (hleast e.1 e.2 (h.find?_of_mem hmem) hsome) hlt

/-- maps that agree on some keys list the entries under them alike -/
theorem Ordered.filter_congr {m m' : KeyMap β} (h : m.Ordered) (h' : m'.Ordered) {p : String → Bool}
    (hp : ∀ key, p key = true → m.find? key = m'.find? key) :
    m.entries.filter (fun e => p e.1) = m'.entries.filter fun e => p e.1 := by
  have : Std.Irrefl fun d e : String × β => d.1 < e.1 := ⟨fun e => lt_irrefl e.1⟩
  have : Std.Antisymm fun d e : String × β => d.1 < e.1 :=
    ⟨fun d e hde hed => absurd hed hde.asymm⟩
  refine (h.pairwise.filter _).eq_of_mem_iff (h'.pairwise.filter _) fun e => ?_
  rw [List.mem_filter, List.mem_filter, h.mem_iff, h'.mem_iff]
  exact and_congr_left fun hkey => by rw [hp e.1 hkey]

theorem Ordered.keys_eq {m m' : KeyMap β} (h : m.Ordered) (h' : m'.Ordered)
    (hkeys : ∀ key, (m.find? key).isSome = (m'.find? key).isSome) : m.keys = m'.keys := by
  refine List.Pairwise.eq_of_mem_iff h h' fun key => ?_
  rw [← isSome_find?, ← isSome_find?, hkeys key]

theorem filterMap_congr_of_keys {γ : Type} {f : String × β → Option γ} {es es' : List (String × β)}
    (hkeys : es.map Prod.fst = es'.map Prod.fst)
    (h : ∀ e ∈ es, ∀ e' ∈ es', e.1 = e'.1 → f e = f e') : es.filterMap f = es'.filterMap f := by
  induction es generalizing es' with
  | nil => rw [List.map_eq_nil_iff.mp hkeys.symm]
  | cons e es ih =>
    obtain ⟨e', rest, rfl⟩ := List.exists_cons_of_ne_nil (l := es') (by rintro rfl; cases hkeys)
    obtain ⟨hkey, hrest⟩ := List.cons.inj hkeys
    have hfirst := h e List.mem_cons_self e' List.mem_cons_self hkey
    have hlater := ih hrest fun d hd d' hd' =>
      h d (List.mem_cons_of_mem _ hd) d' (List.mem_cons_of_mem _ hd')
    rw [List.filterMap_cons, List.filterMap_cons, hfirst, hlater]

end KeyMap
end PagedSql

import PagedSql.Value.Kind
import PagedSql.Proofs.Decimal.Whole

/-!
# What a text of a kind can stand for

* `Kind.Admits`        the values of a kind: of its own sort, none of them missing, and numbers finite;
* `finite_of_readBinary64`   a number that is read is finite;
* `Kind.admits_of_read`      what is read of a kind is a value of the kind.
-/

namespace PagedSql
open PagedSql.Text PagedSql.Decimal

/-- a text whose kind is not declared is a boolean, a number, or text -/
def Kind.Admits : Kind → Value → Prop
  | .text, .text _ => True
  | .integer, .int _ => True
  | .float, .float x => x.IsFinite
  | .boolean, .bool _ => True
  | .date, .date _ => True
  | .timestamp, .timestamp _ => True
  | .inferred, .bool _ => True
  | .inferred, .int _ => True
  | .inferred, .float x => x.IsFinite
  | .inferred, .text _ => True
  | _, _ => False

theorem Kind.Admits.ne_null {k : Kind} {v : Value} (h : k.Admits v) : v ≠ .null := by
  rintro rfl
  cases k <;> exact h

/-! ## finite numbers -/

theorem finite_round {d : Numeral} {x : Binary64} (h : d.round = some x) : x.IsFinite := by
  simp only [Numeral.round] at h
  split at h
  · cases h
    exact Binary64.isFinite_ofCode d.negative (by decide)
  · split at h
    · cases h
    · split at h
      · next hcode =>
        cases h
        exact Binary64.isFinite_ofCode d.negative hcode
      · cases h

theorem finite_of_readBinary64 {s : String} {x : Binary64} (h : readBinary64 s = some x) :
    x.IsFinite := by
  obtain ⟨d, _, hd⟩ := Option.bind_eq_some_iff.mp h
  exact finite_round hd

/-! ## kinds -/

theorem admits_infer {raw : String} {v : Value} (h : Value.infer raw = v) :
    Kind.inferred.Admits v := by
  unfold Value.infer at h
  dsimp only at h
  split at h
  · subst h
    exact True.intro
  · split at h
    · subst h
      exact True.intro
    · split at h
      · subst h
        exact True.intro
      · split at h
        · next x hx =>
          subst h
          exact finite_of_readBinary64 hx
        · subst h
          exact True.intro

theorem Kind.admits_of_read {k : Kind} {raw : String} {v : Value} (h : k.read raw = some v) :
    k.Admits v := by
  cases k with
  | text =>
    rw [Kind.read_text] at h
    obtain rfl := Option.some.inj h
    exact True.intro
  | inferred =>
    rw [Kind.read_inferred] at h
    exact admits_infer (Option.some.inj h)
  | integer =>
    simp only [Kind.read] at h
    obtain ⟨n, _, rfl⟩ := Option.map_eq_some_iff.mp h
    exact True.intro
  | float =>
    simp only [Kind.read] at h
    obtain ⟨x, hx, rfl⟩ := Option.map_eq_some_iff.mp h
    exact finite_of_readBinary64 hx
  | boolean =>
    simp only [Kind.read] at h
    obtain ⟨b, _, rfl⟩ := Option.map_eq_some_iff.mp h
    exact True.intro
  | date =>
    simp only [Kind.read] at h
    obtain ⟨d, _, rfl⟩ := Option.map_eq_some_iff.mp h
    exact True.intro
  | timestamp =>
    simp only [Kind.read] at h
    obtain ⟨t, _, rfl⟩ := Option.map_eq_some_iff.mp h
    exact True.intro

end PagedSql

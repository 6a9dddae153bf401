import PagedSql.Filter.Column
import PagedSql.Proofs.Filter.Condition
import PagedSql.Proofs.Filter.Form
import PagedSql.Proofs.Positional.Conditions
import PagedSql.Proofs.Value.Kind

/-!
# What an operator takes and what it refuses

A filter gives an operator a text.  The operator takes the text apart and reads every part as a value;
which parts these are depends on the text alone, and whether they can be read on the kind of the column.

* `Operator.operands`     the texts that an operator reads, `Operator.operandKind` their kind;
* `Operator.Fits`         texts with the number of parts that the operator asks for;
* `Operator.Takes`, `Operator.Refuses`   the values that come of a text, and the texts no value comes of;
* `Operator.read_eq_ok`   operators go by their names;
* `Test.takes_of_ofFilter`, `Test.ofFilter_refused_iff`   filters are read so;
* `Form.names`, `Form.sql`   the names in a form, and its text behind the column;
* `Test.condition_eq_sql`, `Test.parameters_eq_zip`   condition and parameters of a test, by its form.
-/

namespace PagedSql
open PagedSql.Text PagedSql.Decimal

/-! ## operands -/

namespace Operator

/-- the parts of a text that an operator reads; blank parts of a list do not count -/
def operands (raw : String) : Operator → List String
  | contains => ["%" ++ raw ++ "%"]
  | startsWith => [raw ++ "%"]
  | endsWith => ["%" ++ raw]
  | isIn => (listed raw).filter (· ≠ "")
  | notIn => (listed raw).filter (· ≠ "")
  | isNull => []
  | isNotNull => []
  | between => listed raw
  | _ => [raw]

/-- a pattern is text, whatever the column holds -/
def operandKind (kind : Kind) : Operator → Kind
  | contains => .text
  | startsWith => .text
  | endsWith => .text
  | _ => kind

/-- a list has an entry that is not blank, a range exactly two parts and neither of them blank -/
def Fits (op : Operator) (raw : String) : Prop :=
  (op.isList = true → ∃ part ∈ listed raw, part ≠ "") ∧
    (op = between → (listed raw).length = 2 ∧ ∀ part ∈ listed raw, part ≠ "")

instance (op : Operator) (raw : String) : Decidable (op.Fits raw) :=
  inferInstanceAs (Decidable (_ ∧ _))

theorem fits_single {op : Operator} {raw : String} (hlist : op.isList = false) (hrange : op ≠ between) :
    op.Fits raw :=
  ⟨fun h => absurd h (by rw [hlist]; decide), fun h => absurd h hrange⟩

/-- every operand read, in the order of the operands -/
structure Takes (op : Operator) (kind : Kind) (raw : String) (values : List Value) : Prop where
  fits : op.Fits raw
  reads : (op.operands raw).map (op.operandKind kind).read = values.map some

def Refuses (op : Operator) (kind : Kind) (raw : String) : Prop :=
  ¬ op.Fits raw ∨ ∃ part ∈ op.operands raw, (op.operandKind kind).read part = none

instance (op : Operator) (kind : Kind) (raw : String) : Decidable (op.Refuses kind raw) :=
  inferInstanceAs (Decidable (_ ∨ _))

theorem Takes.not_refuses {op : Operator} {kind : Kind} {raw : String} {values : List Value}
    (h : op.Takes kind raw values) : ¬ op.Refuses kind raw := by
  rintro (hfits | ⟨part, hpart, hnone⟩)
  · exact hfits h.fits
  · have hmem : none ∈ (op.operands raw).map (op.operandKind kind).read :=
      hnone ▸ List.mem_map_of_mem hpart
    rw [h.reads] at hmem
    obtain ⟨v, _, hv⟩ := List.mem_map.mp hmem
    cases hv

/-- values that are taken are values of their kind -/
theorem Takes.admits {op : Operator} {kind : Kind} {raw : String} {values : List Value}
    (h : op.Takes kind raw values) : ∀ v ∈ values, (op.operandKind kind).Admits v := by
  intro v hv
  have hmem : some v ∈ (op.operands raw).map (op.operandKind kind).read :=
    h.reads ▸ List.mem_map_of_mem hv
  obtain ⟨part, _, hpart⟩ := List.mem_map.mp hmem
  exact Kind.admits_of_read hpart

/-! ## names of operators -/

theorem read_eq_ok {token : String} {op : Operator} :
    read token = .ok op ↔ op.name = lowerAscii (trim token) := by
  unfold read
  cases hfound : all.find? fun op => op.name = lowerAscii (trim token) with
  | none =>
    have hnone := List.find?_eq_none.mp hfound op op.mem_all
    exact ⟨fun h => (by cases h), fun h => absurd (decide_eq_true h) hnone⟩
  | some found =>
    have hname := List.find?_some hfound
    rw [decide_eq_true_eq] at hname
    constructor
    · intro h
      rw [← Except.ok.inj h]
      exact hname
    · intro h
      rw [name_injective (h.trans hname.symm)]

theorem read_eq_error {token : String} {e : FilterError} :
    read token = .error e ↔
      (∀ op : Operator, op.name ≠ lowerAscii (trim token)) ∧ e = .unsupportedOperator token := by
  constructor
  · intro h
    refine ⟨fun op hop => ?_, ?_⟩
    · rw [read_eq_ok.mpr hop] at h
      cases h
    · unfold read at h
      split at h
      · cases h
      · exact (Except.error.inj h).symm
  · rintro ⟨hnone, rfl⟩
    cases hread : read token with
    | ok op => exact absurd (read_eq_ok.mp hread) (hnone op)
    | error e =>
      unfold read at hread
      split at hread
      · cases hread
      · rw [← Except.error.inj hread]

end Operator

/-! ## filters -/

def Test.values : Test → List Value
  | compare _ v => [v]
  | pattern text => [.text text]
  | oneOf _ vs => vs
  | missing _ => []
  | range low high => [low, high]

section
variable {kind : Kind} {raw : String} {test : Test}

theorem convert_eq_error {e : FilterError} (h : convert kind raw = .error e) :
    kind.read raw = none := by
  unfold convert at h
  split at h
  · cases h
  · assumption

/-- a list is refused for one of its entries -/
theorem convertAll_eq_error {raws : List String} {e : FilterError}
    (h : convertAll kind raws = .error e) : ∃ raw ∈ raws, kind.read raw = none := by
  induction raws with
  | nil => cases h
  | cons raw raws ih =>
    unfold convertAll at h
    split at h
    · next e' he => exact ⟨raw, List.mem_cons_self, convert_eq_error he⟩
    · split at h
      · next e' hrest =>
        cases h
        obtain ⟨late, hlate, hnone⟩ := ih hrest
        exact ⟨late, List.mem_cons_of_mem _ hlate, hnone⟩
      · cases h

/-- a range has two parts that are not blank, or it is refused for its parts -/
theorem fits_range {low high : String} (hparts : listed raw = [low, high])
    (h : ¬ (low = "" ∨ high = "")) : Operator.between.Fits raw := by
  obtain ⟨hlow, hhigh⟩ := not_or.mp h
  refine ⟨fun hlist => (by cases hlist), fun _ => ?_⟩
  rw [hparts]
  refine ⟨rfl, fun part hpart => ?_⟩
  rcases List.mem_cons.mp hpart with rfl | hpart
  · exact hlow
  · rw [List.mem_singleton.mp hpart]
    exact hhigh

theorem fits_list {op : Operator} (hop : op ≠ .between)
    (h : ¬ (listed raw).filter (· ≠ "") = []) : op.Fits raw := by
  refine ⟨fun _ => ?_, fun hrange => absurd hrange hop⟩
  obtain ⟨part, hpart⟩ := List.exists_mem_of_ne_nil _ h
  rw [List.mem_filter, decide_eq_true_eq] at hpart
  exact ⟨part, hpart⟩

namespace Test

theorem takes_of_ofComparison {c : Comparison} (h : ofComparison c kind raw = .ok test) :
    [raw].map kind.read = test.values.map some := by
  unfold ofComparison at h
  split at h
  · cases h
  · next v hv =>
    cases h
    exact congrArg (fun v => [v]) (convert_eq_ok hv)

theorem takes_of_ofList {op : Operator} {positive : Bool} (h : ofList op positive kind raw = .ok test) :
    ¬ (listed raw).filter (· ≠ "") = [] ∧
      ((listed raw).filter (· ≠ "")).map kind.read = test.values.map some := by
  unfold ofList at h
  dsimp only at h
  split at h
  · cases h
  · next hsome =>
    split at h
    · cases h
    · next vs hvs =>
      cases h
      exact ⟨hsome, reads_of_convertAll hvs⟩

theorem takes_of_ofRange (h : ofRange kind raw = .ok test) :
    Operator.between.Fits raw ∧ (listed raw).map kind.read = test.values.map some := by
  unfold ofRange at h
  split at h
  · next low high hparts =>
    split at h
    · cases h
    · next hsome =>
      split at h
      · cases h
      · next lo hlo =>
        split at h
        · cases h
        · next hi hhi =>
          cases h
          refine ⟨fits_range hparts hsome, ?_⟩
          rw [hparts, List.map_cons, List.map_singleton, convert_eq_ok hlo, convert_eq_ok hhi]
          rfl
  · cases h

/-- what is read of a filter is every operand, at the kind of the operand -/
theorem takes_of_ofFilter {op : Operator} (h : ofFilter op kind raw = .ok test) :
    op.Takes kind raw test.values := by
  cases op with
  | eq => exact ⟨Operator.fits_single rfl (by decide), takes_of_ofComparison h⟩
  | neq => exact ⟨Operator.fits_single rfl (by decide), takes_of_ofComparison h⟩
  | gt => exact ⟨Operator.fits_single rfl (by decide), takes_of_ofComparison h⟩
  | gte => exact ⟨Operator.fits_single rfl (by decide), takes_of_ofComparison h⟩
  | lt => exact ⟨Operator.fits_single rfl (by decide), takes_of_ofComparison h⟩
  | lte => exact ⟨Operator.fits_single rfl (by decide), takes_of_ofComparison h⟩
  | contains =>
    cases h
    exact ⟨Operator.fits_single rfl (by decide), rfl⟩
  | startsWith =>
    cases h
    exact ⟨Operator.fits_single rfl (by decide), rfl⟩
  | endsWith =>
    cases h
    exact ⟨Operator.fits_single rfl (by decide), rfl⟩
  | isIn =>
    obtain ⟨hsome, hreads⟩ := takes_of_ofList h
    exact ⟨fits_list (by decide) hsome, hreads⟩
  | notIn =>
    obtain ⟨hsome, hreads⟩ := takes_of_ofList h
    exact ⟨fits_list (by decide) hsome, hreads⟩
  | isNull =>
    cases h
    exact ⟨Operator.fits_single rfl (by decide), rfl⟩
  | isNotNull =>
    cases h
    exact ⟨Operator.fits_single rfl (by decide), rfl⟩
  | between =>
    obtain ⟨hfits, hreads⟩ := takes_of_ofRange h
    exact ⟨hfits, hreads⟩

/-! ### refusals -/

theorem refused_of_ofComparison {c : Comparison} {e : FilterError}
    (h : ofComparison c kind raw = .error e) : ∃ part ∈ [raw], kind.read part = none := by
  unfold ofComparison at h
  split at h
  · next e' he => exact ⟨raw, List.mem_cons_self, convert_eq_error he⟩
  · cases h

theorem refused_of_ofList {op : Operator} (hop : op.isList = true) {positive : Bool} {e : FilterError}
    (h : ofList op positive kind raw = .error e) :
    ¬ op.Fits raw ∨ ∃ part ∈ (listed raw).filter (· ≠ ""), kind.read part = none := by
  unfold ofList at h
  dsimp only at h
  split at h
  · next hnone =>
    refine Or.inl fun hfits => ?_
    obtain ⟨part, hpart, hne⟩ := hfits.1 hop
    have hmem : part ∈ (listed raw).filter (· ≠ "") :=
      List.mem_filter.mpr ⟨hpart, decide_eq_true hne⟩
    rw [hnone] at hmem
    exact absurd hmem List.not_mem_nil
  · split at h
    · next e' he => exact Or.inr (convertAll_eq_error he)
    · cases h

theorem refused_of_ofRange {e : FilterError} (h : ofRange kind raw = .error e) :
    ¬ Operator.between.Fits raw ∨ ∃ part ∈ listed raw, kind.read part = none := by
  unfold ofRange at h
  split at h
  · next low high hparts =>
    have hlow : low ∈ listed raw := hparts ▸ List.mem_cons_self
    have hhigh : high ∈ listed raw := hparts ▸ List.mem_cons_of_mem _ List.mem_cons_self
    split at h
    · next hblank =>
      refine Or.inl fun hfits => ?_
      rcases hblank with hblank | hblank
      · exact (hfits.2 rfl).2 low hlow hblank
      · exact (hfits.2 rfl).2 high hhigh hblank
    · split at h
      · next e' he => exact Or.inr ⟨low, hlow, convert_eq_error he⟩
      · split at h
        · next e' he => exact Or.inr ⟨high, hhigh, convert_eq_error he⟩
        · cases h
  · next hparts =>
    refine Or.inl fun hfits => ?_
    obtain ⟨low, high, htwo⟩ := List.length_eq_two.mp (hfits.2 rfl).1
    exact hparts low high htwo

theorem refuses_of_ofFilter {op : Operator} {e : FilterError}
    (h : ofFilter op kind raw = .error e) : op.Refuses kind raw := by
  cases op with
  | eq => exact Or.inr (refused_of_ofComparison h)
  | neq => exact Or.inr (refused_of_ofComparison h)
  | gt => exact Or.inr (refused_of_ofComparison h)
  | gte => exact Or.inr (refused_of_ofComparison h)
  | lt => exact Or.inr (refused_of_ofComparison h)
  | lte => exact Or.inr (refused_of_ofComparison h)
  | isIn => exact refused_of_ofList rfl h
  | notIn => exact refused_of_ofList rfl h
  | between => exact refused_of_ofRange h
  | contains => cases h
  | startsWith => cases h
  | endsWith => cases h
  | isNull => cases h
  | isNotNull => cases h

theorem ofFilter_refused_iff (op : Operator) (kind : Kind) (raw : String) :
    (∃ e, ofFilter op kind raw = .error e) ↔ op.Refuses kind raw := by
  constructor
  · rintro ⟨e, he⟩
    exact refuses_of_ofFilter he
  · intro hrefuses
    cases hread : ofFilter op kind raw with
    | error e => exact ⟨e, rfl⟩
    | ok test => exact absurd hrefuses (takes_of_ofFilter hread).not_refuses

/-- the values that were taken tell the form -/
theorem form_of_takes {op : Operator} (h : ofFilter op kind raw = .ok test) :
    test.form = op.form test.values.length := by
  rw [form_of_ofFilter h]
  refine Operator.form_congr fun hlist => ?_
  have hlength := congrArg List.length (takes_of_ofFilter h).reads
  rw [List.length_map, List.length_map] at hlength
  rw [← hlength]
  cases op with
  | isIn => rfl
  | notIn => rfl
  | _ => cases hlist

end Test
end

/-! ## names and text of a form -/

namespace Form

def names (base : String) : Form → List String
  | compare _ => [base]
  | pattern => [base]
  | oneOf _ count => (List.range count).map fun i => base ++ "_" ++ natText i
  | missing _ => []
  | range => [base ++ "_from", base ++ "_to"]

/-- what stands behind the column -/
def sql (base : String) : Form → String
  | compare c => c.sql ++ " @" ++ base
  | pattern => "LIKE @" ++ base
  | oneOf positive count =>
    (if positive then "IN (" else "NOT IN (") ++
      join ", " ((List.range count).map fun i => "@" ++ (base ++ "_" ++ natText i)) ++ ")"
  | missing positive => if positive then "IS NULL" else "IS NOT NULL"
  | range => "BETWEEN @" ++ base ++ "_from AND @" ++ base ++ "_to"

/-- the number that goes into the names is used up, unless there are no names -/
def used : Form → Nat
  | missing _ => 0
  | _ => 1

end Form

section
variable (base column : String) (test : Test)

namespace Test

theorem fst_parameters : (test.parameters base).map Prod.fst = test.form.names base := by
  cases test with
  | compare c v => rfl
  | pattern text => rfl
  | oneOf positive vs =>
    rw [parameters, map_fst_numberedFrom, ← List.range_eq_range']
    rfl
  | missing positive => rfl
  | range low high => rfl

theorem snd_parameters : (test.parameters base).map Prod.snd = test.values := by
  cases test with
  | compare c v => rfl
  | pattern text => rfl
  | oneOf positive vs => exact map_snd_numberedFrom base 0 vs
  | missing positive => rfl
  | range low high => rfl

theorem parameters_eq_zip : test.parameters base = (test.form.names base).zip test.values :=
  List.zip_of_prod (test.fst_parameters base) (test.snd_parameters base)

theorem length_names : (test.form.names base).length = test.values.length := by
  rw [← test.fst_parameters base, ← test.snd_parameters base, List.length_map, List.length_map]

theorem condition_eq_sql : test.condition base column = column ++ " " ++ test.form.sql base := by
  cases test with
  | compare c v => simp only [condition, Form.sql, form, String.append_assoc]
  | pattern text =>
    rw [condition, show " LIKE @" = " " ++ "LIKE @" by decide]
    simp only [Form.sql, form, String.append_assoc]
  | oneOf positive vs =>
    have hnames : ((numberedFrom base 0 vs).map fun e => "@" ++ e.1) =
        (List.range vs.length).map fun i => "@" ++ (base ++ "_" ++ natText i) := by
      rw [map_mark, map_fst_numberedFrom, ← List.range_eq_range', List.map_map]
      rfl
    have hword : (if positive then " IN (" else " NOT IN (") =
        " " ++ (if positive then "IN (" else "NOT IN (") := by cases positive <;> decide
    show column ++ _ ++ join ", " ((numberedFrom base 0 vs).map fun e => "@" ++ e.1) ++ ")" = _
    rw [hnames, hword]
    simp only [Form.sql, form, String.append_assoc]
  | missing positive =>
    have hword : (if positive then " IS NULL" else " IS NOT NULL") =
        " " ++ (if positive then "IS NULL" else "IS NOT NULL") := by cases positive <;> decide
    rw [condition, hword, String.append_assoc]
    rfl
  | range low high =>
    rw [condition, show " BETWEEN @" = " " ++ "BETWEEN @" by decide]
    simp only [Form.sql, form, String.append_assoc]

theorem used_eq : (if test.needsName then 1 else 0) = test.form.used := by
  cases test <;> rfl

end Test
end

end PagedSql

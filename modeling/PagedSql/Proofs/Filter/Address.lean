import PagedSql.Query.Step
import PagedSql.Proofs.Filter.Operands

/-!
# Filters by key and operator

A filter names a public key, and an operator behind the mark `__`.  The first mark in the raw key ends
the key, and between a key and the mark behind it no other may begin: a key that holds a mark, or ends in
the `_` that opens one, cannot be told from what was put behind it.

* `cutChars_append`        text is cut where it was joined, if no separator begins earlier;
* `splitKey_unmarked`, `splitKey_append`   a raw key gives its key and its operator back;
* `trim_token`, `read_token`   operators in capital letters;
* `unmarked_append`        the keys that can stand in front of a mark;
* `Query.ask`              an operator laid on a column, no key in between;
* `run_filter_of_splitKey`, `run_filter_of_unsupported`   the step of a filter from its two parts;
* `filter_addressed_by_key`   which column and which operator a raw key stands for.
-/

namespace PagedSql
open PagedSql.Text

/-! ## cutting and joining -/

namespace Text

theorem cutChars_of_after? {sep cs rest : List Char} (h : after? sep cs = some rest) :
    cutChars sep cs = some ([], rest) := by
  cases cs with
  | nil =>
    unfold cutChars
    rw [h]
    rfl
  | cons c cs =>
    unfold cutChars
    rw [h]

theorem after?_eq_none {sep cs : List Char} (h : ¬ sep <+: cs) : after? sep cs = none := by
  cases hafter : after? sep cs with
  | none => rfl
  | some rest => exact absurd ⟨rest, (eq_append_of_after? hafter).symm⟩ h

theorem cutChars_eq_none {sep cs : List Char} (h : ¬ sep <:+: cs) : cutChars sep cs = none := by
  induction cs with
  | nil =>
    unfold cutChars
    rw [after?_eq_none fun hprefix => h hprefix.isInfix]
    rfl
  | cons c cs ih =>
    rw [List.infix_cons_iff, not_or] at h
    unfold cutChars
    rw [after?_eq_none h.1, ih h.2]
    rfl

/-- a separator that begins in front of the one that was put there lies in `before` and all of the
separator but its last character -/
theorem not_isPrefix_of_not_isInfix {sep before : List Char} {c : Char}
    (h : ¬ sep <:+: (c :: before) ++ sep.dropLast) (rest : List Char) :
    ¬ sep <+: (c :: before) ++ sep ++ rest := by
  intro hprefix
  have hshort : (c :: before) ++ sep.dropLast <+: (c :: before) ++ sep ++ rest := by
    rw [List.append_assoc, List.prefix_append_right_inj]
    exact (List.dropLast_prefix sep).trans (List.prefix_append sep rest)
  refine h (List.prefix_of_prefix_length_le hprefix hshort ?_).isInfix
  rw [List.length_append, List.length_cons, List.length_dropLast]
  omega

theorem cutChars_append {sep before : List Char} (h : ¬ sep <:+: before ++ sep.dropLast)
    (rest : List Char) : cutChars sep (before ++ sep ++ rest) = some (before, rest) := by
  induction before with
  | nil => exact cutChars_of_after? (after?_append sep rest)
  | cons c before ih =>
    have htail : ¬ sep <:+: before ++ sep.dropLast := fun hinfix => h (List.infix_cons hinfix)
    rw [List.cons_append, List.cons_append, cutChars]
    have hafter := after?_eq_none (not_isPrefix_of_not_isInfix h rest)
    rw [List.cons_append, List.cons_append] at hafter
    rw [hafter, ih htail]
    rfl

end Text

/-! ## raw keys -/

/-- no mark stands in the text -/
def Unmarked (s : String) : Prop := ¬ operatorMark.toList <:+: s.toList

instance (s : String) : Decidable (Unmarked s) := inferInstanceAs (Decidable (¬ _))

theorem splitKey_unmarked {key : String} (h : Unmarked key) : splitKey key = (key, "eq") := by
  unfold splitKey cutAt
  rw [cutChars_eq_none h]
  rfl

/-- the mark is two characters, so that the first of them must not complete another one -/
theorem splitKey_append {key : String} (h : Unmarked (key ++ "_")) (token : String) :
    splitKey (key ++ operatorMark ++ token) = (key, token) := by
  have hcut : ¬ operatorMark.toList <:+: key.toList ++ operatorMark.toList.dropLast := by
    unfold Unmarked at h
    rwa [String.toList_append] at h
  unfold splitKey cutAt
  rw [String.toList_append, String.toList_append, cutChars_append hcut]
  simp only [Option.map_some, Option.getD_some, String.ofList_toList]

theorem unmarked_append {key : String} (h : Unmarked key) (hlast : key.toList.getLast? ≠ some '_') :
    Unmarked (key ++ "_") := by
  unfold Unmarked
  rw [String.toList_append]
  show ¬ ['_', '_'] <:+: key.toList ++ ['_']
  rw [List.infix_concat_iff, not_or]
  refine ⟨fun hsuffix => ?_, h⟩
  rcases List.suffix_concat_iff.mp hsuffix with hnil | ⟨t, ht, hkey⟩
  · cases hnil
  · have hmark : ['_'] ++ ['_'] = t ++ ['_'] := ht
    have hone : t = ['_'] := (List.append_inj_left' hmark rfl).symm
    obtain ⟨front, hfront⟩ := hkey
    rw [hone] at hfront
    exact hlast (List.getLast?_eq_some_iff.mpr ⟨front, hfront.symm⟩)

/-! ## names of operators -/

theorem toLower_of_isBlank {c : Char} (h : isBlank c = true) : c.toLower = c := by
  have hupper : ¬ (c.val ≥ 'A'.val ∧ c.val ≤ 'Z'.val) := by
    intro hupper
    have halnum : c.isAlphanum = true := by
      unfold Char.isAlphanum Char.isAlpha Char.isUpper
      rw [decide_eq_true hupper]
      rfl
    rw [not_isAlphanum_of_isBlank h] at halnum
    cases halnum
  exact dif_neg hupper

namespace Operator

theorem lowerAscii_name (op : Operator) : lowerAscii op.name = op.name := by
  cases op <;> decide

/-- names are made of small letters -/
theorem isLower_of_mem_name (op : Operator) : ∀ c ∈ op.name.toList, c.isLower = true := by
  have hall : op.name.toList.all Char.isLower = true := by
    cases op <;> decide
  exact List.all_eq_true.mp hall

section
variable {op : Operator} {token : String} (h : SameWord token op.name)
include h

theorem trim_token : trim token = token := by
  have hname : lowerAscii token = op.name := h.trans op.lowerAscii_name
  have hblank : ∀ c ∈ token.toList, isBlank c = false := by
    intro c hc
    by_contra hb
    rw [Bool.not_eq_false] at hb
    have hmem : c ∈ op.name.toList := by
      rw [← hname, toList_lowerAscii, ← toLower_of_isBlank hb]
      exact List.mem_map_of_mem hc
    have hlower := op.isLower_of_mem_name c hmem
    have halnum := not_isAlphanum_of_isBlank hb
    unfold Char.isAlphanum Char.isAlpha at halnum
    rw [hlower, Bool.or_true] at halnum
    cases halnum
  exact trim_of_noBlankEnds ⟨fun c hc => hblank c (List.mem_of_mem_head? hc),
    fun c hc => hblank c (List.mem_of_mem_getLast? hc)⟩

theorem read_token : read token = .ok op := by
  rw [read_eq_ok, trim_token h]
  exact (h.trans op.lowerAscii_name).symm

end

/-- no name has a `_` in it -/
theorem read_underscore (token : String) :
    read ("_" ++ token) = .error (.unsupportedOperator ("_" ++ token)) := by
  refine read_eq_error.mpr ⟨fun op hop => ?_, rfl⟩
  have hmem : '_' ∈ (trim ("_" ++ token)).toList := by
    refine mem_trim ?_ (by decide)
    rw [String.toList_append]
    exact List.mem_cons_self
  have hname : '_' ∈ op.name.toList := by
    rw [hop, toList_lowerAscii]
    exact List.mem_map.mpr ⟨'_', hmem, by decide⟩
  exact absurd (op.isLower_of_mem_name '_' hname) (by decide)

end Operator

/-! ## steps -/

/-- the operator laid on a column straight away -/
def Query.ask (q : Query) (target : Column) (op : Operator) (value : String) : Query × StepResult :=
  match Test.ofFilter op target.kind value with
  | .ok test => (q.impose target.column test, .applied)
  | .error e => (q, .notFiltered e)

theorem Query.ask_ne_unknownKey (q : Query) (target : Column) (op : Operator) (value : String) :
    (q.ask target op value).2 ≠ .unknownKey := by
  unfold ask
  split
  · exact StepResult.noConfusion
  · exact StepResult.noConfusion

section
variable {columns : Columns} {rawKey key token : String} (hsplit : splitKey rawKey = (key, token))
include hsplit

theorem run_filter_of_splitKey {target : Column} {op : Operator}
    (htarget : columns.find? key = some target) (hop : Operator.read token = .ok op)
    (value : String) (q : Query) :
    Step.run q (.filter columns rawKey value) = q.ask target op value := by
  unfold Step.run Columns.filter Columns.resolve Query.ask
  dsimp only
  rw [hsplit]
  dsimp only
  rw [htarget, hop]
  dsimp only
  cases Test.ofFilter op target.kind value with
  | error e => rfl
  | ok test => rfl

/-- whether the operator is known matters only if the key is -/
theorem run_filter_of_unsupported {e : FilterError} (hop : Operator.read token = .error e)
    (value : String) (q : Query) : Step.run q (.filter columns rawKey value) =
      (q, if (columns.find? key).isSome then .notFiltered e else .unknownKey) := by
  unfold Step.run Columns.filter Columns.resolve
  dsimp only
  rw [hsplit]
  dsimp only
  cases columns.find? key with
  | none => rfl
  | some target =>
    dsimp only
    rw [hop]
    rfl

end

/-- **Filters by key and operator.**  Let `key` be a public key without a mark in it.  Alone it asks for
equality of its own column.  With a mark and the name of an operator behind it, in any case, it asks for
that operator of its own column, unless it ends in `_`.  Either way a filter is not passed over.  If the
key does end in `_`, the mark is found one character early: nothing is laid on the query, and the filter
is refused or passed over as the key without its last character is public or not. -/
theorem filter_addressed_by_key {columns : Columns} {key : String} {target : Column}
    (htarget : columns.find? key = some target) (hkey : ¬ operatorMark.toList <:+: key.toList)
    {op : Operator} {token : String} (htoken : SameWord token op.name) (value : String) (q : Query) :
    Step.run q (.filter columns key value) = q.ask target .eq value ∧
    (key.toList.getLast? ≠ some '_' →
      Step.run q (.filter columns (key ++ operatorMark ++ token) value) = q.ask target op value) ∧
    (∀ op' : Operator, (q.ask target op' value).2 ≠ .unknownKey) ∧
    (∀ front, key = front ++ "_" →
      Step.run q (.filter columns (key ++ operatorMark ++ token) value) =
        (q, if (columns.find? front).isSome
          then .notFiltered (.unsupportedOperator ("_" ++ token)) else .unknownKey)) := by
  refine ⟨?_, fun hlast => ?_, fun op' => q.ask_ne_unknownKey target op' value, ?_⟩
  · exact run_filter_of_splitKey (splitKey_unmarked hkey) htarget (Operator.read_name .eq) value q
  · have hsplit := splitKey_append (unmarked_append hkey hlast) token
    exact run_filter_of_splitKey hsplit htarget (Operator.read_token htoken) value q
  · rintro front rfl
    have hsplit := splitKey_append hkey ("_" ++ token)
    have hraw : front ++ operatorMark ++ ("_" ++ token) = front ++ "_" ++ operatorMark ++ token := by
      unfold operatorMark
      simp only [String.append_assoc]
      rfl
    rw [hraw] at hsplit
    exact run_filter_of_unsupported hsplit (Operator.read_underscore token) value q

def rateColumns : Columns := .ofList [("min_rate", ⟨"r.Rate", .integer⟩), ("rate_", ⟨"r.Best", .integer⟩)]

def rateQuery : Query := ⟨"Rooms", "r", [], [], [], [], .asc, .empty, 0⟩

/-- a key with a `_` inside, alone and with an operator, and a key with a `_` at its end -/
theorem filter_addressed_by_min_rate :
    rateColumns.find? "min_rate" = some ⟨"r.Rate", .integer⟩ ∧
      SameWord "BetWeen" Operator.between.name ∧
      Step.run rateQuery (.filter rateColumns "min_rate" "80") =
        rateQuery.ask ⟨"r.Rate", .integer⟩ .eq "80" ∧
      Step.run rateQuery (.filter rateColumns ("min_rate" ++ operatorMark ++ "BetWeen") "80, 90") =
        rateQuery.ask ⟨"r.Rate", .integer⟩ .between "80, 90" ∧
      Step.run rateQuery (.filter rateColumns "rate_" "80") =
        rateQuery.ask ⟨"r.Best", .integer⟩ .eq "80" ∧
      Step.run rateQuery (.filter rateColumns ("rate_" ++ operatorMark ++ "gte") "80") =
        (rateQuery, .unknownKey) := by
  have htarget : rateColumns.find? "min_rate" = some ⟨"r.Rate", .integer⟩ := by decide
  have hbest : rateColumns.find? "rate_" = some ⟨"r.Best", .integer⟩ := by decide
  have hkey : ¬ operatorMark.toList <:+: "min_rate".toList := by decide +kernel
  have htoken : SameWord "BetWeen" Operator.between.name := by decide
  obtain ⟨halone, _⟩ := filter_addressed_by_key htarget hkey htoken "80" rateQuery
  obtain ⟨_, hbetween, _⟩ := filter_addressed_by_key htarget hkey htoken "80, 90" rateQuery
  obtain ⟨hend, _, _, hearly⟩ := filter_addressed_by_key hbest (by decide)
    (show SameWord "gte" Operator.gte.name by decide) "80" rateQuery
  have hfront : "rate_" = "rate" ++ "_" := by decide
  have hrate : rateColumns.find? "rate" = none := by decide
  have hpassed := hearly "rate" hfront
  rw [hrate] at hpassed
  exact ⟨htarget, htoken, halone, hbetween (by decide), hend, hpassed⟩

/-- a public key without a mark in it that no operator but equality can be asked of -/
theorem trailing_underscore_not_addressed :
    rateColumns.find? "rate_" = some ⟨"r.Best", .integer⟩ ∧
      ¬ operatorMark.toList <:+: "rate_".toList ∧ SameWord "gte" Operator.gte.name ∧
      Step.run rateQuery (.filter rateColumns ("rate_" ++ operatorMark ++ "gte") "80") =
        (rateQuery, .unknownKey) ∧
      (rateQuery.ask ⟨"r.Best", .integer⟩ .gte "80").2 = .applied ∧
      (rateQuery.ask ⟨"r.Best", .integer⟩ .gte "80").1.conditions = ["(r.Best >= @filter_0)"] := by
  decide

end PagedSql

import PagedSql.Query.Statement
import PagedSql.Proofs.Query.Layer
import PagedSql.Proofs.Filter.Form

/-!
# Layers without values

The conditions of a layer and the names in it are settled before any value is.  A layer is blank if all
its values are; two layers that are alike once they are blank add the same text and the same names.

* `Layer.blank`        a layer with its values taken out;
* `source_lay_congr`, `names_lay_congr`   layers that are alike when blank lay the same text and names;
* `blank_searchLayer`  a search looks the same whatever the term is;
* `blank_testsLayer`   tests look the same as blank tests of their forms;
* `sketchLayer`        the layer of a search for anything and of forms.
-/

namespace PagedSql
open PagedSql.Text

def Layer.blank (l : Layer) : Layer :=
  ⟨l.conditions, l.parameters.map fun e => (e.1, .null), l.used⟩

namespace Layer

theorem blank_and (a b : Layer) : (a.and b).blank = a.blank.and b.blank := by
  unfold blank and
  rw [List.map_append]

theorem names_blank (l : Layer) : l.blank.names = l.names := by
  unfold blank names
  rw [List.map_map]
  rfl

theorem blank_congr {a b : Layer} (hc : a.conditions = b.conditions) (hn : a.names = b.names)
    (hu : a.used = b.used) : a.blank = b.blank := by
  have hblank : ∀ l : Layer, l.blank = ⟨l.conditions, l.names.map fun n => (n, .null), l.used⟩ := by
    intro l
    unfold blank names
    rw [List.map_map]
    rfl
  rw [hblank a, hblank b, hc, hn, hu]

section
variable {a b : Layer} (h : a.blank = b.blank)
include h

theorem conditions_eq_of_blank : a.conditions = b.conditions :=
  show a.blank.conditions = b.blank.conditions from congrArg conditions h

theorem used_eq_of_blank : a.used = b.used :=
  show a.blank.used = b.blank.used from congrArg used h

theorem names_eq_of_blank : a.names = b.names := by
  rw [← names_blank a, h, names_blank]

end

end Layer

section
variable {a b : Layer} (h : a.blank = b.blank) (q : Query)
include h

theorem source_lay_congr : (q.lay a).source = (q.lay b).source := by
  unfold Query.source Query.lay
  rw [Layer.conditions_eq_of_blank h]

theorem names_lay_congr : (q.lay a).parameters.names = (q.lay b).parameters.names :=
  Bindings.names_bindAll_congr rfl (Layer.names_eq_of_blank h)

end

/-! ## search -/

theorem blank_searchLayer (k : Nat) {term term' : String} (h : trim term ≠ "")
    (h' : trim term' ≠ "") (columns : List String) :
    (searchLayer k term columns).blank = (searchLayer k term' columns).blank := by
  unfold searchLayer
  by_cases hnone : searched columns = []
  · rw [if_pos (Or.inr hnone), if_pos (Or.inr hnone)]
  · rw [if_neg (not_or.mpr ⟨h, hnone⟩), if_neg (not_or.mpr ⟨h', hnone⟩)]
    have hnames : ∀ (conditions : List String) (name : String) (value : Value),
        Layer.names ⟨conditions, [(name, value)], 1⟩ = [name] := fun _ _ _ => rfl
    exact Layer.blank_congr rfl ((hnames _ _ _).trans (hnames _ _ _).symm) rfl

/-! ## tests -/

theorem blank_testLayer (k : Nat) (column : String) (test : Test) :
    (test.form.blank.layer k column).blank = (test.layer k column).blank := by
  refine Layer.blank_congr ?_ ?_ ?_
  · unfold Test.layer
    dsimp only
    rw [Test.condition_blank]
  · unfold Layer.names Test.layer
    dsimp only
    exact Test.names_blank (madeName "filter" k) test
  · unfold Test.layer
    dsimp only
    rw [Test.needsName_blank]

/-- tests that are asked of columns, without their values -/
def formsOf (tests : List (Column × Test)) : List (Column × Form) :=
  tests.map fun e => (e.1, e.2.form)

def blankTests (forms : List (Column × Form)) : List (Column × Test) :=
  forms.map fun e => (e.1, e.2.blank)

theorem blank_testsLayer (k : Nat) (tests : List (Column × Test)) :
    (testsLayer k (blankTests (formsOf tests))).blank = (testsLayer k tests).blank := by
  induction tests generalizing k with
  | nil => rfl
  | cons e tests ih =>
    obtain ⟨target, test⟩ := e
    have hfirst := blank_testLayer k target.column test
    have hused := Layer.used_eq_of_blank hfirst
    show (testsLayer k ((target, test.form.blank) :: blankTests (formsOf tests))).blank = _
    rw [testsLayer_cons, testsLayer_cons, Layer.blank_and, Layer.blank_and, hfirst, hused, ih]

/-! ## sketches -/

/-- stands for any term that is not blank -/
def anyTerm : String := "term"

theorem trim_anyTerm : trim anyTerm ≠ "" := by decide

/-- what a request comes to if nothing is known but whether it searches, and the forms of its tests -/
def sketchLayer (k : Nat) (searchable : List String) (searches : Bool)
    (forms : List (Column × Form)) : Layer :=
  let search := if searches then searchLayer k anyTerm searchable else .empty
  search.and (testsLayer (k + search.used) (blankTests forms))

end PagedSql

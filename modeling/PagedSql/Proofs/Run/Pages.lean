import Mathlib.Algebra.Order.Floor.Div
import PagedSql.Proofs.Run.Window

/-!
# Pages cut up the rows

The request counts the rows in front of its page, the page counts the pages that there are, and whether
another one follows is told from its number.  All three agree on where a page begins and where it ends,
so that the pages from the first to the last make up the whole list of rows.

* `toNat_countPages`         the total divided by the size, rounded up;
* `toNat_countOf`            the total of a page, a negative one counted as none;
* `Page.hasNext_iff`, `hasPrevious_iff`   the place of a page among them;
* `take_mul`, `flatMap_windows`   a list is what its windows of one size make up;
* `Request.slice`, `onPage`  the rows on the page of a request, and a request for another page;
* `InRange.flatMap_slices`   the pages of a list, one after the other, are the list;
* `serve`                    an executor that has the rows and answers with the window of a batch;
* `pages_partition_rows`     the page of a request among the pages of a list.
-/

namespace PagedSql

/-! ## the number of pages -/

theorem ceilDiv_eq_div_or_succ (n : Nat) {size : Nat} (hsize : 0 < size) :
    n ⌈/⌉ size = if n % size = 0 then n / size else n / size + 1 := by
  have hdiv := Nat.div_add_mod' n size
  have hmod := Nat.mod_lt n hsize
  rw [Nat.ceilDiv_eq_add_pred_div]
  split
  · refine Nat.div_eq_of_lt_le (by omega) ?_
    rw [Nat.succ_mul]
    omega
  · refine Nat.div_eq_of_lt_le ?_ ?_
    · rw [Nat.succ_mul]
      omega
    · rw [Nat.succ_mul, Nat.succ_mul]
      omega

/-- **The number of pages.**  No total of a word is too large for it. -/
theorem toNat_countPages (total : UInt64) {size : UInt32} (hsize : 1 ≤ size.toNat) :
    (countPages total size).toNat = total.toNat ⌈/⌉ size.toNat := by
  have hne : size.toUInt64 ≠ 0 := by
    intro h
    have hzero := congrArg UInt64.toNat h
    rw [UInt32.toNat_toUInt64] at hzero
    exact absurd hzero (by show ¬ size.toNat = 0; omega)
  have hmod : total % size.toUInt64 = 0 ↔ total.toNat % size.toNat = 0 := by
    rw [← UInt64.toNat_inj, UInt64.toNat_mod, UInt32.toNat_toUInt64]
    rfl
  have hdiv : (total / size.toUInt64).toNat = total.toNat / size.toNat := by
    rw [UInt64.toNat_div, UInt32.toNat_toUInt64]
  rw [ceilDiv_eq_div_or_succ _ hsize]
  unfold countPages
  dsimp only
  rw [if_neg hne]
  split
  · next h => rw [if_pos (hmod.mp h), hdiv]
  · next h =>
    have hrest : ¬ total.toNat % size.toNat = 0 := fun h' => h (hmod.mpr h')
    -- a rest is left over only by sizes above one, and then the quotient is well below the total
    have hlt : total.toNat / size.toNat + 1 < 2 ^ 64 := by
      have htotal := total.toNat_lt
      have hone : size.toNat ≠ 1 := by
        intro hone
        rw [hone, Nat.mod_one] at hrest
        exact hrest rfl
      have hhalf : total.toNat / size.toNat ≤ total.toNat / 2 :=
        Nat.div_le_div_left (by omega) (by decide)
      omega
    rw [if_neg hrest, UInt64.toNat_add, hdiv]
    exact Nat.mod_eq_of_lt hlt

theorem toNat_countOf (total : Int64) : ((countOf total).toNat : Int) = max total.toInt 0 := by
  have hlt : total.toInt.toNat < UInt64.size := by
    have hle := total.toInt_lt
    have hsize : UInt64.size = 18446744073709551616 := rfl
    omega
  unfold countOf
  rw [UInt64.toNat_ofNat_of_lt' hlt]
  exact Int.toNat_eq_max total.toInt

theorem toNat_countOf_ofNat {n : Nat} (hn : n < 2 ^ 63) : (countOf (Int64.ofNat n)).toNat = n := by
  have hcount := toNat_countOf (Int64.ofNat n)
  rw [Int64.toInt_ofNat_of_lt hn] at hcount
  omega

theorem Page.hasNext_iff {α : Type} (p : Page α) :
    p.hasNext = true ↔ p.page.toNat < p.totalPages.toNat := by
  unfold Page.hasNext
  rw [decide_eq_true_eq, UInt64.lt_iff_toNat_lt, UInt32.toNat_toUInt64]

theorem Page.hasPrevious_iff {α : Type} (p : Page α) : p.hasPrevious = true ↔ 1 < p.page.toNat := by
  unfold Page.hasPrevious
  rw [decide_eq_true_eq, UInt32.lt_iff_toNat_lt]
  rfl

/-! ## windows of a list -/

section
variable {α : Type} (rows : List α) (size : Nat)

theorem take_mul (n : Nat) :
    rows.take (n * size) = (List.range n).flatMap fun i => (rows.drop (i * size)).take size := by
  induction n with
  | zero => rw [Nat.zero_mul, List.take_zero, List.range_zero, List.flatMap_nil]
  | succ n ih =>
    rw [Nat.succ_mul, List.take_add, ih, List.range_succ, List.flatMap_append, List.flatMap_singleton]

variable {size} (hsize : 0 < size)
include hsize

/-- a list is what its windows make up, from the first one to the last -/
theorem flatMap_windows :
    ((List.range (rows.length ⌈/⌉ size)).flatMap fun i => (rows.drop (i * size)).take size) = rows := by
  have hle : rows.length ≤ size * (rows.length ⌈/⌉ size) := (ceilDiv_le_iff_le_mul hsize).mp le_rfl
  rw [← take_mul, Nat.mul_comm]
  exact List.take_of_length_le hle

theorem window_eq_nil_iff (i : Nat) :
    (rows.drop (i * size)).take size = [] ↔ rows.length ⌈/⌉ size ≤ i := by
  rw [List.take_eq_nil_iff, List.drop_eq_nil_iff, ceilDiv_le_iff_le_mul hsize, Nat.mul_comm size i]
  constructor
  · rintro (hzero | hle)
    · omega
    · exact hle
  · exact Or.inr

theorem succ_lt_ceilDiv_iff (i : Nat) :
    i + 1 < rows.length ⌈/⌉ size ↔ i * size + size < rows.length := by
  rw [← not_le, ceilDiv_le_iff_le_mul hsize, not_le, Nat.mul_comm, Nat.succ_mul]

theorem length_window {i : Nat} (h : i + 1 < rows.length ⌈/⌉ size) :
    ((rows.drop (i * size)).take size).length = size := by
  have hlt := (succ_lt_ceilDiv_iff rows hsize i).mp h
  refine List.length_take_of_le ?_
  rw [List.length_drop]
  omega

end

/-! ## pages of requests -/

namespace Request
variable {α : Type} {r : Request}

/-- the rows on the page of a request -/
def slice (r : Request) (rows : List α) : List α := (rows.drop r.skip.toNat).take r.pageSize.toNat

/-- the request for another page -/
def onPage (r : Request) (n : Nat) : Request := r.edit (.page (Int64.ofNat n))

theorem InRange.slice_eq (hr : r.InRange) (rows : List α) :
    r.slice rows = (rows.drop ((r.page.toNat - 1) * r.pageSize.toNat)).take r.pageSize.toNat := by
  unfold slice
  rw [hr.toNat_skip]

theorem length_slice_le (rows : List α) : (r.slice rows).length ≤ r.pageSize.toNat :=
  List.length_take_le _ _

theorem pageSize_onPage (n : Nat) : (r.onPage n).pageSize = r.pageSize := rfl

theorem toNat_page_onPage {n : Nat} (hpos : 1 ≤ n) (hlt : n < 2 ^ 32) :
    (r.onPage n).page.toNat = n := by
  have hclamp := toNat_clampPage (Int64.ofNat n)
  rw [Int64.toInt_ofNat_of_lt (by omega)] at hclamp
  show (clampPage (Int64.ofNat n)).toNat = n
  omega

theorem InRange.onPage (hr : r.InRange) (n : Nat) : (r.onPage n).InRange :=
  ⟨one_le_clampPage _, hr.size_pos, hr.size_le⟩

theorem InRange.slice_onPage (hr : r.InRange) {i : Nat} (hlt : i + 1 < 2 ^ 32) (rows : List α) :
    (r.onPage (i + 1)).slice rows = (rows.drop (i * r.pageSize.toNat)).take r.pageSize.toNat := by
  rw [(hr.onPage (i + 1)).slice_eq, toNat_page_onPage (by omega) hlt, pageSize_onPage,
    Nat.add_sub_cancel]

/-- the pages that can be asked for, one after the other -/
theorem InRange.flatMap_slices (hr : r.InRange) {rows : List α}
    (hlt : rows.length ⌈/⌉ r.pageSize.toNat < 2 ^ 32) :
    ((List.range (rows.length ⌈/⌉ r.pageSize.toNat)).flatMap fun i =>
      (r.onPage (i + 1)).slice rows) = rows := by
  have hslice : ∀ i ∈ List.range (rows.length ⌈/⌉ r.pageSize.toNat),
      (r.onPage (i + 1)).slice rows = (rows.drop (i * r.pageSize.toNat)).take r.pageSize.toNat := by
    intro i hi
    have hle := List.mem_range.mp hi
    exact hr.slice_onPage (by omega) rows
  rw [List.flatMap_congr hslice]
  exact flatMap_windows rows hr.size_pos

theorem InRange.length_slice_onPage (hr : r.InRange) {rows : List α}
    (hlt : rows.length ⌈/⌉ r.pageSize.toNat < 2 ^ 32) {i : Nat}
    (hi : i + 1 < rows.length ⌈/⌉ r.pageSize.toNat) :
    ((r.onPage (i + 1)).slice rows).length = r.pageSize.toNat := by
  rw [hr.slice_onPage (by omega) rows]
  exact length_window rows hr.size_pos hi

end Request

/-! ## runs against a list of rows -/

section
variable {α : Type}

/-- answers at once with the rows in the window of a batch, and with the number of them all -/
def serve (rows : List α) (batch : Batch) : Reply α :=
  match batch.parameters.find? offsetName, batch.parameters.find? sizeName with
  | some (.int offset), some (.int size) =>
    ⟨some 0, .ok ⟨(rows.drop offset.toInt.toNat).take size.toInt.toNat, Int64.ofNat rows.length⟩⟩
  | _, _ => ⟨some 0, .error (.other "no window")⟩

theorem serve_batch (rows : List α) (q : Query) (offset : Int64) (size : UInt32) :
    serve rows (q.batch offset size) =
      ⟨some 0, .ok ⟨(rows.drop offset.toInt.toNat).take size.toNat, Int64.ofNat rows.length⟩⟩ := by
  unfold serve
  rw [Query.find?_offset_batch, Query.find?_size_batch]
  dsimp only
  rw [toInt_size, Int.toNat_natCast]

/-- the page that a run makes of the rows in its window -/
theorem Subject.run_serve {s : Subject} {r : Request} (hr : r.InRange) (hs : s.fault? r = none)
    {l : Limits} (hl : l.cancel ≠ some 0) (rows : List α) :
    (s.run r l (serve rows)).outcome =
      some (.ok (.make (r.slice rows) (countOf (Int64.ofNat rows.length)) r.page r.pageSize)) := by
  have hreply : serve rows (s.batch r) =
      ⟨some 0, .ok ⟨r.slice rows, Int64.ofNat rows.length⟩⟩ := by
    unfold Subject.batch
    rw [serve_batch, hr.toInt_offset, Int.toNat_natCast]
    rfl
  have hrace : race l (some 0) = some .completed := by
    have hbefore : ¬ l.cancelledBefore = true := fun h => hl (of_decide_eq_true h)
    unfold race
    rw [if_neg hbefore, if_pos rfl]
  rw [(run_of_faultless l (serve rows) hr hs).1, hreply]
  dsimp only
  rw [hrace, Option.map_some]
  have hle : ¬ r.pageSize.toNat < (r.slice rows).length := not_lt.mpr (r.length_slice_le rows)
  exact congrArg some (if_neg hle)

end

/-- **Pages cut up the rows.**  Of any list of rows, a request's page is the window behind the rows that
the request skips, and a run against these rows makes this page of it.  There are as many pages as the
rows fill, the last one perhaps in part.  A page holds nothing exactly if it lies behind the last, is
followed by another exactly if rows are left behind it, and follows one exactly if it is not the first.
If all of the pages have numbers that can be asked for, their windows give the list back one after the
other, and each of them but the last is full.  No number on the way outgrows its word. -/
theorem pages_partition_rows {r : Request} (hr : r.InRange) {α : Type} (rows : List α)
    (hrows : rows.length ≤ 2 ^ 63 - 1) :
    let page : Page α := .make (r.slice rows) (countOf (Int64.ofNat rows.length)) r.page r.pageSize
    (∀ (s : Subject) (l : Limits), s.fault? r = none → l.cancel ≠ some 0 →
      (s.run r l (serve rows)).outcome = some (.ok page)) ∧
    page.items = (rows.drop ((r.page.toNat - 1) * r.pageSize.toNat)).take r.pageSize.toNat ∧
    page.totalCount.toNat = rows.length ∧
    page.totalPages.toNat = rows.length ⌈/⌉ r.pageSize.toNat ∧
    (page.items = [] ↔ page.totalPages.toNat < r.page.toNat) ∧
    (page.hasNext = true ↔ r.skip.toNat + r.pageSize.toNat < rows.length) ∧
    (page.hasPrevious = true ↔ 1 < r.page.toNat) ∧
    (page.totalPages.toNat < 2 ^ 32 →
      ((List.range page.totalPages.toNat).flatMap fun i => (r.onPage (i + 1)).slice rows) = rows ∧
      ∀ i < page.totalPages.toNat,
        (r.onPage (i + 1)).page.toNat = i + 1 ∧ (r.onPage (i + 1)).pageSize = r.pageSize ∧
        (i + 1 < page.totalPages.toNat →
          ((r.onPage (i + 1)).slice rows).length = r.pageSize.toNat)) ∧
    (r.page - 1).toNat + 1 = r.page.toNat ∧
    r.skip.toNat = (r.page.toNat - 1) * r.pageSize.toNat ∧
    r.skip.toNat + r.pageSize.toNat < 2 ^ 64 ∧ rows.length / r.pageSize.toNat + 1 < 2 ^ 64 := by
  intro page
  have hpos := hr.page_pos
  have hskip := hr.toNat_skip
  have hcount : page.totalCount.toNat = rows.length := toNat_countOf_ofNat (by omega)
  have htotal : page.totalPages.toNat = rows.length ⌈/⌉ r.pageSize.toNat := by
    have hpages := toNat_countPages page.totalCount hr.size_pos
    rw [hcount] at hpages
    exact hpages
  have hitems := hr.slice_eq rows
  refine ⟨fun s l hs hl => Subject.run_serve hr hs hl rows, hitems, hcount, htotal, ?_, ?_, ?_, ?_, ?_,
    hskip, ?_, ?_⟩
  · show r.slice rows = [] ↔ _
    rw [hitems, window_eq_nil_iff rows hr.size_pos, htotal]
    omega
  · rw [page.hasNext_iff, htotal, hskip, ← succ_lt_ceilDiv_iff rows hr.size_pos,
      Nat.sub_add_cancel hpos]
    rfl
  · exact page.hasPrevious_iff
  · rw [htotal]
    exact fun hlt => ⟨hr.flatMap_slices hlt, fun i hi =>
      ⟨Request.toNat_page_onPage (by omega) (by omega), rfl, hr.length_slice_onPage hlt⟩⟩
  · rw [hr.toNat_page_sub_one]
    omega
  · have hlt := hr.toNat_skip_lt
    have hsize := hr.size_le
    omega
  · have hle := Nat.div_le_self rows.length r.pageSize.toNat
    omega

/-- the last of three pages, which is not full, and a page behind it -/
theorem pages_partition_rows_of_sevenRows :
    let rooms : Subject := .table (.ofTable "Rooms")
    let r := Request.make 3 3
    let rows := [10, 20, 30, 40, 50, 60, 70]
    (rooms.run r ⟨none, none⟩ (serve rows)).outcome = some (.ok ⟨[70], 7, 3, 3, 3⟩) ∧
      ((List.range 3).flatMap fun i => (r.onPage (i + 1)).slice rows) = rows ∧
      ((r.onPage 2).slice rows).length = 3 ∧ (r.onPage 4).slice rows = [] := by
  intro rooms r rows
  have hr : r.InRange := (Request.normal_make 3 3).toInRange
  have hthree : rows.length ⌈/⌉ r.pageSize.toNat = 3 := by decide +kernel
  obtain ⟨hrun, _, _, htotal, _, _, _, hparts, _⟩ := pages_partition_rows hr rows (by decide)
  obtain ⟨_, _, _, _, hbehind, _⟩ := pages_partition_rows (hr.onPage 4) rows (by decide)
  rw [htotal, hthree] at hparts
  obtain ⟨hall, hfull⟩ := hparts (by decide)
  refine ⟨?_, hall, (hfull 1 (by decide)).2.2 (by decide), ?_⟩
  · rw [hrun rooms ⟨none, none⟩ (by decide +kernel) (by decide)]
    decide +kernel
  · exact hbehind.mpr (by decide +kernel)

end PagedSql

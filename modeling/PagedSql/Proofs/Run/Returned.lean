import Mathlib.Algebra.Order.Ring.Int
import PagedSql.Proofs.Run.Classification
import PagedSql.Proofs.Run.Pages

/-!
# The page that is returned

A page is returned exactly if the executor answers in time, and with no more rows than a page holds.  Its
items are the executor's rows, its place is the request's, and its counts are those of the executor's
total, a negative one counted as none.

* `ceilDiv_unique`            the one number of pages that a total fills;
* `Page.Consistent`           a page as it follows from a request and from rows, `consistent_make`;
* `returns_of_outcome`        where a returned page comes from;
* `returns_of_inTime`         an answer in time is not lost;
* `Page.SamePlace`            pages that differ in their items only, `samePlace_map`;
* `returned_page_consistent`  the pages that a run returns, and the runs that return one.
-/

namespace PagedSql

/-! ## counts -/

/-- one page less is too little for the total, and no page more is needed -/
theorem ceilDiv_unique {n size : Nat} (hsize : 0 < size) (k : Int) :
    ((k - 1) * size < n ∧ (n : Int) ≤ k * size) ↔ k = ((n ⌈/⌉ size : Nat) : Int) := by
  have hle : ∀ b : Nat, n ⌈/⌉ size ≤ b ↔ (n : Int) ≤ (b : Int) * size := by
    intro b
    rw [ceilDiv_le_iff_le_mul hsize, mul_comm]
    exact_mod_cast Iff.rfl
  constructor
  · rintro ⟨hbelow, habove⟩
    have hpos : 0 ≤ k := by
      by_contra hneg
      have hmul : k * (size : Int) < 0 := mul_neg_of_neg_of_pos (by omega) (by exact_mod_cast hsize)
      omega
    obtain ⟨b, rfl⟩ := Int.eq_ofNat_of_zero_le hpos
    have hcover : n ⌈/⌉ size ≤ b := (hle b).mpr habove
    have htight : b ≤ n ⌈/⌉ size := by
      by_contra hlt
      have hfits := (hle (b - 1)).mp (by omega)
      rw [Nat.cast_sub (by omega)] at hfits
      exact absurd hfits (not_le.mpr hbelow)
    exact_mod_cast le_antisymm htight hcover
  · rintro rfl
    refine ⟨?_, (hle _).mp le_rfl⟩
    by_contra hnot
    have hfits := not_lt.mp hnot
    cases hc : n ⌈/⌉ size with
    | zero =>
      rw [hc] at hfits
      omega
    | succ m =>
      rw [hc, Nat.cast_succ, Int.add_sub_cancel] at hfits
      have hfewer := (hle m).mpr hfits
      omega

/-! ## pages -/

/-- what a page is, made for a request of an executor's rows -/
structure Page.Consistent {α : Type} (r : Request) (rows : Rows α) (p : Page α) : Prop where
  items : p.items = rows.items
  fits : p.items.length ≤ r.pageSize.toNat
  page : p.page = r.page
  pageSize : p.pageSize = r.pageSize
  totalCount : (p.totalCount.toNat : Int) = max rows.total.toInt 0
  totalPages : ∀ k : Int, ((k - 1) * r.pageSize.toNat < p.totalCount.toNat ∧
    (p.totalCount.toNat : Int) ≤ k * r.pageSize.toNat) ↔ k = p.totalPages.toNat
  noPages : p.totalCount = 0 → p.totalPages = 0

theorem consistent_make {α : Type} {r : Request} (hr : r.InRange) {rows : Rows α}
    (h : rows.items.length ≤ r.pageSize.toNat) :
    (Page.make rows.items (countOf rows.total) r.page r.pageSize).Consistent r rows where
  items := rfl
  fits := h
  page := rfl
  pageSize := rfl
  totalCount := toNat_countOf rows.total
  totalPages := by
    intro k
    show _ ↔ k = ((countPages (countOf rows.total) r.pageSize).toNat : Int)
    rw [toNat_countPages _ hr.size_pos]
    exact ceilDiv_unique hr.size_pos k
  noPages := by
    intro hzero
    have hcount : countOf rows.total = 0 := hzero
    refine UInt64.toNat_inj.mp ?_
    show (countPages (countOf rows.total) r.pageSize).toNat = 0
    rw [toNat_countPages _ hr.size_pos, hcount]
    exact zero_ceilDiv r.pageSize.toNat

namespace Subject
variable {α : Type} {s : Subject} {r : Request} {l : Limits} {executor : Batch → Reply α}
  (hr : r.InRange)
include hr

/-- a page comes from an answer of the executor to the batch that was sent -/
theorem returns_of_outcome {p : Page α} (h : (s.run r l executor).outcome = some (.ok p)) :
    ∃ rows, s.Returns r l executor (.ok rows) ∧ rows.items.length ≤ r.pageSize.toNat ∧
      p = .make rows.items (countOf rows.total) r.page r.pageSize := by
  cases hf : s.fault? r with
  | some f =>
    rw [(run_of_fault l executor hf).1] at h
    cases h
  | none =>
    rw [(run_of_faultless l executor hr hf).1] at h
    obtain ⟨e, hrace, hsettle⟩ := Option.map_eq_some_iff.mp h
    obtain ⟨rfl, rows, hanswer, hpage⟩ := settle_eq_ok hsettle
    exact ⟨rows, ⟨⟨hf, race_eq_some_iff_yields.mp hrace⟩, hanswer⟩, hpage⟩

/-- what was sent and is answered before the cancellation and no later than the timeout -/
theorem returns_of_inTime {batch : Batch} (h : batch ∈ (s.run r l executor).batches) {t : Nat}
    {answer : Except ExecutorError (Rows α)} (hreply : executor batch = ⟨some t, answer⟩)
    (hcancel : ∀ u, l.cancel = some u → t < u) (htimeout : ∀ u, l.timeout = some u → t ≤ u) :
    s.Returns r l executor answer := by
  cases hf : s.fault? r with
  | some f =>
    rw [(run_of_fault l executor hf).2] at h
    exact absurd h List.not_mem_nil
  | none =>
    have hbatch : batch = s.batch r := by
      rw [(run_of_faultless l executor hr hf).2] at h
      split at h
      · exact absurd h List.not_mem_nil
      · exact List.mem_singleton.mp h
    rw [hbatch] at hreply
    have hfirst : ComesFirst l (executor (s.batch r)).after .completed := by
      rw [hreply]
      exact ⟨t, rfl, hcancel, htimeout⟩
    refine ⟨⟨hf, yields_of_comesFirst hfirst⟩, ?_⟩
    rw [hreply]

end Subject

/-- pages that differ in their items only -/
structure Page.SamePlace {α β : Type} (p : Page α) (q : Page β) : Prop where
  page : p.page = q.page
  pageSize : p.pageSize = q.pageSize
  totalCount : p.totalCount = q.totalCount
  totalPages : p.totalPages = q.totalPages
  hasNext : p.hasNext = q.hasNext
  hasPrevious : p.hasPrevious = q.hasPrevious

theorem Page.samePlace_map {α β : Type} (f : α → β) (p : Page α) : (p.map f).SamePlace p :=
  ⟨rfl, rfl, rfl, rfl, rfl, rfl⟩

/-- **The page that is returned.**  A page comes from the answer to the one batch that was sent: it has
the executor's rows, no more than fit on it, the number and the size that were asked for, the executor's
total, if that is not negative, and as many pages as it fills.  An answer in time makes a page if its rows
fit on one, and else the failure that counts them.  Other items in the place of these, one for each, leave
everything else as it is. -/
theorem returned_page_consistent {s : Subject} {r : Request} (hr : r.Reachable) {α : Type} (l : Limits)
    (executor : Batch → Reply α) :
    (∀ p, (s.run r l executor).outcome = some (.ok p) →
      ∃ batch rows, (s.run r l executor).batches = [batch] ∧ (executor batch).answer = .ok rows ∧
        p.Consistent r rows) ∧
    (∀ batch ∈ (s.run r l executor).batches, ∀ t rows, executor batch = ⟨some t, .ok rows⟩ →
      (∀ u, l.cancel = some u → t < u) → (∀ u, l.timeout = some u → t ≤ u) →
      (rows.items.length ≤ r.pageSize.toNat → ∃ p, (s.run r l executor).outcome = some (.ok p)) ∧
      (r.pageSize.toNat < rows.items.length → (s.run r l executor).outcome =
        some (.error (tooManyRows s.place rows.items.length r.pageSize)))) ∧
    ∀ (p : Page α) {β : Type} (f : α → β),
      (p.map f).SamePlace p ∧ (p.map f).items = p.items.map f := by
  have hrange := hr.normal.toInRange
  refine ⟨fun p hp => ?_, fun batch hbatch t rows hreply hcancel htimeout => ?_,
    fun p _ f => ⟨p.samePlace_map f, rfl⟩⟩
  · obtain ⟨rows, hreturns, hfits, rfl⟩ := Subject.returns_of_outcome hrange hp
    exact ⟨s.batch r, rows, hreturns.1.batches_eq hrange (by decide), hreturns.2,
      consistent_make hrange hfits⟩
  · have hreturns := Subject.returns_of_inTime hrange hbatch hreply hcancel htimeout
    rw [hreturns.outcome_eq hrange]
    constructor
    · exact fun hfits => ⟨_, congrArg some (if_neg (not_lt.mpr hfits))⟩
    · exact fun hrows => congrArg some (Subject.pageOf_of_overfull hrows)

/-- answers after five milliseconds -/
def counted (items : List Nat) (total : Int64) (_ : Batch) : Reply Nat := ⟨some 5, .ok ⟨items, total⟩⟩

/-- a full page of three, one without rows and with a total below zero, and one row too many, all of them
just in time -/
theorem returned_page_consistent_of_counted :
    let r := Request.make 2 3
    (∃ p, (stays.run r ⟨some 5, some 6⟩ (counted [4, 5, 6] 7)).outcome = some (.ok p) ∧
      p.Consistent r ⟨[4, 5, 6], 7⟩ ∧ (p.map Nat.succ).items = [5, 6, 7]) ∧
    (∃ p, (stays.run r ⟨some 5, some 6⟩ (counted [] (-3))).outcome = some (.ok p) ∧
      p.Consistent r ⟨[], -3⟩) ∧
    (stays.run r ⟨some 5, some 6⟩ (counted [4, 5, 6, 7] 7)).outcome =
      some (.error ⟨⟨.table, "Stays"⟩,
        .unexpected "Executor returned 4 rows for a page of 3" none⟩) := by
  intro r
  have hr : r.Reachable := .make 2 3
  have hs : stays.fault? r = none := by decide +kernel
  have hsent : ∀ items total, stays.batch r ∈
      (stays.run r ⟨some 5, some 6⟩ (counted items total)).batches := by
    intro items total
    rw [(Subject.run_of_faultless _ _ hr.normal.toInRange hs).2]
    exact List.mem_singleton_self _
  have hpage : ∀ items total, items.length ≤ 3 → ∃ p,
      (stays.run r ⟨some 5, some 6⟩ (counted items total)).outcome = some (.ok p) ∧
        p.Consistent r ⟨items, total⟩ := by
    intro items total hfits
    obtain ⟨hok, hinTime, _⟩ := returned_page_consistent hr ⟨some 5, some 6⟩ (counted items total)
    obtain ⟨p, hp⟩ := (hinTime _ (hsent items total) 5 ⟨items, total⟩ rfl (by simp) (by simp)).1 hfits
    obtain ⟨batch, rows, _, hanswer, hconsistent⟩ := hok p hp
    cases hanswer
    exact ⟨p, hp, hconsistent⟩
  refine ⟨?_, hpage [] (-3) (by decide), ?_⟩
  · obtain ⟨p, hp, hconsistent⟩ := hpage [4, 5, 6] 7 (by decide)
    refine ⟨p, hp, hconsistent, ?_⟩
    show p.items.map Nat.succ = [5, 6, 7]
    rw [hconsistent.items]
    rfl
  · obtain ⟨_, hinTime, _⟩ :=
      returned_page_consistent hr ⟨some 5, some 6⟩ (counted [4, 5, 6, 7] 7)
    rw [(hinTime _ (hsent _ _) 5 ⟨[4, 5, 6, 7], 7⟩ rfl (by simp) (by simp)).2 (by decide)]
    decide +kernel

end PagedSql

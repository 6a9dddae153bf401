import PagedSql.Proofs.Run.Checks

/-!
# How a run ends

While a run waits, it is looked at again and again: each look asks for the cancellation first, then for
the answer of the executor, and then for the clock of the timeout.  The run ends at the first look that
finds one of them.  So its ending is settled by the order in which the three come, and the order of the
looks decides between two that come at one time.

* `Future`, `timer`, `orElse`   what looks find, instant after instant, and two of them in one look;
* `Future.Yields`, `Rests`      the first look that finds something, and none that does;
* `ending`                      the looks at a run;
* `ComesFirst`                  the event of an ending comes, and none that is seen before it;
* `race_eq_some_iff_yields`, `race_eq_some_iff`   the ending of a run is what the looks find first;
* `Limits.Untied`, `CancelsFirst`, `TimesOutFirst`   schedules without events at one time, and their order;
* `outcome_of_schedule`         the outcome of a run from its schedule.
-/

namespace PagedSql
open PagedSql.Decimal

/-! ## looks -/

/-- what a look finds, at each instant -/
def Future (β : Type) := Nat → Option β

namespace Future
variable {β : Type}

/-- found from its time on -/
def timer (time : Option Nat) (b : β) : Future β :=
  fun now => if comesBy time (some now) then some b else none

/-- one look at both, at the second only if nothing is found at the first -/
def orElse (f g : Future β) : Future β := fun now => (f now).or (g now)

/-- looked at before the clock that ends it -/
def within (f : Future β) (limit : Option Nat) (late : β) : Future β := f.orElse (timer limit late)

/-- the value that is found first -/
def Yields (f : Future β) (b : β) : Prop := ∃ t, f t = some b ∧ ∀ s < t, f s = none

/-- nothing is ever found -/
def Rests (f : Future β) : Prop := ∀ t, f t = none

theorem Yields.unique {f : Future β} {a b : β} (ha : f.Yields a) (hb : f.Yields b) : a = b := by
  obtain ⟨t, hat, hbefore⟩ := ha
  obtain ⟨u, hbu, hbefore'⟩ := hb
  rcases Nat.lt_trichotomy t u with hlt | rfl | hlt
  · have hnone := hbefore' t hlt
    rw [hat] at hnone
    cases hnone
  · rw [hat] at hbu
    exact Option.some.inj hbu
  · have hnone := hbefore u hlt
    rw [hbu] at hnone
    cases hnone

theorem Yields.not_rests {f : Future β} {b : β} (h : f.Yields b) : ¬ f.Rests := by
  intro hrests
  obtain ⟨t, ht, _⟩ := h
  rw [hrests t] at ht
  cases ht

theorem timer_of_le {time : Option Nat} {t now : Nat} (h : time = some t) (hle : t ≤ now) (b : β) :
    timer time b now = some b := by
  have hcomes : comesBy time (some now) = true := by
    rw [h]
    exact decide_eq_true hle
  exact if_pos hcomes

theorem timer_of_lt {time : Option Nat} {now : Nat} (h : ∀ t, time = some t → now < t) (b : β) :
    timer time b now = none := by
  have hcomes : ¬ comesBy time (some now) = true := by
    cases htime : time with
    | none => exact Bool.false_ne_true
    | some t =>
      have hlt := h t htime
      rw [comesBy_some, decide_eq_true_eq]
      omega
  exact if_neg hcomes

end Future

open Future

/-- the looks at a run: at the cancellation, and then at an executor within its limit -/
def ending (l : Limits) (completion : Option Nat) : Future Ending :=
  (timer l.cancel .cancelled).orElse ((timer completion .completed).within l.timeout .timedOut)

/-! ## the first event -/

/-- the event of the ending comes; those that a look asks for before it come later, the others not
before it -/
def ComesFirst (l : Limits) (completion : Option Nat) : Ending → Prop
  | .cancelled => ∃ t, l.cancel = some t ∧ (∀ u, completion = some u → t ≤ u) ∧
    ∀ u, l.timeout = some u → t ≤ u
  | .completed => ∃ t, completion = some t ∧ (∀ u, l.cancel = some u → t < u) ∧
    ∀ u, l.timeout = some u → t ≤ u
  | .timedOut => ∃ t, l.timeout = some t ∧ (∀ u, l.cancel = some u → t < u) ∧
    ∀ u, completion = some u → t < u

section
variable {l : Limits} {completion : Option Nat}

/-- nothing is found before the time of any of the three -/
theorem ending_eq_none {now : Nat} (hcancel : ∀ u, l.cancel = some u → now < u)
    (hcompletion : ∀ u, completion = some u → now < u)
    (htimeout : ∀ u, l.timeout = some u → now < u) : ending l completion now = none := by
  show (timer l.cancel Ending.cancelled now).or
    ((timer completion Ending.completed now).or (timer l.timeout Ending.timedOut now)) = none
  rw [timer_of_lt hcancel, timer_of_lt hcompletion, timer_of_lt htimeout]
  rfl

theorem yields_of_comesFirst {e : Ending} (h : ComesFirst l completion e) :
    (ending l completion).Yields e := by
  cases e with
  | cancelled =>
    obtain ⟨t, ht, hcompletion, htimeout⟩ := h
    refine ⟨t, ?_, fun s hs => ending_eq_none ?_ ?_ ?_⟩
    · show (timer l.cancel Ending.cancelled t).or _ = _
      rw [timer_of_le ht le_rfl]
      rfl
    · intro u hu
      rw [ht] at hu
      cases hu
      exact hs
    · exact fun u hu => lt_of_lt_of_le hs (hcompletion u hu)
    · exact fun u hu => lt_of_lt_of_le hs (htimeout u hu)
  | completed =>
    obtain ⟨t, ht, hcancel, htimeout⟩ := h
    refine ⟨t, ?_, fun s hs => ending_eq_none ?_ ?_ ?_⟩
    · show (timer l.cancel Ending.cancelled t).or ((timer completion Ending.completed t).or _) = _
      rw [timer_of_lt hcancel, timer_of_le ht le_rfl]
      rfl
    · exact fun u hu => lt_trans hs (hcancel u hu)
    · intro u hu
      rw [ht] at hu
      cases hu
      exact hs
    · exact fun u hu => lt_of_lt_of_le hs (htimeout u hu)
  | timedOut =>
    obtain ⟨t, ht, hcancel, hcompletion⟩ := h
    refine ⟨t, ?_, fun s hs => ending_eq_none ?_ ?_ ?_⟩
    · show (timer l.cancel Ending.cancelled t).or ((timer completion Ending.completed t).or
        (timer l.timeout Ending.timedOut t)) = _
      rw [timer_of_lt hcancel, timer_of_lt hcompletion, timer_of_le ht le_rfl]
      rfl
    · exact fun u hu => lt_trans hs (hcancel u hu)
    · exact fun u hu => lt_trans hs (hcompletion u hu)
    · intro u hu
      rw [ht] at hu
      cases hu
      exact hs

/-! ## the race -/

theorem comesBy_eq_true_iff {a b : Option Nat} :
    comesBy a b = true ↔ ∃ t, a = some t ∧ ∀ u, b = some u → t ≤ u := by
  cases a with
  | none => simp [comesBy_none_left]
  | some t =>
    cases b with
    | none => simp [comesBy_none_right]
    | some u => simp [comesBy_some]

theorem exists_lt_of_not_comesBy {a b : Option Nat} (h : ¬ comesBy a b = true) {t : Nat}
    (ht : a = some t) : ∃ u, b = some u ∧ u < t := by
  subst ht
  cases b with
  | none => exact absurd (comesBy_none_right t) h
  | some u =>
    rw [comesBy_some, decide_eq_true_eq] at h
    exact ⟨u, rfl, by omega⟩

/-- a cancellation that does not win comes behind one of the two others -/
theorem exists_before_cancel
    (h : ¬ (comesBy l.cancel l.timeout && comesBy l.cancel completion) = true) {u : Nat}
    (hu : l.cancel = some u) : ∃ v, (l.timeout = some v ∨ completion = some v) ∧ v < u := by
  by_cases htimeout : comesBy l.cancel l.timeout = true
  · have hcompletion : ¬ comesBy l.cancel completion = true := by
      intro hcomes
      exact h (Bool.and_eq_true_iff.mpr ⟨htimeout, hcomes⟩)
    obtain ⟨v, hv, hlt⟩ := exists_lt_of_not_comesBy hcompletion hu
    exact ⟨v, Or.inr hv, hlt⟩
  · obtain ⟨v, hv, hlt⟩ := exists_lt_of_not_comesBy htimeout hu
    exact ⟨v, Or.inl hv, hlt⟩

/-- the cases are those of the race, in its order -/
theorem comesFirst_of_race {e : Ending} (h : race l completion = some e) :
    ComesFirst l completion e := by
  unfold race at h
  split at h
  · next hbefore =>
    cases h
    have hzero : l.cancel = some 0 := of_decide_eq_true hbefore
    exact ⟨0, hzero, fun u _ => Nat.zero_le u, fun u _ => Nat.zero_le u⟩
  next hbefore =>
  split at h
  · next hready =>
    cases h
    refine ⟨0, hready, fun u hu => Nat.pos_of_ne_zero fun hzero => hbefore ?_,
      fun u _ => Nat.zero_le u⟩
    subst hzero
    exact decide_eq_true hu
  split at h
  · next hcancels =>
    cases h
    rw [Bool.and_eq_true] at hcancels
    obtain ⟨t, ht, htimeout⟩ := comesBy_eq_true_iff.mp hcancels.1
    obtain ⟨t', ht', hcompletion⟩ := comesBy_eq_true_iff.mp hcancels.2
    rw [ht] at ht'
    cases ht'
    exact ⟨t, ht, hcompletion, htimeout⟩
  next hcancels =>
  split at h
  · next hcompletes =>
    cases h
    obtain ⟨t, ht, htimeout⟩ := comesBy_eq_true_iff.mp hcompletes
    refine ⟨t, ht, fun u hu => ?_, htimeout⟩
    obtain ⟨v, hv | hv, hlt⟩ := exists_before_cancel hcancels hu
    · exact lt_of_le_of_lt (htimeout v hv) hlt
    · rw [ht] at hv
      cases hv
      exact hlt
  next hcompletes =>
  split at h
  · next htimes =>
    cases h
    obtain ⟨t, ht⟩ := Option.isSome_iff_exists.mp htimes
    have hcompletion : ∀ u, completion = some u → t < u := by
      intro u hu
      obtain ⟨v, hv, hlt⟩ := exists_lt_of_not_comesBy hcompletes hu
      rw [ht] at hv
      cases hv
      exact hlt
    refine ⟨t, ht, fun u hu => ?_, hcompletion⟩
    obtain ⟨v, hv | hv, hlt⟩ := exists_before_cancel hcancels hu
    · rw [ht] at hv
      cases hv
      exact hlt
    · exact lt_trans (hcompletion v hv) hlt
  · cases h

theorem never_of_race (h : race l completion = none) :
    l.cancel = none ∧ l.timeout = none ∧ completion = none := by
  unfold race at h
  split at h
  · cases h
  split at h
  · cases h
  split at h
  · cases h
  next hcancels =>
  split at h
  · cases h
  next hcompletes =>
  split at h
  · cases h
  next htimeout =>
  have htimeout' : l.timeout = none := Option.not_isSome_iff_eq_none.mp htimeout
  rw [htimeout'] at hcancels hcompletes
  cases hcompletion : completion with
  | some t =>
    rw [hcompletion] at hcompletes
    exact absurd (comesBy_none_right t) hcompletes
  | none =>
    refine ⟨?_, htimeout', rfl⟩
    cases hcancel : l.cancel with
    | none => rfl
    | some t =>
      rw [hcompletion, hcancel] at hcancels
      exact absurd rfl hcancels

theorem rests_of_race (h : race l completion = none) : (ending l completion).Rests := by
  obtain ⟨hcancel, htimeout, hcompletion⟩ := never_of_race h
  refine fun now => ending_eq_none ?_ ?_ ?_
  · rw [hcancel]
    exact fun u hu => by cases hu
  · rw [hcompletion]
    exact fun u hu => by cases hu
  · rw [htimeout]
    exact fun u hu => by cases hu

/-- **The race is what the looks find first.** -/
theorem race_eq_some_iff_yields {e : Ending} :
    race l completion = some e ↔ (ending l completion).Yields e := by
  constructor
  · exact fun h => yields_of_comesFirst (comesFirst_of_race h)
  · intro h
    cases hrace : race l completion with
    | none => exact absurd (rests_of_race hrace) h.not_rests
    | some e' => rw [h.unique (yields_of_comesFirst (comesFirst_of_race hrace))]

theorem race_eq_some_iff {e : Ending} : race l completion = some e ↔ ComesFirst l completion e :=
  ⟨comesFirst_of_race, fun h => race_eq_some_iff_yields.mpr (yields_of_comesFirst h)⟩

end

/-! ## schedules -/

/-- the time comes, and before the other -/
def Before (a b : Option Nat) : Prop := ∃ t, a = some t ∧ ∀ u, b = some u → t < u

namespace Limits

/-- no two events at one time, but that an executor that is ready at once may meet a timeout of zero -/
structure Untied (l : Limits) (completion : Option Nat) : Prop where
  cancel_timeout : ∀ t, l.cancel = some t → l.timeout ≠ some t
  cancel_completion : ∀ t, l.cancel = some t → completion ≠ some t
  timeout_completion : ∀ t, l.timeout = some t → completion = some t → t = 0

def CancelsFirst (l : Limits) (completion : Option Nat) : Prop :=
  Before l.cancel l.timeout ∧ Before l.cancel completion

/-- the timeout is the earliest, and the executor is not ready at the first look -/
def TimesOutFirst (l : Limits) (completion : Option Nat) : Prop :=
  (∃ t, l.timeout = some t ∧ (∀ u, l.cancel = some u → t ≤ u) ∧ ∀ u, completion = some u → t ≤ u) ∧
    completion ≠ some 0

variable {l : Limits} {completion : Option Nat}

theorem CancelsFirst.race_eq (h : l.CancelsFirst completion) :
    race l completion = some .cancelled := by
  obtain ⟨⟨t, ht, htimeout⟩, t', ht', hcompletion⟩ := h
  rw [ht] at ht'
  cases ht'
  exact race_eq_some_iff.mpr
    ⟨t, ht, fun u hu => le_of_lt (hcompletion u hu), fun u hu => le_of_lt (htimeout u hu)⟩

theorem TimesOutFirst.race_eq (h : l.TimesOutFirst completion) (huntied : l.Untied completion) :
    race l completion = some .timedOut := by
  obtain ⟨⟨t, ht, hcancel, hcompletion⟩, hready⟩ := h
  refine race_eq_some_iff.mpr ⟨t, ht, fun u hu => ?_, fun u hu => ?_⟩
  · have hne : u ≠ t := by
      rintro rfl
      exact huntied.cancel_timeout u hu ht
    exact lt_of_le_of_ne (hcancel u hu) hne.symm
  · have hne : u ≠ t := by
      rintro rfl
      have hzero := huntied.timeout_completion u ht hu
      subst hzero
      exact hready hu
    exact lt_of_le_of_ne (hcompletion u hu) hne.symm

/-- the executor is left to answer, if it ever does -/
theorem Untied.race_eq (huntied : l.Untied completion) (hcancels : ¬ l.CancelsFirst completion)
    (htimes : ¬ l.TimesOutFirst completion) :
    race l completion = completion.map fun _ => .completed := by
  cases hrace : race l completion with
  | none =>
    obtain ⟨_, _, hnone⟩ := never_of_race hrace
    rw [hnone]
    rfl
  | some e =>
    have hfirst := race_eq_some_iff.mp hrace
    cases e with
    | completed =>
      obtain ⟨t, ht, _⟩ := hfirst
      rw [ht]
      rfl
    | cancelled =>
      obtain ⟨t, ht, hcompletion, htimeout⟩ := hfirst
      refine absurd ⟨⟨t, ht, fun u hu => ?_⟩, t, ht, fun u hu => ?_⟩ hcancels
      · have hne : t ≠ u := by
          rintro rfl
          exact huntied.cancel_timeout t ht hu
        exact lt_of_le_of_ne (htimeout u hu) hne
      · have hne : t ≠ u := by
          rintro rfl
          exact huntied.cancel_completion t ht hu
        exact lt_of_le_of_ne (hcompletion u hu) hne
    | timedOut =>
      obtain ⟨t, ht, hcancel, hcompletion⟩ := hfirst
      refine absurd ⟨⟨t, ht, fun u hu => le_of_lt (hcancel u hu),
        fun u hu => le_of_lt (hcompletion u hu)⟩, fun hready => ?_⟩ htimes
      exact absurd (hcompletion 0 hready) (Nat.not_lt_zero t)

end Limits

/-! ## outcomes -/

section
variable {α : Type}

/-- what the executor's own answer comes to -/
def answered (place : Place) (r : Request) (batch : Batch) :
    Except ExecutorError (Rows α) → Except Failure (Page α)
  | .error e => .error (executorFailure place batch e)
  | .ok rows => pageOf place r rows

theorem settle_completed (place : Place) (r : Request) (l : Limits) (batch : Batch)
    (answer : Except ExecutorError (Rows α)) :
    settle place r l batch answer .completed = answered place r batch answer := by
  cases answer <;> rfl

theorem pageOf_eq_ok {place : Place} {r : Request} {rows : Rows α} {page : Page α}
    (h : pageOf place r rows = .ok page) : rows.items.length ≤ r.pageSize.toNat ∧
      page = .make rows.items (countOf rows.total) r.page r.pageSize := by
  unfold pageOf at h
  split at h
  · cases h
  · next hle => exact ⟨not_lt.mp hle, (Except.ok.inj h).symm⟩

/-- a page is what the executor has answered -/
theorem settle_eq_ok {place : Place} {r : Request} {l : Limits} {batch : Batch}
    {answer : Except ExecutorError (Rows α)} {e : Ending} {page : Page α}
    (h : settle place r l batch answer e = .ok page) :
    e = .completed ∧ ∃ rows, answer = .ok rows ∧ rows.items.length ≤ r.pageSize.toNat ∧
      page = .make rows.items (countOf rows.total) r.page r.pageSize := by
  cases e with
  | cancelled => cases h
  | timedOut => cases h
  | completed =>
    rw [settle_completed] at h
    cases answer with
    | error e => cases h
    | ok rows => exact ⟨rfl, rows, rfl, pageOf_eq_ok h⟩

/-- an executor is not asked anything if the run is cancelled before -/
theorem Subject.run_cancelledBefore {s : Subject} {r : Request} {l : Limits}
    (h : l.cancelledBefore = true) (executor executor' : Batch → Reply α) :
    s.run r l executor' = s.run r l executor := by
  have hrace : ∀ completion, race l completion = some .cancelled := fun _ => if_pos h
  have hexecute : ∀ q, execute s.place r l executor' q = execute s.place r l executor q := by
    intro q
    unfold execute
    cases r.offset? with
    | none => rfl
    | some offset =>
      dsimp only
      rw [hrace, hrace, if_pos h]
      rfl
  rw [run_eq, run_eq]
  unfold Plan.run
  cases (s.plan r).query with
  | error f => rfl
  | ok q =>
    dsimp only
    rw [hexecute]

end

/-- **The outcome of a run from its schedule.**  A request that passes the checks and is cancelled
beforehand fails as cancelled and asks the executor nothing.  Else exactly its one batch is sent; and if
no two events come at one time, the run is cancelled if the cancellation is the earliest, fails at its
timeout if that is the earliest and the executor is not ready at once, and otherwise comes to what the
executor alone has answered, and to nothing if it never does.  A page is all of the rows of an executor
that was done before both limits. -/
theorem outcome_of_schedule {s : Subject} {r : Request} (hr : r.Reachable) (hs : s.fault? r = none)
    {α : Type} (l : Limits) (executor : Batch → Reply α) :
    let report := s.run r l executor
    let reply := executor (s.batch r)
    (l.cancel = some 0 → report.outcome = some (.error ⟨s.place, .cancelled⟩) ∧
      report.batches = [] ∧ ∀ executor' : Batch → Reply α, s.run r l executor' = report) ∧
    (l.cancel ≠ some 0 → report.batches = [s.batch r]) ∧
    (l.cancel ≠ some 0 → l.Untied reply.after →
      (l.CancelsFirst reply.after → report.outcome = some (.error ⟨s.place, .cancelled⟩)) ∧
      (l.TimesOutFirst reply.after → ∃ limit, l.timeout = some limit ∧
        report.outcome = some (.error ⟨s.place, .database
          ("Query timed out after " ++ secondsText limit ++ "s") (s.batch r).script none⟩)) ∧
      (¬ l.CancelsFirst reply.after → ¬ l.TimesOutFirst reply.after →
        report.outcome = reply.after.map fun _ => answered s.place r (s.batch r) reply.answer) ∧
      (∀ page, report.outcome = some (.ok page) → ∃ t rows, reply.after = some t ∧
        (∀ u, l.cancel = some u → t < u) ∧ (∀ u, l.timeout = some u → t < u ∨ t = 0) ∧
        reply.answer = .ok rows ∧ rows.items.length ≤ r.pageSize.toNat ∧
        page = .make rows.items (countOf rows.total) r.page r.pageSize) ∧
      (report.outcome = none ↔
        l.cancel = none ∧ l.timeout = none ∧ reply.after = none)) := by
  intro report reply
  obtain ⟨houtcome, hbatches⟩ := Subject.run_of_faultless l executor hr.normal.toInRange hs
  refine ⟨fun hcancel => ?_, fun hcancel => ?_, fun hcancel huntied => ⟨?_, ?_, ?_, ?_, ?_⟩⟩
  · have hbefore : l.cancelledBefore = true := decide_eq_true hcancel
    have hrace : race l reply.after = some .cancelled := if_pos hbefore
    refine ⟨?_, ?_, Subject.run_cancelledBefore hbefore executor⟩
    · rw [houtcome, hrace]
      rfl
    · rw [hbatches, if_pos hbefore]
  · have hbefore : ¬ l.cancelledBefore = true := fun h => hcancel (of_decide_eq_true h)
    rw [hbatches, if_neg hbefore]
  · intro h
    rw [houtcome, h.race_eq]
    rfl
  · intro h
    have hrace := h.race_eq huntied
    obtain ⟨⟨limit, hlimit, _⟩, _⟩ := h
    refine ⟨limit, hlimit, ?_⟩
    rw [houtcome, hrace, Option.map_some, settle, timeoutFailure, hlimit]
    rfl
  · intro hcancels htimes
    rw [houtcome, huntied.race_eq hcancels htimes]
    cases reply.after with
    | none => rfl
    | some t =>
      rw [Option.map_some, Option.map_some, Option.map_some, settle_completed]
  · intro page hpage
    rw [houtcome] at hpage
    obtain ⟨e, hrace, hsettle⟩ := Option.map_eq_some_iff.mp hpage
    obtain ⟨rfl, rows, hanswer, hrows⟩ := settle_eq_ok hsettle
    obtain ⟨t, ht, hbefore, htimeout⟩ := race_eq_some_iff.mp hrace
    refine ⟨t, rows, ht, hbefore, fun u hu => ?_, hanswer, hrows⟩
    rcases Nat.lt_or_eq_of_le (htimeout u hu) with hlt | rfl
    · exact Or.inl hlt
    · exact Or.inr (huntied.timeout_completion t hu ht)
  · rw [houtcome, Option.map_eq_none_iff]
    constructor
    · exact never_of_race
    · rintro ⟨hnoCancel, hnoTimeout, hnever⟩
      have hcancels : ¬ l.CancelsFirst reply.after := by
        rintro ⟨⟨t, ht, _⟩, _⟩
        rw [hnoCancel] at ht
        cases ht
      have htimes : ¬ l.TimesOutFirst reply.after := by
        rintro ⟨⟨t, ht, _⟩, _⟩
        rw [hnoTimeout] at ht
        cases ht
      rw [huntied.race_eq hcancels htimes, hnever]
      rfl

def stays : Subject := .table (.ofTable "Stays")

/-- one row, if ever it comes -/
def slowStays (after : Option Nat) (_ : Batch) : Reply Nat := ⟨after, .ok ⟨[7], 1⟩⟩

/-- late for its timeout, and in time for a later one but not for the cancellation; ready at once with no
time to wait; and never ready -/
theorem outcome_of_schedule_of_slowStays :
    let r := Request.make 1 10
    stays.fault? r = none ∧
      (stays.run r ⟨some 2000, some 5000⟩ (slowStays (some 3000))).outcome =
        some (.error ⟨⟨.table, "Stays"⟩,
          .database "Query timed out after 2.0s" (stays.batch r).script none⟩) ∧
      (stays.run r ⟨some 4000, some 1000⟩ (slowStays (some 3000))).outcome =
        some (.error ⟨⟨.table, "Stays"⟩, .cancelled⟩) ∧
      (stays.run r ⟨some 0, none⟩ (slowStays (some 0))).outcome =
        some (.ok (.make [7] 1 1 10)) ∧
      (stays.run r ⟨none, none⟩ (slowStays none)).outcome = none := by
  intro r
  have hr : r.Reachable := .make 1 10
  have hs : stays.fault? r = none := by decide +kernel
  refine ⟨hs, ?_, ?_, ?_, ?_⟩
  · have hspec := outcome_of_schedule hr hs ⟨some 2000, some 5000⟩ (slowStays (some 3000))
    obtain ⟨_, htimes, _⟩ := hspec.2.2 (by decide) ⟨by simp, by simp [slowStays], by simp [slowStays]⟩
    obtain ⟨limit, hlimit, houtcome⟩ := htimes ⟨⟨2000, rfl, by simp, by simp [slowStays]⟩, by decide⟩
    cases hlimit
    have htext : secondsText 2000 = "2.0" := by decide +kernel
    rw [houtcome, htext]
    rfl
  · have hspec := outcome_of_schedule hr hs ⟨some 4000, some 1000⟩ (slowStays (some 3000))
    obtain ⟨hcancels, _⟩ := hspec.2.2 (by decide) ⟨by simp, by simp [slowStays], by simp [slowStays]⟩
    exact hcancels ⟨⟨1000, rfl, by simp⟩, 1000, rfl, by simp [slowStays]⟩
  · have hspec := outcome_of_schedule hr hs ⟨some 0, none⟩ (slowStays (some 0))
    obtain ⟨_, _, hown, _⟩ := hspec.2.2 (by decide) ⟨by simp, by simp, by simp [slowStays]⟩
    have hcancels : ¬ Limits.CancelsFirst ⟨some 0, none⟩ (some 0) := by
      rintro ⟨⟨t, ht, _⟩, _⟩
      cases ht
    have htimes : ¬ Limits.TimesOutFirst ⟨some 0, none⟩ (some 0) := fun h => h.2 rfl
    exact hown hcancels htimes
  · have hspec := outcome_of_schedule hr hs ⟨none, none⟩ (slowStays none)
    obtain ⟨_, _, _, _, hnone⟩ := hspec.2.2 (by decide) ⟨by simp, by simp, by simp⟩
    exact hnone.mpr ⟨rfl, rfl, rfl⟩

end PagedSql

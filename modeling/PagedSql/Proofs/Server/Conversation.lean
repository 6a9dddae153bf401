import Mathlib.Data.List.Forall2
import PagedSql.Server
import PagedSql.Proofs.Placeholder.Numbering
import PagedSql.Proofs.Server.Argument

/-!
# A page is read in one transaction or not at all

Each statement waits for the one before it.  So a dialogue breaks off behind the first statement that
is not done, whatever that one ends in, and an answer has been through all five.

* `Dialogue.Says`   the statements of a dialogue, the same whatever is given back;
* `converse_isPrefix`, `done_of_followed`   those that are sent: the first ones, and each that is
  followed by another was done;
* `sent_of_done`    a dialogue that comes to its end has sent them all;
* `converse_conversation_iff`   what is needed for a page, and what the page consists of;
* `Server.fetch_of_numbered`   running a batch is the conversation about its two statements;
* `conversation_all_or_nothing`   what reaches the server, and when there is an answer.
-/

namespace PagedSql

/-! ## dialogues -/

section
variable {α β : Type}

inductive Dialogue.Says : Dialogue α β → List (Stage × Sent) → Prop
  | finish (result : β) : Says (.finish result) []
  | say {stage : Stage} {sent : Sent} {next : stage.Given α → Dialogue α β}
      {steps : List (Stage × Sent)} (behind : ∀ given, Says (next given) steps) :
      Says (.say stage sent next) ((stage, sent) :: steps)

variable {respond : (stage : Stage) → Response (stage.Given α)}

section
variable {stage : Stage} {sent : Sent} {next : stage.Given α → Dialogue α β}

theorem converse_done {given : stage.Given α} (h : respond stage = .done given) :
    converse respond (.say stage sent next) =
      (sent :: (converse respond (next given)).1, (converse respond (next given)).2) := by
  rw [converse, h]

theorem converse_stop (h : ¬ ∃ given, respond stage = .done given) :
    (converse respond (.say stage sent next)).1 = [sent] ∧
      ∀ result, (converse respond (.say stage sent next)).2 ≠ .done result := by
  rw [converse]
  cases hr : respond stage with
  | done given => exact absurd ⟨given, hr⟩ h
  | failed e => exact ⟨rfl, fun result hdone => nomatch hdone⟩
  | dropped => exact ⟨rfl, fun result hdone => nomatch hdone⟩

theorem converse_say_iff {result : β} :
    (converse respond (.say stage sent next)).2 = .done result ↔
      ∃ given, respond stage = .done given ∧ (converse respond (next given)).2 = .done result := by
  constructor
  · intro h
    by_cases hdone : ∃ given, respond stage = .done given
    · obtain ⟨given, hgiven⟩ := hdone
      rw [converse_done hgiven] at h
      exact ⟨given, hgiven, h⟩
    · exact absurd h ((converse_stop hdone).2 result)
  · rintro ⟨given, hgiven, h⟩
    rw [converse_done hgiven]
    exact h

end

section
variable {d : Dialogue α β} {steps : List (Stage × Sent)}

/-- the statements sent are the first ones of the dialogue -/
theorem converse_isPrefix (h : d.Says steps) :
    (converse respond d).1 <+: steps.map Prod.snd := by
  induction h with
  | finish result => exact List.nil_prefix
  | @say stage sent next steps _ ih =>
    rw [List.map_cons]
    by_cases hdone : ∃ given, respond stage = .done given
    · obtain ⟨given, hgiven⟩ := hdone
      rw [converse_done hgiven]
      exact (List.prefix_cons_inj sent).mpr (ih given)
    · rw [(converse_stop hdone).1]
      exact (List.prefix_cons_inj sent).mpr List.nil_prefix

theorem done_of_followed (h : d.Says steps) {i : Nat} {x : Stage × Sent} (hx : steps[i]? = some x)
    (hi : i + 1 < (converse respond d).1.length) : ∃ given, respond x.1 = .done given := by
  induction h generalizing i with
  | finish result => exact absurd hx (by simp)
  | @say stage sent next steps _ ih =>
    by_cases hdone : ∃ given, respond stage = .done given
    · cases i with
      | zero =>
        obtain rfl : (stage, sent) = x := by simpa using hx
        exact hdone
      | succ i =>
        obtain ⟨given, hgiven⟩ := hdone
        rw [converse_done hgiven, List.length_cons] at hi
        exact ih given hx (Nat.lt_of_succ_lt_succ hi)
    · rw [(converse_stop hdone).1, List.length_singleton] at hi
      omega

theorem sent_of_done (h : d.Says steps) {result : β} (hdone : (converse respond d).2 = .done result) :
    (converse respond d).1 = steps.map Prod.snd := by
  induction h with
  | finish result => rfl
  | @say stage sent next steps _ ih =>
    obtain ⟨given, hgiven, hrest⟩ := converse_say_iff.mp hdone
    rw [converse_done hgiven, ih given hrest, List.map_cons]

end

end

/-! ## batches -/

/-- the stages in the order of the conversation -/
def Stage.all : List Stage := [.begin, .snapshot, .rows, .count, .commit]

section
variable {α : Type} (rows count : Numbered)

/-- the statements of a conversation, with the stages at which they are sent -/
def conversationSteps : List (Stage × Sent) :=
  [(.begin, ⟨"BEGIN", none⟩), (.snapshot, ⟨transactionSql, some []⟩), (.rows, .ofNumbered rows),
    (.count, .ofNumbered count), (.commit, ⟨"COMMIT", none⟩)]

theorem says_conversation :
    (conversation rows count : Dialogue α (Rows α)).Says (conversationSteps rows count) :=
  .say fun _ => .say fun _ => .say fun _ => .say fun _ => .say fun _ => .finish _

theorem stages_conversationSteps : (conversationSteps rows count).map Prod.fst = Stage.all := rfl

/-- a page takes all five statements; its rows are what is given for the one query, and their number
what is given for the other -/
theorem converse_conversation_iff {respond : (stage : Stage) → Response (stage.Given α)}
    {page : Rows α} : (converse respond (conversation rows count)).2 = .done page ↔
      (∀ stage, ∃ given, respond stage = .done given) ∧
        respond .rows = .done page.items ∧ respond .count = .done page.total := by
  simp only [conversation, converse_say_iff]
  constructor
  · rintro ⟨_, hbegin, _, hsnapshot, items, hrows, total, hcount, _, hcommit, hpage⟩
    obtain rfl : ⟨items, total⟩ = page := Response.done.inj hpage
    refine ⟨fun stage => ?_, hrows, hcount⟩
    cases stage with
    | begin => exact ⟨_, hbegin⟩
    | snapshot => exact ⟨_, hsnapshot⟩
    | rows => exact ⟨_, hrows⟩
    | count => exact ⟨_, hcount⟩
    | commit => exact ⟨_, hcommit⟩
  · rintro ⟨hall, hrows, hcount⟩
    obtain ⟨_, hbegin⟩ := hall .begin
    obtain ⟨_, hsnapshot⟩ := hall .snapshot
    obtain ⟨_, hcommit⟩ := hall .commit
    exact ⟨_, hbegin, _, hsnapshot, _, hrows, _, hcount, _, hcommit, rfl⟩

end

theorem Response.outcome_eq_ok {β : Type} {r : Response β} {given : β} :
    r.outcome = some (.ok given) ↔ r = .done given := by
  cases r with
  | done g => simp
  | failed e => simp
  | dropped => simp

namespace Server
variable {α : Type} (s : Server α) {b : Batch}

/-- a name without a value in either statement ends the run before there is a connection -/
theorem fetch_of_unbound {n : List Char}
    (h : n ∈ placeholders b.rowsSql ∨ n ∈ placeholders b.countSql) (hn : ¬ b.parameters.Binds n) :
    ∃ u, s.fetch b = ([], some (.error (.unbound u))) := by
  unfold fetch
  cases hrows : numbered b.rowsSql b.parameters with
  | error u => exact ⟨u, rfl⟩
  | ok rows =>
    cases hcount : numbered b.countSql b.parameters with
    | error u => exact ⟨u, rfl⟩
    | ok count =>
      have hbound : b.parameters.Binds n := by
        rcases h with h | h
        · exact binds_of_numbered hrows n h
        · exact binds_of_numbered hcount n h
      exact absurd hbound hn

section
variable {rows count : Numbered} (hrows : numbered b.rowsSql b.parameters = .ok rows)
  (hcount : numbered b.countSql b.parameters = .ok count)
include hrows hcount

theorem fetch_of_not_connected (h : s.connect ≠ .done ()) :
    (s.fetch b).1 = [] ∧ ∀ page, (s.fetch b).2 ≠ some (.ok page) := by
  unfold fetch
  rw [hrows, hcount]
  cases hc : s.connect with
  | done u => exact absurd hc h
  | failed e => exact ⟨rfl, fun page hpage => nomatch hpage⟩
  | dropped => exact ⟨rfl, fun page hpage => nomatch hpage⟩

theorem fetch_of_numbered (h : s.connect = .done ()) :
    s.fetch b = ((converse s.respond (conversation rows count)).1,
      (converse s.respond (conversation rows count)).2.outcome) := by
  unfold fetch
  rw [hrows, hcount, h]

theorem fetch_isPrefix : (s.fetch b).1 <+: (conversationSteps rows count).map Prod.snd := by
  by_cases h : s.connect = .done ()
  · rw [s.fetch_of_numbered hrows hcount h]
    exact converse_isPrefix (says_conversation rows count)
  · rw [(s.fetch_of_not_connected hrows hcount h).1]
    exact List.nil_prefix

theorem done_of_fetch_followed {i : Nat} {stage : Stage} (hstage : Stage.all[i]? = some stage)
    (hi : i + 1 < (s.fetch b).1.length) : ∃ given, s.respond stage = .done given := by
  by_cases h : s.connect = .done ()
  · rw [s.fetch_of_numbered hrows hcount h] at hi
    rw [← stages_conversationSteps rows count, List.getElem?_map,
      Option.map_eq_some_iff] at hstage
    obtain ⟨x, hx, rfl⟩ := hstage
    exact done_of_followed (says_conversation rows count) hx hi
  · rw [(s.fetch_of_not_connected hrows hcount h).1] at hi
    exact absurd hi (by simp)

theorem fetch_eq_ok_iff {page : Rows α} : (s.fetch b).2 = some (.ok page) ↔
    s.connect = .done () ∧ (∀ stage, ∃ given, s.respond stage = .done given) ∧
      s.respond .rows = .done page.items ∧ s.respond .count = .done page.total := by
  by_cases h : s.connect = .done ()
  · rw [s.fetch_of_numbered hrows hcount h, Response.outcome_eq_ok, converse_conversation_iff]
    exact ⟨fun hdone => ⟨h, hdone⟩, fun hdone => hdone.2⟩
  · refine ⟨fun hok => ?_, fun hdone => absurd hdone.1 h⟩
    exact absurd hok ((s.fetch_of_not_connected hrows hcount h).2 page)

/-- an answer has been through the whole conversation -/
theorem fetch_all_of_ok {page : Rows α} (h : (s.fetch b).2 = some (.ok page)) :
    (s.fetch b).1 = (conversationSteps rows count).map Prod.snd := by
  have hconnect := ((s.fetch_eq_ok_iff hrows hcount).mp h).1
  rw [s.fetch_of_numbered hrows hcount hconnect] at h ⊢
  exact sent_of_done (says_conversation rows count) (Response.outcome_eq_ok.mp h)

end

end Server

/-- **All or nothing.**  A placeholder without a value keeps the batch from the server.  Otherwise
what reaches the server is a beginning of the five statements, in their order and each behind one
that was done; there is an answer exactly if a connection was had and all five were done, and its
rows are those given for the one query, its number the one given for the other.  A statement that
fails or that nobody waits for any longer is the last one.  The arguments of the two queries carry the
values of their placeholders. -/
theorem conversation_all_or_nothing {α : Type} (s : Server α) (b : Batch) :
    (∀ n, n ∈ placeholders b.rowsSql ∨ n ∈ placeholders b.countSql → ¬ b.parameters.Binds n →
      ∃ u, s.fetch b = ([], some (.error (.unbound u)))) ∧
    ∀ rows count, numbered b.rowsSql b.parameters = .ok rows →
      numbered b.countSql b.parameters = .ok count →
      ∃ rowsArguments countArguments,
        List.Forall₂ Argument.Carries rowsArguments rows.values ∧
        List.Forall₂ Argument.Carries countArguments count.values ∧
        let five : List Sent :=
          [⟨"BEGIN", none⟩, ⟨"SET TRANSACTION ISOLATION LEVEL REPEATABLE READ, READ ONLY", some []⟩,
            ⟨rows.sql, some rowsArguments⟩, ⟨count.sql, some countArguments⟩, ⟨"COMMIT", none⟩]
        (s.fetch b).1 <+: five ∧
        (∀ i stage, Stage.all[i]? = some stage → i + 1 < (s.fetch b).1.length →
          ∃ given, s.respond stage = .done given) ∧
        (∀ page, (s.fetch b).2 = some (.ok page) ↔
          s.connect = .done () ∧ (∀ stage, ∃ given, s.respond stage = .done given) ∧
            s.respond .rows = .done page.items ∧ s.respond .count = .done page.total) ∧
        (∀ page, (s.fetch b).2 = some (.ok page) → (s.fetch b).1 = five) := by
  refine ⟨fun n h hn => s.fetch_of_unbound h hn, fun rows count hrows hcount => ?_⟩
  have hcarries : ∀ vs : List Value,
      List.Forall₂ Argument.Carries (vs.map Argument.ofValue) vs := fun vs =>
    List.forall₂_map_left_iff.mpr (List.forall₂_same.mpr fun v _ => Argument.carries_ofValue v)
  refine ⟨_, _, hcarries rows.values, hcarries count.values, ?_, ?_, ?_, ?_⟩
  · exact s.fetch_isPrefix hrows hcount
  · exact fun i stage hstage hi => s.done_of_fetch_followed hrows hcount hstage hi
  · exact fun page => s.fetch_eq_ok_iff hrows hcount
  · exact fun page => s.fetch_all_of_ok hrows hcount

def pricedBatch : Batch :=
  ⟨"SELECT @n, a FROM t WHERE b > @p", "SELECT COUNT(1) FROM t WHERE b > @p",
    ⟨[("p", .int 3000000000), ("n", .int 7)]⟩⟩

/-- a server that gives one row, and stops or not at the count -/
def countServer (count : Response Int64) : Server Nat where
  connect := .done ()
  respond
    | .rows => .done [4]
    | .count => count
    | .begin | .snapshot | .commit => .done ()
  health := .done ()

/-- a count that fails is the last statement, and leaves the rows without an answer; the number that
takes 64 bits comes behind the one that takes 32 in the one statement, and stands alone in the other -/
theorem conversation_of_failed_count :
    let e : DriverError := .server "canceling statement due to statement timeout"
    let sent := ((countServer (.failed e)).fetch pricedBatch).1
    sent = [⟨"BEGIN", none⟩,
      ⟨"SET TRANSACTION ISOLATION LEVEL REPEATABLE READ, READ ONLY", some []⟩,
      ⟨"SELECT $1, a FROM t WHERE b > $2", some [.int4 7, .int8 3000000000]⟩,
      ⟨"SELECT COUNT(1) FROM t WHERE b > $1", some [.int8 3000000000]⟩] ∧
      (∀ page, ((countServer (.failed e)).fetch pricedBatch).2 ≠ some (.ok page)) ∧
      ((countServer (.done 1)).fetch pricedBatch).2 = some (.ok ⟨[4], 1⟩) := by
  have hrows : numbered pricedBatch.rowsSql pricedBatch.parameters =
      .ok ⟨"SELECT $1, a FROM t WHERE b > $2", [.int 7, .int 3000000000]⟩ := by
    decide +kernel
  have hcount : numbered pricedBatch.countSql pricedBatch.parameters =
      .ok ⟨"SELECT COUNT(1) FROM t WHERE b > $1", [.int 3000000000]⟩ := by
    decide +kernel
  intro e sent
  have hspec := conversation_all_or_nothing (countServer (.failed e)) pricedBatch
  obtain ⟨_, _, _, _, _, _, hok, _⟩ := hspec.2 _ _ hrows hcount
  obtain ⟨_, _, _, _, _, _, hdone, _⟩ :=
    (conversation_all_or_nothing (countServer (.done 1)) pricedBatch).2 _ _ hrows hcount
  refine ⟨by decide +kernel, fun page hpage => ?_, (hdone _).mpr ⟨rfl, fun stage => ?_, rfl, rfl⟩⟩
  · exact nomatch ((hok page).mp hpage).2.2.2
  · cases stage with
    | begin => exact ⟨(), rfl⟩
    | snapshot => exact ⟨(), rfl⟩
    | rows => exact ⟨[4], rfl⟩
    | count => exact ⟨1, rfl⟩
    | commit => exact ⟨(), rfl⟩

end PagedSql

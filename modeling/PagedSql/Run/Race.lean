import PagedSql.Failure

/-!
# Completion, timeout and cancellation

Times are in milliseconds from the start.  A time that is absent never comes.

* `Limits`  when the run is timed out and when it is cancelled; cancelled at zero means beforehand;
* `Reply`   when an executor is done, and with what;
* `Ending`  which of the three came first;
* `race`    the ending of a run, none if nothing ever happens.
-/

namespace PagedSql

structure Limits where
  timeout : Option Nat
  cancel : Option Nat
  deriving DecidableEq, Repr

/-- rows of a page, and the number of all rows -/
structure Rows (α : Type) where
  items : List α
  total : Int64
  deriving DecidableEq

structure Reply (α : Type) where
  after : Option Nat
  answer : Except ExecutorError (Rows α)

inductive Ending where
  | completed
  | timedOut
  | cancelled
  deriving DecidableEq, Repr

/-- the first time comes, and not after the second -/
def comesBy : Option Nat → Option Nat → Bool
  | none, _ => false
  | some _, none => true
  | some a, some b => a ≤ b

theorem comesBy_none_left (b : Option Nat) : comesBy none b = false := rfl
theorem comesBy_none_right (a : Nat) : comesBy (some a) none = true := rfl
theorem comesBy_some (a b : Nat) : comesBy (some a) (some b) = decide (a ≤ b) := rfl

/-- cancelled before anything is sent -/
def Limits.cancelledBefore (l : Limits) : Bool := l.cancel = some 0

/-- An executor that is ready at once is not looked at again, so a timeout of zero does not touch it.
Of two events at one time, cancellation is seen first and the timeout last. -/
def race (l : Limits) (completion : Option Nat) : Option Ending :=
  if l.cancelledBefore then some .cancelled
  else if completion = some 0 then some .completed
  else if comesBy l.cancel l.timeout && comesBy l.cancel completion then some .cancelled
  else if comesBy completion l.timeout then some .completed
  else if l.timeout.isSome then some .timedOut
  else none

end PagedSql

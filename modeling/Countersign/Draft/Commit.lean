import Countersign.Draft.Session

/-! Submitting a transaction that is fully signed. Attempts follow one another with a pause between
two, each within its time, until one is accepted or all are used up. -/

namespace Countersign.Draft

inductive Verdict
  | accepted
  | refused
  | raised (cause : Cause)
  | tooSlow (text : String)
deriving DecidableEq, Repr

def Verdict.outcome : Verdict → Outcome
  | accepted => .accepted
  | refused => .refused
  | raised cause => .raised cause
  | tooSlow text => .timedOut (some (.tooSlow text))

/-- An answer and the time until it comes; without a time it never comes. -/
structure Reply where
  after : Option Decimal
  verdict : Verdict
deriving DecidableEq, Repr

def Reply.within (r : Reply) (timeout : Decimal) : Outcome × Decimal :=
  match r.after with
  | none => (.timedOut none, timeout)
  | some t => if t < timeout then (r.verdict.outcome, t) else (.timedOut none, timeout)

abbrev Submitter := Nat → Reply

namespace Session

variable {σ : Type}

def attempt (s : Submitter) (policy : RetryPolicy) (data : Bytes) (wait : Bool) (i : Nat) : Session σ Outcome := do
  let (outcome, took) := (s i).within policy.timeout
  note (.submission ⟨data, policy.timeout, wait, outcome, took⟩)
  return outcome

def attempts (s : Submitter) (policy : RetryPolicy) (data : Bytes) (id : String) (wait : Bool) :
    (more i : Nat) → Session σ String
  | more, i => do
    if 0 < i then note (.pause policy.backoff)
    match ← attempt s policy data wait i with
    | .accepted =>
      update fun m => { m with committed := some id }
      return id
    | last =>
      match more with
      | 0 => throw (.notSubmitted id last)
      | more + 1 => attempts s policy data id wait more (i + 1)

def commit (r : Resolver σ) (s : Submitter) (wait : Bool) : Session σ String := do
  match (← copy).committed with
  | some id => return id
  | none =>
    unless ← isReady r do throw (.notReady (← tx).kind)
    let data ← (← copy).toBytes
    let id ← (← tx).idText.mapError Fault.wire
    let policy := (← copy).policy
    attempts s policy data id wait (policy.attempts - 1) 0

end Session

end Countersign.Draft

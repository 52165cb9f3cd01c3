import Countersign.Decimal

namespace Countersign

structure RetryPolicy where
  attempts : Nat
  backoff : Decimal
  timeout : Decimal
  one_le_attempts : 1 ≤ attempts
  backoff_nonneg : ¬ backoff < 0
  timeout_pos : 0 < timeout

namespace RetryPolicy

structure Numbers where
  attempts : Int
  backoff : Numeral
  timeout : Numeral
deriving DecidableEq, Repr

inductive Fault
  | attempts (got : Int)
  | backoff (got : Numeral)
  | timeout (got : Numeral)
deriving DecidableEq, Repr

def Fault.message : Fault → String
  | .attempts got => s!"attempts must be at least 1, got {got}"
  | .backoff got => s!"backoff must be non-negative, got {got.text}"
  | .timeout got => s!"attempt_timeout must be positive, got {got.text}"

def ofNumbers (n : Numbers) : Except Fault RetryPolicy :=
  if ha : n.attempts < 1 then .error (.attempts n.attempts)
  else if hb : n.backoff.value < 0 then .error (.backoff n.backoff)
  else if ht : 0 < n.timeout.value then
    .ok ⟨n.attempts.toNat, n.backoff.value, n.timeout.value, by omega, hb, ht⟩
  else .error (.timeout n.timeout)

def Numbers.standard : Numbers := ⟨3, ⟨"2.0", ⟨20, 1⟩⟩, ⟨"120", 120⟩⟩

def standard : RetryPolicy := ⟨3, ⟨20, 1⟩, 120, by decide, by decide, by decide⟩

theorem ofNumbers_standard : ofNumbers .standard = .ok standard := rfl

end RetryPolicy

end Countersign

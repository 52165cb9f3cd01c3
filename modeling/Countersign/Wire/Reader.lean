import Countersign.Bytes
import Countersign.Wire.Fault

namespace Countersign.Wire

structure Cursor where
  offset : Nat
  rest : Bytes
deriving DecidableEq, Repr

namespace Cursor

def start (data : Bytes) : Cursor := ⟨0, data⟩

def remaining (c : Cursor) : Nat := c.rest.length

def advance (c : Cursor) (n : Nat) : Cursor := ⟨c.offset + n, c.rest.drop n⟩

end Cursor

abbrev Reader (α : Type) := ExceptT Fault (StateM Cursor) α

namespace Reader

def runOn {α : Type} (r : Reader α) (c : Cursor) : Except Fault α × Cursor := (ExceptT.run r).run c

section

variable {α β : Type}

theorem runOn_pure (x : α) (c : Cursor) : (pure x : Reader α).runOn c = (.ok x, c) := rfl

theorem runOn_throw (f : Fault) (c : Cursor) : (throw f : Reader α).runOn c = (.error f, c) := rfl

theorem runOn_bind (r : Reader α) (f : α → Reader β) (c : Cursor) :
    (r >>= f).runOn c =
      match r.runOn c with
      | (.ok x, c') => (f x).runOn c'
      | (.error e, c') => (.error e, c') := by
  simp only [runOn, ExceptT.run_bind, StateT.run_bind]
  rcases (ExceptT.run r).run c with ⟨_ | _, _⟩ <;> rfl

end

def value {α : Type} (r : Reader α) (data : Bytes) : Except Fault α := (r.runOn (.start data)).1

def take (n : Nat) : Reader Bytes := do
  let c ← get
  if n ≤ c.remaining then
    set (c.advance n)
    return c.rest.take n
  else
    throw (.short n c.offset c.remaining)

theorem runOn_take (n : Nat) (c : Cursor) :
    (take n).runOn c =
      if n ≤ c.remaining then (.ok (c.rest.take n), c.advance n)
      else (.error (.short n c.offset c.remaining), c) := by
  show ((get >>= fun c => if n ≤ c.remaining then _ else _ : Reader Bytes).runOn c) = _
  rw [runOn_bind]
  show (if n ≤ c.remaining then _ else _ : Reader Bytes).runOn c = _
  split <;> rfl

def number (size : Nat) : Reader Nat := Bytes.toNat <$> take size

/-- The length of a list or byte string. An element takes one byte at least, so a length beyond the
bytes that are left cannot be right. -/
def length : Reader Nat := do
  let n ← number 4
  let c ← get
  if maxLength < n ∨ c.remaining < n then throw (.lengthBeyond n c.remaining)
  return n

def finish : Reader Unit := do
  let c ← get
  if c.remaining ≠ 0 then throw (.trailing c.remaining c.offset)

def many {α : Type} (r : Reader α) : Nat → Reader (List α)
  | 0 => return []
  | n + 1 => do
    let x ← r
    let xs ← many r n
    return x :: xs

end Reader

end Countersign.Wire

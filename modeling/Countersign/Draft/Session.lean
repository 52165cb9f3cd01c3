import Countersign.Draft.Basic

namespace Countersign.Draft

structure Submission where
  data : Bytes
  timeout : Decimal
  wait : Bool
  outcome : Outcome
  took : Decimal
deriving DecidableEq, Repr

inductive Event
  | signing (slot : Nat) (address : Bytes)
  | submission (attempt : Submission)
  | pause (length : Decimal)
deriving DecidableEq, Repr

structure Moment where
  event : Event
  copy : Draft

structure Desk (σ : Type) where
  copy : Draft
  book : σ
  log : List Moment

abbrev Session (σ α : Type) := ExceptT Fault (StateM (Desk σ)) α

namespace Session

variable {σ α β : Type}

def runOn (s : Session σ α) (d : Desk σ) : Except Fault α × Desk σ := (ExceptT.run s).run d

theorem runOn_pure (x : α) (d : Desk σ) : (pure x : Session σ α).runOn d = (.ok x, d) := rfl

theorem runOn_throw (f : Fault) (d : Desk σ) : (throw f : Session σ α).runOn d = (.error f, d) := rfl

theorem runOn_bind (s : Session σ α) (f : α → Session σ β) (d : Desk σ) :
    (s >>= f).runOn d =
      match s.runOn d with
      | (.ok x, d') => (f x).runOn d'
      | (.error e, d') => (.error e, d') := by
  simp only [runOn, ExceptT.run_bind, StateT.run_bind]
  rcases (ExceptT.run s).run d with ⟨_ | _, _⟩ <;> rfl

def copy : Session σ Draft := return (← get).copy

def tx : Session σ SignedTx := return (← get).copy.tx

def note (e : Event) : Session σ Unit := modify fun d => { d with log := d.log ++ [⟨e, d.copy⟩] }

def update (f : Draft → Draft) : Session σ Unit := modify fun d => { d with copy := f d.copy }

def ask (r : Resolver σ) (subnet : Bytes) : Session σ Ownership := do
  let d ← get
  let (answer, book) := r subnet d.book
  set { d with book }
  answer

/-- The ownership of the subnet that the transaction governs. It is kept before the name of the subnet
is checked, so an identifier of a wrong length is refused only once. -/
def owners (r : Resolver σ) : Session σ Ownership := do
  let m ← copy
  match m.snapshot with
  | some o => return o
  | none =>
    match m.tx.subnetId? with
    | none => throw (.malformed (.noSubnet m.tx.kind))
    | some subnet =>
      let o ← ask r subnet
      update fun m => { m with snapshot := some o }
      discard <| ((Ident.sized subnet).mapError .ident : Except Fault Bytes)
      return o

def authSigners (r : Resolver σ) : Session σ (List Bytes) := do
  let positions ← (← tx).authorization
  keysAt (← owners r) positions

def signers (r : Resolver σ) : Session σ Signers := do
  (← tx).checkFunding
  let required ← authSigners r
  (← tx).compare required

def isReady (r : Resolver σ) : Session σ Bool := do
  let t ← tx
  if t.needsAuthorization then
    return (← signers r).missing.isEmpty
  else
    return !t.creds.isEmpty && t.missingFees.isEmpty

def phase (r : Resolver σ) : Session σ Phase := do
  if (← copy).committed.isSome then return .committed
  if ← isReady r then return .readyToCommit
  let t ← tx
  if t.needsAuthorization then
    let s ← signers r
    return if s.missing.length < s.required.length then .partiallySigned else .unsigned
  else
    return if t.hasSignature then .partiallySigned else .unsigned

end Session

end Countersign.Draft

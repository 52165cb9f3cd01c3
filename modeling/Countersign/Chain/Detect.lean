import Countersign.Chain.Basic
import Countersign.Network
import Countersign.Wire.Marshal

/-! Which chain a transaction belongs to, from its bytes alone. Every chain tries to read them; bytes
that several chains can read are left without a chain, since a guess could pick the wrong keys. -/

namespace Countersign.Chain

open Wire

inductive TxForm
  | unsigned | signed
deriving DecidableEq, Repr

def reading? (form : TxForm) (data : Bytes) (c : Chain) : Option Value :=
  match form with
  | .unsigned => (c.codec.unmarshal data .unsignedTx).toOption
  | .signed => (c.codec.unmarshalSigned data).toOption.map (·.1)

def readings (form : TxForm) (data : Bytes) : List (Chain × Value) :=
  all.filterMap fun c => (reading? form data c).map (c, ·)

def only? {α : Type} : List α → Option α
  | [x] => some x
  | _ => none

def classify (form : TxForm) (data : Bytes) : Option (Chain × Value) := only? (readings form data)

def detect (form : TxForm) (data : Bytes) : Option Chain := (classify form data).map (·.1)

def networkTold (told : Option (Chain × Value)) : Int := (told.bind fun (c, tx) => c.networkId? tx).getD 0

def networkOf (form : TxForm) (data : Bytes) : Int := networkTold (classify form data)

/-! ### In the room of a stack -/

-- A chain that refuses the bytes does not read them. One that wants room ends the search, whatever the others read.

def readingIn (room : Nat) (form : TxForm) (data : Bytes) (c : Chain) : Except Fault (Option Value) :=
  match form with
  | .unsigned => attempt (c.codec.unmarshalIn room data .unsignedTx)
  | .signed => attempt ((·.1) <$> c.codec.unmarshalSignedIn room data)

def isTxIn (room : Nat) (c : Chain) (data : Bytes) : Except Fault Bool :=
  (·.isSome) <$> readingIn room .unsigned data c

def classifyIn (room : Nat) (form : TxForm) (data : Bytes) : Except Fault (Option (Chain × Value)) := do
  let told ← all.mapM fun c => return (← readingIn room form data c).map (c, ·)
  return only? (told.filterMap id)

def detectIn (room : Nat) (form : TxForm) (data : Bytes) : Except Fault (Option Chain) :=
  (·.map (·.1)) <$> classifyIn room form data

def networkIn (room : Nat) (form : TxForm) (data : Bytes) : Except Fault Int :=
  networkTold <$> classifyIn room form data

end Countersign.Chain


namespace Countersign.Wire

inductive Kind
  | unsignedTx | input | output | owner | credential | operation | auth | signer | state
deriving DecidableEq, Repr

namespace Kind

def all : List Kind :=
  [unsignedTx, input, output, owner, credential, operation, auth, signer, state]

def name : Kind → String
  | unsignedTx => "unsigned_tx"
  | input => "input"
  | output => "output"
  | owner => "owner"
  | credential => "credential"
  | operation => "operation"
  | auth => "auth"
  | signer => "signer"
  | state => "state"

def ofName? (s : String) : Option Kind := all.find? (·.name == s)

end Kind

end Countersign.Wire

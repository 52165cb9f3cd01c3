import Countersign.Chain.Basic

namespace Countersign

open Wire

namespace Chain

def sharedTypes : List RecordType := Secp.all ++ Nft.all ++ Property.all ++ Component.all

def families : List (String × List RecordType) :=
  ("avax", Component.all) :: all.map fun c => (c.letter, c.types)

def findType? (declared : List RecordType) (chain : Option Chain) (name : String) : Option RecordType :=
  match families.find? fun (word, _) => name.startsWith (word ++ ".") with
  | some (word, types) => (types ++ sharedTypes).find? fun t => word ++ "." ++ t.name == name
  | none =>
    (declared ++ (chain.map types).getD [] ++ sharedTypes).find? (·.name == name)

def defaultOf : Kind → Value
  | .owner => .record Secp.outputOwners [.int 0, .int 0, .list []]
  | .auth => .record Secp.input [.list []]
  | .signer => .record Platform.emptySigner []
  | _ => .absent

end Chain

namespace Wire

mutual

def Layout.default : Layout → Value
  | .scalar f => .scalar f.default
  | .slice _ => .list []
  | .struct t => t.default
  | .interface k => Chain.defaultOf k
termination_by structural l => l

def RecordType.default : RecordType → Value
  | ⟨s, n, ks, fs⟩ => .record ⟨s, n, ks, fs⟩ (defaults fs)
termination_by structural t => t

def defaults : List (String × Layout) → List Value
  | [] => []
  | (_, l) :: fs => l.default :: defaults fs
termination_by structural fs => fs

end

end Wire

end Countersign

import Countersign.Chain.Contract
import Countersign.Chain.Exchange
import Countersign.Chain.Platform

namespace Countersign

open Wire

inductive Chain
  | platform | exchange | contract
deriving DecidableEq, Repr

namespace Chain

def all : List Chain := [platform, exchange, contract]

def letter : Chain → String
  | platform => "P"
  | exchange => "X"
  | contract => "C"

def ofLetter? (s : String) : Option Chain := all.find? (·.letter == s)

def codec : Chain → Codec
  | platform => Platform.codec
  | exchange => Exchange.codec
  | contract => Contract.codec

def types : Chain → List RecordType
  | platform => Platform.types
  | exchange => Exchange.types
  | contract => Contract.types

def header : Chain → List String
  | platform | exchange => ["base"]
  | contract => []

def isTxType (c : Chain) (t : RecordType) : Bool := t ∈ c.codec.typesOf .unsignedTx

def networkId? (c : Chain) (tx : Value) : Option Int := do
  if c.isTxType (← tx.type?) then
    (← tx.at? (c.header ++ ["network_id"])).int?
  else none

def subnetId? : Chain → Value → Option Bytes
  | platform, tx => Platform.subnetId? tx
  | _, _ => none

def subnetAuth? : Chain → Value → Option (List Int)
  | platform, tx => Platform.subnetAuth? tx
  | _, _ => none

def blockchainId? (tx : Value) : Option Bytes := do
  (← ((tx.field? "base").getD tx).field? "blockchain_id").bytes?

end Chain

end Countersign

import Countersign.Text.Bech32
import Countersign.Text.Quoted

namespace Countersign

structure Address where
  chainAlias : String
  word : String
  id : Bytes
deriving DecidableEq, Repr

namespace Address

open Text

inductive Fault
  | badLength (got : Nat)
  | noAlias (text : String)
  | notBech32 (text : String)
  | badContent (text : String)
deriving DecidableEq, Repr

def Fault.message : Fault → String
  | .badLength got => s!"address must be 20 bytes, got {got}"
  | .noAlias text => s!"address {quoted text} has no chain alias"
  | .notBech32 text => s!"address {quoted text} is not valid bech32"
  | .badContent text => s!"address {quoted text} does not hold 20 bytes"

def size : Nat := 20

def empty : Bytes := Bytes.zeros size

def toText (a : Address) : Except Fault String :=
  if a.id.length = size then
    .ok (a.chainAlias ++ "-" ++ String.ofList (Bech32.encode a.word.toList (Bech32.symbols a.id)))
  else .error (.badLength a.id.length)

def ofText (text : String) : Except Fault Address :=
  let chainAlias := text.toList.takeWhile (· != '-')
  match chainAlias, text.toList.dropWhile (· != '-') with
  | [], _ | _, [] => .error (.noAlias text)
  | chainAlias, _ :: rest =>
    match Bech32.decode rest with
    | none => .error (.notBech32 text)
    | some (word, vs) =>
      match Bech32.bytes? vs with
      | none => .error (.badContent text)
      | some id =>
        if id.length = size then .ok ⟨String.ofList chainAlias, String.ofList word, id⟩
        else .error (.badContent text)

end Address

end Countersign

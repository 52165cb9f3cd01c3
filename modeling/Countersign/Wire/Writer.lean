import Countersign.Wire.Codec

namespace Countersign.Wire

structure Usage where
  admits : RecordType → RecordType → Bool
  truth? : Value → Option Bool

namespace Value

def bool? : Value → Option Bool
  | scalar (.bool b) => some b
  | _ => none

/-- Every value can stand for a flag: one that is empty, zero or absent for a false one. -/
def truth : Value → Bool
  | scalar (.int n) => n != 0
  | scalar (.bool b) => b
  | scalar (.text s) => s != ""
  | scalar (.bytes b) => !b.isEmpty
  | list vs => !vs.isEmpty
  | record _ _ => true
  | absent => false

end Value

namespace Usage

def strict : Usage where
  admits t u := t = u
  truth? := Value.bool?

def loose (extends? : RecordType → RecordType → Bool) : Usage where
  admits t u := t = u || extends? t u
  truth? v := some v.truth

def closed : Usage := .loose fun _ _ => false

end Usage

namespace Value

def writeScalar (usage : Usage) : Form → Value → Except Fault Bytes
  | .bool, v =>
    match usage.truth? v with
    | some b => Form.bool.write (.bool b)
    | none => throw .misshapen
  | f, scalar s => f.write s
  | .uint _, absent => throw .noNumber
  | _, _ => throw .misshapen

mutual

def writeBy (usage : Usage) (codec : Option Codec) : Layout → Value → Except Fault Bytes
  | .scalar f, v => writeScalar usage f v
  | .slice l, list vs => return (← writeLength vs.length) ++ (← writeAllBy usage codec l vs)
  | .struct t, record u vs =>
    -- a record of another type that is taken is written with the fields of its own
    if usage.admits t u then writeFieldsBy usage codec u.layouts vs else throw (.notType t.name u.name)
  | .struct t, v => throw (.notType t.name v.typeName)
  | .interface k, record t vs =>
    match codec with
    | none => throw .noCodecToWrite
    | some c => return (← writeNumber 4 (← c.tag k t)) ++ (← writeFieldsBy usage codec t.layouts vs)
  | .interface _, v =>
    match codec with
    | none => throw .noCodecToWrite
    | some c => throw (.notRegistered v.typeName c.name)
  | _, _ => throw .misshapen
termination_by structural _ v => v

def writeAllBy (usage : Usage) (codec : Option Codec) (l : Layout) : List Value → Except Fault Bytes
  | [] => return []
  | v :: vs => return (← writeBy usage codec l v) ++ (← writeAllBy usage codec l vs)
termination_by structural vs => vs

def writeFieldsBy (usage : Usage) (codec : Option Codec) : List Layout → List Value → Except Fault Bytes
  | [], [] => return []
  | l :: ls, v :: vs => return (← writeBy usage codec l v) ++ (← writeFieldsBy usage codec ls vs)
  | _, _ => throw .misshapen
termination_by structural _ vs => vs

end

def write (codec : Option Codec) (l : Layout) (v : Value) : Except Fault Bytes := v.writeBy .strict codec l

def writeAll (codec : Option Codec) (l : Layout) (vs : List Value) : Except Fault Bytes :=
  writeAllBy .strict codec l vs

def writeFields (codec : Option Codec) (ls : List Layout) (vs : List Value) : Except Fault Bytes :=
  writeFieldsBy .strict codec ls vs

def writeBodyBy (usage : Usage) (codec : Option Codec) : Value → Except Fault Bytes
  | record t vs => writeFieldsBy usage codec t.layouts vs
  | _ => throw .misshapen

end Value

end Countersign.Wire

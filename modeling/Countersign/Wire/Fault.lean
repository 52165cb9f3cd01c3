import Countersign.Wire.Kind

namespace Countersign.Wire

def maxLength : Nat := 0x7fffffff

inductive Fault
  | unfit (n : Int)
  | noNumber
  | badSize (expected got : Nat)
  | tooLong (length : Int)
  | misshapen
  | notType (expected got : String)
  | noCodecToWrite
  | notRegistered (type codec : String)
  | notOfKind (type : String) (kind : Kind)
  | short (need offset left : Nat)
  | badBool (byte : Nat)
  | notUtf8
  | lengthBeyond (length remaining : Nat)
  | trailing (remaining offset : Nat)
  | badVersion (version : Nat)
  | noCodecToRead
  | unknownId (id : Nat) (codec : String)
  | idNotOfKind (id : Nat) (type : String) (kind : Kind)
  /-- The stack has no room for one more value in the others. This alone is no refusal of the bytes. -/
  | noRoom
deriving DecidableEq, Repr

def Fault.message : Fault → String
  | unfit n => s!"cannot pack {n}"
  | noNumber => "cannot pack None"
  | badSize expected got => s!"expected {expected} bytes, got {got}"
  | tooLong length => s!"slice length {length} exceeds {maxLength}"
  | misshapen => "value does not match its layout"
  | notType expected got => s!"expected {expected}, got {got}"
  | noCodecToWrite => "interface field packed without a codec"
  | notRegistered type codec => s!"{type} is not registered in {codec} codec"
  | notOfKind type kind => s!"{type} does not implement {kind.name}"
  | short need offset left => s!"insufficient length: need {need} bytes at offset {offset}, have {left}"
  | badBool byte => s!"invalid bool byte {byte}"
  | notUtf8 => "string is not utf-8"
  | lengthBeyond length remaining => s!"slice length {length} exceeds remaining {remaining} bytes"
  | trailing remaining offset => s!"{remaining} trailing bytes after offset {offset}"
  | badVersion version => s!"unknown codec version {version}"
  | noCodecToRead => "interface field unpacked without a codec"
  | unknownId id codec => s!"unknown type id {id} in {codec} codec"
  | idNotOfKind id type kind => s!"type id {id} ({type}) does not implement {kind.name}"
  | noRoom => "maximum recursion depth exceeded"

def attempt {α : Type} : Except Fault α → Except Fault (Option α)
  | .ok x => .ok (some x)
  | .error .noRoom => .error .noRoom
  | .error _ => .ok none

end Countersign.Wire

import Countersign.Wire.Reader

namespace Countersign.Wire

inductive Width
  | u8 | u16 | u32 | u64
deriving DecidableEq, Repr

def Width.size : Width → Nat
  | .u8 => 1
  | .u16 => 2
  | .u32 => 4
  | .u64 => 8

inductive Form
  | uint (width : Width)
  | bool
  | text
  | bytes
  | fixed (size : Nat)
deriving DecidableEq, Repr

inductive Scalar
  | int (n : Int)
  | bool (b : Bool)
  | text (s : String)
  | bytes (b : Bytes)
deriving DecidableEq, Repr

def writeNumber (size : Nat) (n : Int) : Except Fault Bytes :=
  if 0 ≤ n ∧ n < Bytes.capacity size then .ok (Bytes.ofNat size n.toNat) else .error (.unfit n)

def writeLength (n : Int) : Except Fault Bytes :=
  if maxLength < n then .error (.tooLong n) else writeNumber 4 n

def utf8 (s : String) : Bytes := s.toByteArray.data.toList

def utf8? (b : Bytes) : Option String := String.fromUTF8? ⟨b.toArray⟩

namespace Form

def write : Form → Scalar → Except Fault Bytes
  | uint w, .int n => writeNumber w.size n
  | bool, .bool b => writeNumber 1 b.toNat
  | text, .text s => return (← writeNumber 2 (utf8 s).length) ++ utf8 s
  | bytes, .bytes b => return (← writeLength b.length) ++ b
  | fixed size, .bytes b => if b.length = size then .ok b else .error (.badSize size b.length)
  | _, _ => .error .misshapen

def read : Form → Reader Scalar
  | uint w => return .int (← Reader.number w.size)
  | bool => do
    let n ← Reader.number 1
    if 1 < n then throw (.badBool n)
    return .bool (n == 1)
  | text => do
    let b ← Reader.take (← Reader.number 2)
    match utf8? b with
    | some s => return .text s
    | none => throw .notUtf8
  | bytes => return .bytes (← Reader.take (← Reader.length))
  | fixed size => return .bytes (← Reader.take size)

def default : Form → Scalar
  | uint _ => .int 0
  | bool => .bool false
  | text => .text ""
  | bytes => .bytes []
  | fixed size => .bytes (Bytes.zeros size)

end Form

end Countersign.Wire

import Countersign.Wire.Scalar

/-! Scalars and lengths one after another, without a layout around them. A writing adds its parts to what was written,
a length before what it is the length of, and leaves there what it has added when it fails. A reading that fails leaves
the cursor where it stopped. Either can be followed by others. -/

namespace Countersign.Wire

inductive Writing
  | scalar (form : Form) (value : Scalar)
  | length (n : Int)
deriving DecidableEq, Repr

abbrev Appender := ExceptT Fault (StateM Bytes) Unit

namespace Appender

def put (b : Bytes) : Appender := modify (· ++ b)

def putNumber (size : Nat) (n : Int) : Appender := do
  put (← writeNumber size n)

def putLength (n : Int) : Appender := do
  put (← writeLength n)

end Appender

namespace Writing

open Appender

def appender : Writing → Appender
  | scalar (.uint w) (.int n) => putNumber w.size n
  | scalar .bool (.bool b) => putNumber 1 b.toNat
  | scalar .text (.text s) => do
    putNumber 2 (utf8 s).length
    put (utf8 s)
  | scalar .bytes (.bytes b) => do
    putLength b.length
    put b
  | scalar (.fixed size) (.bytes b) => do
    if b.length ≠ size then throw (.badSize size b.length)
    put b
  | scalar _ _ => throw .misshapen
  | length n => putLength n

def append (written : Bytes) (w : Writing) : Except Fault Unit × Bytes := (ExceptT.run w.appender).run written

def appendAll (written : Bytes) : List Writing → List (Except Fault Unit × Bytes)
  | [] => []
  | w :: ws =>
    let r := w.append written
    r :: appendAll r.2 ws

end Writing

inductive Reading
  | scalar (form : Form)
  | length
  | finish
deriving DecidableEq, Repr

namespace Reading

def reader : Reading → Reader (Option Scalar)
  | scalar f => return some (← f.read)
  | length => return some (.int (← Reader.length))
  | finish => do
    Reader.finish
    return none

def readAll (c : Cursor) : List Reading → List (Except Fault (Option Scalar) × Cursor)
  | [] => []
  | r :: rs =>
    let result := r.reader.runOn c
    result :: readAll result.2 rs

end Reading

end Countersign.Wire

import Countersign.Wire.Codec

/-! Reading values. A layout is read by recursion on it, given how the values of interface fields
are read. A codec reads those by the number in front of them; every such number takes four bytes,
so no more of them can be nested than there are bytes left. -/

namespace Countersign.Wire

mutual

def Layout.read (nested : Kind → Reader Value) : Layout → Reader Value
  | .scalar f => return .scalar (← f.read)
  | .slice l => do
    let n ← Reader.length
    return .list (← Reader.many (l.read nested) n)
  | .struct t => t.read nested
  | .interface k => nested k
termination_by structural l => l

def RecordType.read (nested : Kind → Reader Value) : RecordType → Reader Value
  | ⟨s, n, ks, fs⟩ => return .record ⟨s, n, ks, fs⟩ (← readFields nested fs)
termination_by structural t => t

def readFields (nested : Kind → Reader Value) : List (String × Layout) → Reader (List Value)
  | [] => return []
  | (_, l) :: fs => do
    let v ← l.read nested
    return v :: (← readFields nested fs)
termination_by structural fs => fs

end

def unregistered (_ : Kind) : Reader Value := throw .noCodecToRead

namespace Codec

def typeFor (c : Codec) (k : Kind) (id : Nat) : Except Fault RecordType :=
  match c.typeAt? id with
  | none => .error (.unknownId id c.name)
  | some t => if t.implements k then .ok t else .error (.idNotOfKind id t.name k)

def readOver (c : Codec) (nested : Kind → Reader Value) (k : Kind) : Reader Value := do
  let id ← Reader.number 4
  match c.typeFor k id with
  | .error f => throw f
  | .ok t => t.read nested

def readWithin (c : Codec) : (depth : Nat) → Kind → Reader Value
  | 0, _ => do
    let here ← get
    throw (.short 4 here.offset here.remaining)
  | depth + 1, k => c.readOver (c.readWithin depth) k

/-- Reads a numbered value. The bytes left bound the nesting: where the bound is used up, fewer than
four bytes are left. -/
def readTagged (c : Codec) (k : Kind) : Reader Value := do
  let here ← get
  c.readWithin here.remaining k

def readIn (c : Codec) : (room : Nat) → Kind → Reader Value
  | 0, _ => throw .noRoom
  | room + 1, k => c.readOver (c.readIn room) k

end Codec

end Countersign.Wire

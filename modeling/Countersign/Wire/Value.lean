import Countersign.Wire.Layout

namespace Countersign.Wire

inductive Value
  | scalar (s : Scalar)
  | list (items : List Value)
  | record (type : RecordType) (fields : List Value)
  | absent

namespace Value

mutual

def same : Value → Value → Bool
  | scalar s, scalar t => s == t
  | list xs, list ys => sameAll xs ys
  | record t xs, record u ys => t == u && sameAll xs ys
  | absent, absent => true
  | _, _ => false

def sameAll : List Value → List Value → Bool
  | [], [] => true
  | x :: xs, y :: ys => same x y && sameAll xs ys
  | _, _ => false

end

mutual

theorem same_iff : ∀ v w : Value, same v w = true ↔ v = w
  | scalar _, w => by cases w <;> simp [same]
  | list xs, w => by cases w <;> simp [same, sameAll_iff xs]
  | record _ xs, w => by cases w <;> simp [same, sameAll_iff xs]
  | absent, w => by cases w <;> simp [same]

theorem sameAll_iff : ∀ xs ys : List Value, sameAll xs ys = true ↔ xs = ys
  | [], ys => by cases ys <;> simp [sameAll]
  | x :: xs, ys => by cases ys <;> simp [sameAll, same_iff x, sameAll_iff xs]

end

instance : DecidableEq Value := fun v w => decidable_of_iff _ (same_iff v w)

def int (n : Int) : Value := scalar (.int n)

def bytes (b : Bytes) : Value := scalar (.bytes b)

def text (s : String) : Value := scalar (.text s)

def typeName : Value → String
  | record t _ => t.name
  | absent => "NoneType"
  | list _ => "list"
  | scalar (.int _) => "int"
  | scalar (.bool _) => "bool"
  | scalar (.text _) => "str"
  | scalar (.bytes _) => "bytes"

def type? : Value → Option RecordType
  | record t _ => some t
  | _ => none

def field? (name : String) : Value → Option Value
  | record t vs => ((t.fields.map (·.1)).zip vs).lookup name
  | _ => none

def at? : List String → Value → Option Value
  | [], v => some v
  | name :: path, v => (v.field? name).bind (at? path)

def int? : Value → Option Int
  | scalar (.int n) => some n
  | _ => none

def bytes? : Value → Option Bytes
  | scalar (.bytes b) => some b
  | _ => none

def list? : Value → Option (List Value)
  | list vs => some vs
  | _ => none

def ints? (v : Value) : Option (List Int) := v.list?.bind (·.mapM int?)

def bytesList? (v : Value) : Option (List Bytes) := v.list?.bind (·.mapM bytes?)

end Value

end Countersign.Wire

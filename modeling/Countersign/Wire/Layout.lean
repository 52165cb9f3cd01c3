import Countersign.Wire.Scalar

namespace Countersign.Wire

mutual

inductive Layout
  | scalar (form : Form)
  | slice (elem : Layout)
  | struct (type : RecordType)
  | interface (kind : Kind)

structure RecordType where
  scope : String
  name : String
  kinds : List Kind
  fields : List (String × Layout)

end

mutual

def Layout.same : Layout → Layout → Bool
  | .scalar f, .scalar g => f == g
  | .slice l, .slice m => l.same m
  | .struct t, .struct u => t.same u
  | .interface i, .interface j => i == j
  | _, _ => false

def RecordType.same : RecordType → RecordType → Bool
  | ⟨s, n, ks, fs⟩, ⟨s', n', ks', fs'⟩ => n == n' && s == s' && ks == ks' && sameFields fs fs'

def sameFields : List (String × Layout) → List (String × Layout) → Bool
  | [], [] => true
  | (n, l) :: fs, (n', l') :: fs' => n == n' && l.same l' && sameFields fs fs'
  | _, _ => false

end

mutual

theorem Layout.same_iff : ∀ l m : Layout, l.same m = true ↔ l = m
  | .scalar _, m => by cases m <;> simp [Layout.same]
  | .slice l, m => by cases m <;> simp [Layout.same, Layout.same_iff l]
  | .struct t, m => by cases m <;> simp [Layout.same, RecordType.same_iff t]
  | .interface _, m => by cases m <;> simp [Layout.same]

theorem RecordType.same_iff : ∀ t u : RecordType, t.same u = true ↔ t = u
  | ⟨s, n, ks, fs⟩, ⟨s', n', ks', fs'⟩ => by
    simp only [RecordType.same, Bool.and_eq_true, beq_iff_eq, sameFields_iff fs, RecordType.mk.injEq]
    grind

theorem sameFields_iff : ∀ fs gs : List (String × Layout), sameFields fs gs = true ↔ fs = gs
  | [], gs => by cases gs <;> simp [sameFields]
  | (n, l) :: fs, gs => by
    cases gs <;> simp [sameFields, Layout.same_iff l, sameFields_iff fs, Prod.ext_iff]

end

instance : DecidableEq Layout := fun l m => decidable_of_iff _ (Layout.same_iff l m)

instance : DecidableEq RecordType := fun t u => decidable_of_iff _ (RecordType.same_iff t u)

namespace Layout

def u8 : Layout := scalar (.uint .u8)
def u16 : Layout := scalar (.uint .u16)
def u32 : Layout := scalar (.uint .u32)
def u64 : Layout := scalar (.uint .u64)
def bool : Layout := scalar .bool
def text : Layout := scalar .text
def bytes : Layout := scalar .bytes
def fixed (size : Nat) : Layout := scalar (.fixed size)

end Layout

namespace RecordType

def layouts (t : RecordType) : List Layout := t.fields.map (·.2)

def implements (t : RecordType) (k : Kind) : Bool := t.kinds.contains k

end RecordType

end Countersign.Wire

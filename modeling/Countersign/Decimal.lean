
namespace Countersign

structure Decimal where
  mantissa : Int
  places : Nat
deriving DecidableEq, Repr

namespace Decimal

def ofInt (n : Int) : Decimal := ⟨n, 0⟩

def unit (places : Nat) : Nat := Nat.pow 10 places

def scaled (d : Decimal) (places : Nat) : Int := d.mantissa * unit (places - d.places)

def add (d e : Decimal) : Decimal :=
  let places := max d.places e.places
  ⟨d.scaled places + e.scaled places, places⟩

def times (d : Decimal) (n : Int) : Decimal := ⟨d.mantissa * n, d.places⟩

def lt (d e : Decimal) : Prop := d.mantissa * unit e.places < e.mantissa * unit d.places

instance : Add Decimal := ⟨add⟩
instance : LT Decimal := ⟨lt⟩
instance (n : Nat) : OfNat Decimal n := ⟨ofInt n⟩

instance (d e : Decimal) : Decidable (d < e) :=
  inferInstanceAs (Decidable (d.mantissa * unit e.places < e.mantissa * unit d.places))

end Decimal

structure Numeral where
  text : String
  value : Decimal
deriving DecidableEq, Repr

end Countersign

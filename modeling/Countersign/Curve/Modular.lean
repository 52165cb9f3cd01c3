
namespace Countersign.Curve

def bitsOf (width n : Nat) : List Bool := (List.range width).reverse.map n.testBit

def power (m base exponent : Nat) : Nat :=
  (bitsOf 256 exponent).foldl
    (fun acc bit => let square := acc * acc % m; if bit then square * base % m else square) 1

/-- Euclid's division chain from `r` and `r'`, with the multiples of the second number that
they leave. -/
def multiple (r r' : Nat) (t t' : Int) : Int :=
  if _ : r' = 0 then t else multiple r' (r % r') t' (t - (r / r' : Nat) * t')
termination_by r'
decreasing_by exact Nat.mod_lt _ (by omega)

def inverse (m a : Nat) : Nat := (multiple m (a % m) 0 1 % m).toNat

def minus (m a b : Nat) : Nat := (a + (m - b % m)) % m

end Countersign.Curve

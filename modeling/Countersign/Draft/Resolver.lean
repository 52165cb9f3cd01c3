import Countersign.Draft.Fault

/-! Resolvers answer who owns a subnet, and may change as they are asked. A cache in front of one
keeps its answers, but not its failures. -/

namespace Countersign.Draft

abbrev Resolver (σ : Type) := Bytes → σ → Except Fault Ownership × σ

structure Cache (σ : Type) where
  entries : List (Bytes × Ownership)
  behind : σ

namespace Cache

variable {σ : Type}

def forget (c : Cache σ) (subnet : Bytes) : Cache σ :=
  { c with entries := c.entries.filter (·.1 ≠ subnet) }

def forgetAll (c : Cache σ) : Cache σ := { c with entries := [] }

def contains (c : Cache σ) (subnet : Bytes) : Bool := (c.entries.lookup subnet).isSome

/-- Asks the resolver only for a subnet without an entry. The answer is kept before the name of the
subnet is checked, so an identifier of a wrong length is refused only once. -/
def resolver (r : Resolver σ) : Resolver (Cache σ) := fun subnet c =>
  match c.entries.lookup subnet with
  | some o => (.ok o, c)
  | none =>
    match r subnet c.behind with
    | (.error f, behind) => (.error f, { c with behind })
    | (.ok o, behind) => (((Ident.sized subnet).mapError .ident).map fun _ => o, ⟨(subnet, o) :: c.entries, behind⟩)

def bypass (r : Resolver σ) : Resolver (Cache σ) := fun subnet c =>
  let (answer, behind) := r subnet c.behind
  (answer, { c with behind })

end Cache

end Countersign.Draft

import Countersign.Text.Quoted
import Countersign.Wire.Value

namespace Countersign.Wire

open Text

structure Codec where
  name : String
  entries : List (Option RecordType)
  nodup : (entries.filterMap id).Nodup

namespace Codec

def repeated? : List RecordType → List RecordType → Option RecordType
  | _, [] => none
  | seen, t :: ts => if t ∈ seen then some t else repeated? (t :: seen) ts

theorem repeated?_eq_none (ts : List RecordType) :
    ∀ seen : List RecordType, repeated? seen ts = none → ts.Nodup ∧ ∀ t ∈ ts, t ∉ seen := by
  induction ts with
  | nil => simp
  | cons t ts ih =>
    intro seen h
    by_cases ht : t ∈ seen
    · simp [repeated?, ht] at h
    · simp only [repeated?, ht, if_false] at h
      have := ih _ h
      refine ⟨List.nodup_cons.2 ⟨fun m => (this.2 t m) (by simp), this.1⟩, ?_⟩
      rintro u hu
      rcases List.mem_cons.1 hu with rfl | hu
      · exact ht
      · exact fun m => this.2 u hu (List.mem_cons_of_mem _ m)

inductive Refusal
  | repeated (type codec : String)
  | incomplete (table codec : String) (missing : List String)
deriving DecidableEq, Repr

def Refusal.message : Refusal → String
  | repeated type codec => s!"{type} registered twice in {codec} codec"
  | incomplete table codec missing =>
    let names := ", ".intercalate missing
    s!"{table} has no entry for {codec} types: {names}"

def ofEntries (name : String) (entries : List (Option RecordType)) : Except Refusal Codec :=
  match h : repeated? [] (entries.filterMap id) with
  | some t => .error (.repeated t.name name)
  | none => .ok ⟨name, entries, (repeated?_eq_none _ _ h).1⟩

def types (c : Codec) : List RecordType := c.entries.filterMap id

def typesOf (c : Codec) (k : Kind) : List RecordType := c.types.filter (·.implements k)

def typeAt? (c : Codec) (id : Nat) : Option RecordType := c.entries[id]?.join

def typeId? (c : Codec) (t : RecordType) : Option Nat := c.entries.idxOf? (some t)

def typeId (c : Codec) (t : RecordType) : Except Fault Nat :=
  match c.typeId? t with
  | some id => .ok id
  | none => .error (.notRegistered t.name c.name)

def tag (c : Codec) (k : Kind) (t : RecordType) : Except Fault Nat := do
  let id ← c.typeId t
  if t.implements k then return id else throw (.notOfKind t.name k)

def checkTable (c : Codec) (k : Kind) (table : List RecordType) (name : String) : Except Refusal Unit :=
  match (c.typesOf k).filter (· ∉ table) with
  | [] => .ok ()
  | missing => .error (.incomplete name c.name (missing.map (·.name)))

def describe (c : Codec) : String := s!"LinearCodec({quoted c.name}, {c.types.length} types)"

end Codec

end Countersign.Wire

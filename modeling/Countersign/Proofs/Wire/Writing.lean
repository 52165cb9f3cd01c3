import Countersign.Proofs.Wire.Scalar
import Countersign.Wire.Writer

namespace Countersign.Wire

namespace Codec

variable {c : Codec} {k : Kind} {t : RecordType} {id : Nat}

lemma typeAt?_eq_some : c.typeAt? id = some t ↔ c.entries[id]? = some (some t) := by
  rw [typeAt?]
  rcases c.entries[id]? with _ | _ | u <;> simp

lemma mem_types (h : c.typeAt? id = some t) : t ∈ c.types :=
  List.mem_filterMap.2 ⟨some t, List.mem_of_getElem? (typeAt?_eq_some.1 h), rfl⟩

lemma typeId?_eq_some : c.typeId? t = some id ↔ c.typeAt? id = some t := by
  rw [typeAt?_eq_some, typeId?, List.idxOf?_eq_some_iff]
  constructor
  · rintro ⟨h, he, _⟩
    rw [List.getElem?_eq_getElem h, he]
  · intro h
    obtain ⟨hl, he⟩ := List.getElem?_eq_some_iff.1 h
    refine ⟨hl, he, fun j hj hje => ?_⟩
    have hn := List.pairwise_iff_getElem.1 (List.pairwise_filterMap.1 c.nodup) j id (by omega) hl hj t hje t he
    exact hn rfl

lemma tag_eq_ok : c.tag k t = .ok id ↔ c.typeAt? id = some t ∧ t.implements k = true := by
  rw [tag, bind_eq_ok, ← typeId?_eq_some, typeId]
  rcases c.typeId? t with _ | i
  · simp
  · cases t.implements k <;> simp

end Codec

namespace Value

variable {o : Option Codec} {c : Codec} {f : Form} {l : Layout} {ls : List Layout} {t : RecordType} {k : Kind}
  {v : Value} {vs : List Value} {b : Bytes}

lemma bool?_eq_some {x : Bool} : v.bool? = some x ↔ v = .scalar (.bool x) := by
  cases v with
  | scalar s => cases s <;> simp [bool?]
  | _ => simp [bool?]

lemma write_scalar_eq_ok : v.write o (.scalar f) = .ok b ↔ ∃ s, v = .scalar s ∧ f.write s = .ok b := by
  rw [write, writeBy]
  cases f with
  | bool =>
    simp only [writeScalar, Usage.strict]
    cases hv : v.bool? with
    | some x =>
      obtain rfl := bool?_eq_some.1 hv
      simp
    | none =>
      refine iff_of_false (by simp) ?_
      rintro ⟨s, rfl, hs⟩
      cases s with
      | bool x => cases hv
      | _ => cases hs
  | _ => cases v <;> simp [writeScalar]

lemma write_slice_eq_ok : v.write o (.slice l) = .ok b ↔
    ∃ vs b', v = .list vs ∧ vs.length ≤ maxLength ∧ writeAll o l vs = .ok b' ∧ Bytes.ofNat 4 vs.length ++ b' = b := by
  simp only [write, writeAll]
  cases v with
  | list vs =>
    simp only [writeBy, bind_eq_ok, writeLength_natCast, pure_eq_ok]
    constructor
    · rintro ⟨_, ⟨hl, rfl⟩, b', hb, rfl⟩
      exact ⟨vs, b', rfl, hl, hb, rfl⟩
    · rintro ⟨_, b', ⟨⟩, hl, hb, rfl⟩
      exact ⟨_, ⟨hl, rfl⟩, b', hb, rfl⟩
  | _ => simp [writeBy]

lemma write_struct_eq_ok : v.write o (.struct t) = .ok b ↔
    ∃ vs, v = .record t vs ∧ writeFields o t.layouts vs = .ok b := by
  simp only [write, writeFields]
  cases v with
  | record u vs =>
    by_cases h : t = u
    · subst h
      simp [writeBy, Usage.strict]
    · simp [writeBy, Usage.strict, h, eq_comm]
  | _ => simp [writeBy]

lemma write_interface_eq_ok : v.write (some c) (.interface k) = .ok b ↔
    ∃ t vs id b', v = .record t vs ∧ c.typeAt? id = some t ∧ t.implements k = true ∧ id < Bytes.capacity 4 ∧
      writeFields (some c) t.layouts vs = .ok b' ∧ Bytes.ofNat 4 id ++ b' = b := by
  simp only [write, writeFields]
  cases v with
  | record t vs =>
    simp only [writeBy, bind_eq_ok, Codec.tag_eq_ok, pure_eq_ok, writeNumber_eq_ok]
    constructor
    · rintro ⟨id, ⟨ht, hk⟩, _, ⟨_, hlt, rfl⟩, b', hb, rfl⟩
      exact ⟨t, vs, id, b', rfl, ht, hk, Int.ofNat_lt.1 hlt, hb, rfl⟩
    · rintro ⟨_, _, id, b', ⟨⟩, ht, hk, hlt, hb, rfl⟩
      exact ⟨id, ⟨ht, hk⟩, _, ⟨Int.natCast_nonneg id, Int.ofNat_lt.2 hlt, rfl⟩, b', hb, rfl⟩
  | _ => simp [writeBy]

lemma writeAll_nil_eq_ok : writeAll o l [] = .ok b ↔ b = [] := by
  rw [writeAll, writeAllBy, pure_eq_ok, eq_comm]

lemma writeAll_cons_eq_ok : writeAll o l (v :: vs) = .ok b ↔
    ∃ b₁ b₂, v.write o l = .ok b₁ ∧ writeAll o l vs = .ok b₂ ∧ b₁ ++ b₂ = b := by
  simp only [writeAll, write, writeAllBy, bind_eq_ok, pure_eq_ok, exists_and_left]

lemma writeFields_nil_eq_ok : writeFields o [] vs = .ok b ↔ vs = [] ∧ b = [] := by
  cases vs with
  | nil => rw [writeFields, writeFieldsBy, pure_eq_ok, eq_comm, and_iff_right rfl]
  | cons v vs => simp [writeFields, writeFieldsBy]

lemma writeFields_cons_eq_ok : writeFields o (l :: ls) vs = .ok b ↔
    ∃ v vs' b₁ b₂, vs = v :: vs' ∧ v.write o l = .ok b₁ ∧ writeFields o ls vs' = .ok b₂ ∧ b₁ ++ b₂ = b := by
  cases vs with
  | nil => simp [writeFields, writeFieldsBy]
  | cons v vs =>
    simp only [writeFields, write, writeFieldsBy, bind_eq_ok, pure_eq_ok]
    constructor
    · rintro ⟨b₁, h₁, b₂, h₂, rfl⟩
      exact ⟨v, vs, b₁, b₂, rfl, h₁, h₂, rfl⟩
    · rintro ⟨_, _, b₁, b₂, ⟨⟩, h₁, h₂, rfl⟩
      exact ⟨b₁, h₁, b₂, h₂, rfl⟩

/-! Whether something can be written is up to its parts. -/

lemma exists_write_slice : (∃ b, (list vs).write o (.slice l) = .ok b) ↔
    vs.length ≤ maxLength ∧ ∃ b, writeAll o l vs = .ok b := by
  constructor
  · rintro ⟨_, h⟩
    obtain ⟨_, b, ⟨⟩, hl, hb, _⟩ := write_slice_eq_ok.1 h
    exact ⟨hl, b, hb⟩
  · rintro ⟨hl, b, hb⟩
    exact ⟨_, write_slice_eq_ok.2 ⟨vs, b, rfl, hl, hb, rfl⟩⟩

lemma exists_write_struct : (∃ b, (record t vs).write o (.struct t) = .ok b) ↔ ∃ b, writeFields o t.layouts vs = .ok b := by
  simp [write_struct_eq_ok]

lemma exists_write_interface {id : Nat} (ht : c.typeAt? id = some t) (hid : id < Bytes.capacity 4) :
    (∃ b, (record t vs).write (some c) (.interface k) = .ok b) ↔
      t.implements k = true ∧ ∃ b, writeFields (some c) t.layouts vs = .ok b := by
  constructor
  · rintro ⟨_, h⟩
    obtain ⟨_, _, _, b, ⟨⟩, _, hk, _, hf, _⟩ := write_interface_eq_ok.1 h
    exact ⟨hk, b, hf⟩
  · rintro ⟨hk, b, hf⟩
    exact ⟨_, write_interface_eq_ok.2 ⟨t, vs, id, b, rfl, ht, hk, hid, hf, rfl⟩⟩

lemma exists_writeAll_singleton : (∃ b, writeAll o l [v] = .ok b) ↔ ∃ b, v.write o l = .ok b := by
  simp [writeAll_cons_eq_ok, writeAll_nil_eq_ok]

lemma exists_writeFields_cons : (∃ b, writeFields o (l :: ls) (v :: vs) = .ok b) ↔
    (∃ b, v.write o l = .ok b) ∧ ∃ b, writeFields o ls vs = .ok b := by
  constructor
  · rintro ⟨_, h⟩
    obtain ⟨_, _, b₁, b₂, ⟨⟩, h₁, h₂, _⟩ := writeFields_cons_eq_ok.1 h
    exact ⟨⟨b₁, h₁⟩, b₂, h₂⟩
  · rintro ⟨⟨b₁, h₁⟩, b₂, h₂⟩
    exact ⟨_, writeFields_cons_eq_ok.2 ⟨v, vs, b₁, b₂, rfl, h₁, h₂, rfl⟩⟩

end Value

end Countersign.Wire

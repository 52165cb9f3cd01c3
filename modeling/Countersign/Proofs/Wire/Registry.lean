import Countersign.Proofs.Wire.Recursion
import Mathlib.Data.List.Nodup

namespace Countersign.Wire.Codec

open Reader

variable {name site : String} {entries : List (Option RecordType)} {c : Codec} {k : Kind} {t : RecordType} {n : Nat}
  {table : List RecordType}

/-! ### What is refused -/

lemma repeated?_eq_some {seen ts : List RecordType} : repeated? seen ts = some t ↔
    ∃ front back, ts = front ++ t :: back ∧ (t ∈ seen ∨ t ∈ front) ∧ front.Nodup ∧ ∀ u ∈ front, u ∉ seen := by
  induction ts generalizing seen with
  | nil => simp [repeated?]
  | cons u ts ih =>
    rw [repeated?]
    split
    · rename_i hu
      constructor
      · rintro ⟨⟩
        exact ⟨[], ts, rfl, .inl hu, List.nodup_nil, fun _ h => absurd h List.not_mem_nil⟩
      · rintro ⟨_ | ⟨_, front⟩, back, he, _, _, hs⟩
        · exact congrArg some (List.cons.inj he).1
        · obtain ⟨rfl, _⟩ := List.cons.inj he
          exact absurd hu (hs _ (List.mem_cons_self ..))
    · rename_i hu
      rw [ih]
      constructor
      · rintro ⟨front, back, rfl, ht, hn, hs⟩
        refine ⟨u :: front, back, rfl, ?_, ?_, ?_⟩ <;> grind
      · rintro ⟨_ | ⟨_, front⟩, back, he, ht, hn, hs⟩
        · grind
        · obtain ⟨rfl, rfl⟩ := List.cons.inj he
          refine ⟨front, back, rfl, ?_, ?_, ?_⟩ <;> grind

lemma repeated?_nil_eq_none {ts : List RecordType} : repeated? [] ts = none ↔ ts.Nodup := by
  refine ⟨fun h => (repeated?_eq_none ts [] h).1, fun h => Option.eq_none_iff_forall_ne_some.2 fun t ht => ?_⟩
  obtain ⟨front, back, rfl, hm, _⟩ := repeated?_eq_some.1 ht
  have hd := (List.nodup_append.1 h).2.2
  exact hd t (hm.resolve_left (List.not_mem_nil)) t (List.mem_cons_self ..) rfl

lemma ofEntries_eq_ok : ofEntries name entries = .ok c ↔ c.name = name ∧ c.entries = entries := by
  rw [ofEntries]
  split
  · rename_i t ht
    refine ⟨nofun, ?_⟩
    rintro ⟨rfl, rfl⟩
    rw [repeated?_nil_eq_none.2 c.nodup] at ht
    cases ht
  · constructor
    · rintro ⟨⟩
      exact ⟨rfl, rfl⟩
    · rintro ⟨rfl, rfl⟩
      rfl

lemma ofEntries_eq_error {e : Refusal} : ofEntries name entries = .error e ↔
    ∃ t, repeated? [] (entries.filterMap id) = some t ∧ .repeated t.name name = e := by
  rw [ofEntries]
  split
  · rename_i t ht
    rw [ht]
    simp
  · rename_i hn
    refine ⟨nofun, ?_⟩
    rintro ⟨t, ht, _⟩
    rw [hn] at ht
    cases ht

lemma exists_ofEntries_eq_error :
    (∃ e, ofEntries name entries = .error e) ↔ ∃ t, 2 ≤ entries.count (some t) := by
  have hc (t : RecordType) : (entries.filterMap id).count t = entries.count (some t) := List.count_filterMap
  calc (∃ e, ofEntries name entries = .error e)
      ↔ repeated? [] (entries.filterMap id) ≠ none := by
        simp only [ofEntries_eq_error, Option.ne_none_iff_exists']
        exact ⟨by rintro ⟨_, t, ht, _⟩; exact ⟨t, ht⟩, by rintro ⟨t, ht⟩; exact ⟨_, t, ht, rfl⟩⟩
    _ ↔ ¬ (entries.filterMap id).Nodup := not_congr repeated?_nil_eq_none
    _ ↔ ∃ t, 2 ≤ entries.count (some t) := by
        simp only [List.nodup_iff_count_le_one, hc, not_forall, Nat.not_le]
        exact Iff.rfl

def FirstRepeated (entries : List (Option RecordType)) (t : RecordType) : Prop :=
  ∃ front back, entries = front ++ some t :: back ∧ some t ∈ front ∧ (front.filterMap id).Nodup

lemma firstRepeated_of_error {e : Refusal} (h : ofEntries name entries = .error e) :
    ∃ t, FirstRepeated entries t ∧ e = .repeated t.name name := by
  obtain ⟨t, ht, rfl⟩ := ofEntries_eq_error.1 h
  obtain ⟨ts, us, he, hm, hn, _⟩ := repeated?_eq_some.1 ht
  obtain ⟨front, rest, rfl, rfl, hr⟩ := List.filterMap_eq_append_iff.1 he
  obtain ⟨gap, _, back, rfl, hg, rfl, _⟩ := List.filterMap_eq_cons_iff.1 hr
  have hg' : gap.filterMap id = [] := List.filterMap_eq_nil_iff.2 hg
  refine ⟨t, ⟨front ++ gap, back, by rw [List.append_assoc], ?_, ?_⟩, rfl⟩
  · obtain ⟨_, hm, rfl⟩ := List.mem_filterMap.1 (hm.resolve_left List.not_mem_nil)
    exact List.mem_append_left _ hm
  · rwa [List.filterMap_append, hg', List.append_nil]

/-! ### Numbers -/

lemma typeId_eq_ok : c.typeId t = .ok n ↔ c.entries[n]? = some (some t) := by
  rw [← typeAt?_eq_some, ← typeId?_eq_some, typeId]
  cases c.typeId? t with
  | none => simp
  | some m => simp

lemma typeId_of_not_mem (h : some t ∉ c.entries) : c.typeId t = .error (.notRegistered t.name c.name) := by
  rw [typeId, typeId?, List.idxOf?_eq_none_iff.2 h]

structure Numbers (c : Codec) (name : String) (entries : List (Option RecordType)) : Prop where
  placed : ∀ t n, c.typeId t = .ok n ↔ entries[n]? = some (some t)
  unregistered : ∀ t, some t ∉ entries → c.typeId t = .error (.notRegistered t.name name)

lemma runOn_readTagged (h : n < Bytes.capacity 4) (offset : Nat) (rest : Bytes) :
    (c.readTagged k).runOn ⟨offset, Bytes.ofNat 4 n ++ rest⟩ =
      match c.typeFor k n with
      | .error f => (.error f, ⟨offset + 4, rest⟩)
      | .ok t => (t.read c.readTagged).runOn ⟨offset + 4, rest⟩ := by
  have hn := Reads.number h offset rest
  rw [Bytes.length_ofNat] at hn
  rw [← congrFun c.readOver_readTagged k, readOver, runOn_bind, hn]
  dsimp only
  cases c.typeFor k n with
  | error f => rfl
  | ok t => rfl

lemma typeFor_of_entry (h : c.entries[n]? = some (some t)) :
    c.typeFor k n = if t.implements k then .ok t else .error (.idNotOfKind n t.name k) := by
  rw [typeFor, typeAt?_eq_some.2 h]

lemma typeFor_of_no_entry (h : ∀ t, c.entries[n]? ≠ some (some t)) :
    c.typeFor k n = .error (.unknownId n c.name) := by
  have hn : c.typeAt? n = none := Option.eq_none_iff_forall_ne_some.2 fun t ht => h t (typeAt?_eq_some.1 ht)
  rw [typeFor, hn]

structure Chooses (c : Codec) (name : String) (entries : List (Option RecordType)) (k : Kind) (n : Nat) : Prop where
  registered : ∀ t offset rest, c.typeId t = .ok n → (c.readTagged k).runOn ⟨offset, Bytes.ofNat 4 n ++ rest⟩ =
    if t.implements k then (t.read c.readTagged).runOn ⟨offset + 4, rest⟩
    else (.error (.idNotOfKind n t.name k), ⟨offset + 4, rest⟩)
  unknown : (∀ t, entries[n]? ≠ some (some t)) → ∀ offset rest,
    (c.readTagged k).runOn ⟨offset, Bytes.ofNat 4 n ++ rest⟩ = (.error (.unknownId n name), ⟨offset + 4, rest⟩)
  only : ∀ offset rest v d, (c.readTagged k).runOn ⟨offset, Bytes.ofNat 4 n ++ rest⟩ = (.ok v, d) →
    ∃ t vs, v = .record t vs ∧ c.typeId t = .ok n ∧ t.implements k = true

lemma chooses (c : Codec) (k : Kind) (hn : n < Bytes.capacity 4) : c.Chooses c.name c.entries k n where
  registered t offset rest ht := by
    rw [runOn_readTagged hn, typeFor_of_entry (typeId_eq_ok.1 ht)]
    cases t.implements k <;> rfl
  unknown ht offset rest := by rw [runOn_readTagged hn, typeFor_of_no_entry ht]
  only offset rest v d hr := by
    rw [runOn_readTagged hn] at hr
    cases ht : c.typeFor k n with
    | error f =>
      rw [ht] at hr
      cases hr
    | ok t =>
      rw [ht] at hr
      obtain ⟨vs, _, rfl, _⟩ := RecordType.read_canonical readTagged_canonical hr
      obtain ⟨ht, hk⟩ := typeFor_eq_ok.1 ht
      exact ⟨t, vs, rfl, typeId_eq_ok.2 (typeAt?_eq_some.1 ht), hk⟩

/-! ### Lists of types -/

def Ordered (c : Codec) (ts : List RecordType) : Prop :=
  ts.Pairwise fun t u => ∀ i j, c.typeId t = .ok i → c.typeId u = .ok j → i < j

lemma types_ordered (c : Codec) : c.Ordered c.types := by
  refine List.pairwise_filterMap.2 (List.pairwise_iff_getElem.2 fun i j hi hj hij t ht u hu i' j' ht' hu' => ?_)
  have hn {i : Nat} {t : RecordType} (hi : i < c.entries.length) (ht : id c.entries[i] = some t) :
      c.typeId t = .ok i :=
    typeId_eq_ok.2 (by rw [List.getElem?_eq_getElem hi]; exact congrArg some ht)
  obtain rfl := Except.ok.inj ((hn hi ht).symm.trans ht')
  obtain rfl := Except.ok.inj ((hn hj hu).symm.trans hu')
  exact hij

lemma mem_typesOf : t ∈ c.typesOf k ↔ some t ∈ c.entries ∧ t.implements k = true := by
  rw [typesOf, types, List.mem_filter, List.mem_filterMap]
  simp

lemma checkTable_eq_ok : c.checkTable k table site = .ok () ↔ ∀ t ∈ c.typesOf k, t ∈ table := by
  rw [checkTable]
  split
  · rename_i h
    simpa using h
  · rename_i h
    refine ⟨nofun, fun ht => absurd ?_ h⟩
    simpa using ht

lemma exists_missing_of_error {e : Refusal} (h : c.checkTable k table site = .error e) : ∃ missing, missing ≠ [] ∧
    (∀ t, t ∈ missing ↔ t ∈ c.typesOf k ∧ t ∉ table) ∧ c.Ordered missing ∧
    e = .incomplete site c.name (missing.map (·.name)) := by
  rw [checkTable] at h
  split at h
  · cases h
  · rename_i hm
    cases h
    exact ⟨_, hm, fun t => by simp, ((c.types_ordered).filter _).filter _, rfl⟩

structure Lists (c : Codec) (entries : List (Option RecordType)) (k : Kind) : Prop where
  mem_iff : ∀ t, t ∈ c.typesOf k ↔ some t ∈ entries ∧ t.implements k = true
  ordered : c.Ordered (c.typesOf k)

structure Checks (c : Codec) (name : String) (k : Kind) (table : List RecordType) (site : String) : Prop where
  taken : c.checkTable k table site = .ok () ↔ ∀ t ∈ c.typesOf k, t ∈ table
  refused : ∀ e, c.checkTable k table site = .error e → ∃ missing, missing ≠ [] ∧
    (∀ t, t ∈ missing ↔ t ∈ c.typesOf k ∧ t ∉ table) ∧ c.Ordered missing ∧
    e = .incomplete site name (missing.map (·.name))

/-- Numbers and types go together in everything that a codec does with them. -/
theorem registry_exact (name : String) (entries : List (Option RecordType)) :
    ((∃ e, ofEntries name entries = .error e) ↔ ∃ t, 2 ≤ entries.count (some t)) ∧
    (∀ e, ofEntries name entries = .error e → ∃ t, FirstRepeated entries t ∧ e = .repeated t.name name) ∧
    ∀ c, ofEntries name entries = .ok c → c.Numbers name entries ∧
      (∀ k n, n < Bytes.capacity 4 → c.Chooses name entries k n) ∧
      ∀ k, c.Lists entries k ∧ ∀ table site, c.Checks name k table site := by
  refine ⟨exists_ofEntries_eq_error, fun e => firstRepeated_of_error, fun c hc => ?_⟩
  obtain ⟨rfl, rfl⟩ := ofEntries_eq_ok.1 hc
  refine ⟨⟨fun t n => typeId_eq_ok, fun t => typeId_of_not_mem⟩, fun k n hn => c.chooses k hn, fun k => ⟨⟨?_, ?_⟩, ?_⟩⟩
  · exact fun t => mem_typesOf
  · exact c.types_ordered.filter _
  · exact fun table site => ⟨checkTable_eq_ok, fun e => exists_missing_of_error⟩

end Countersign.Wire.Codec

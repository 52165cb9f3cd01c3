import Countersign.Proofs.Chain.Detect
import Countersign.Proofs.Wire.Agreement

/-! What the chains have in common. The types of the plain extension that hold and move funds have the same numbers
everywhere, and no other number is read as two types in one place, transactions apart. So a common start with such
funds is the same bytes on every chain, and is read from them in one way. -/

namespace Countersign.Chain

open Wire

variable {a b : Chain} {t : RecordType} {k : Kind} {v : Value} {f : Chain → Except Wire.Fault Bytes}

def Alike (f : Chain → Except Wire.Fault Bytes) : Prop :=
  (∃ data, ∀ c, f c = .ok data) ∨ ∀ c, ∃ e, f c = .error e

lemma alike_of_mono (h : ∀ a b data, f a = .ok data → f b = .ok data) : Alike f := by
  by_cases hok : ∃ a data, f a = .ok data
  · obtain ⟨a, data, ha⟩ := hok
    exact .inl ⟨data, fun b => h a b data ha⟩
  · refine .inr fun c => ?_
    cases hc : f c with
    | error e => exact ⟨e, rfl⟩
    | ok data => exact (hok ⟨c, data, hc⟩).elim

/-! ### Numbers -/

def parts : List Kind := Kind.all.filter (· ≠ .unsignedTx)

lemma typeId?_secp (ht : t ∈ Secp.all.take 5) (c : Chain) : c.codec.typeId? t = some (5 + Secp.all.idxOf t) := by
  have h : ∀ t ∈ Secp.all.take 5, c.codec.typeId? t = some (5 + Secp.all.idxOf t) := by cases c <;> decide +kernel
  exact h t ht

lemma asks_secp (ht : t ∈ Secp.all) : t.asks = [] := by
  have h : ∀ t ∈ Secp.all, t.asks = [] := by decide +kernel
  exact h t ht

lemma mem_take_of_implements (ht : t ∈ Secp.all) (hk : k ∈ Component.baseTx.asks) (hi : t.implements k = true) :
    t ∈ Secp.all.take 5 := by
  have h : ∀ t ∈ Secp.all, ∀ k ∈ Component.baseTx.asks, t.implements k = true → t ∈ Secp.all.take 5 := by
    decide +kernel
  exact h t ht k hk hi

lemma compatible (a b : Chain) : a.codec.Compatible b.codec parts where
  same k hk id t u ht hu := by
    have h : ∀ id < 40, ∀ t ∈ a.codec.typeAt? id, ∀ u ∈ b.codec.typeAt? id,
        t = u ∨ ∀ k ∈ parts, ¬ (t.implements k = true ∧ u.implements k = true) := by
      cases a <;> cases b <;> decide +kernel
    obtain ⟨ht, hi⟩ := Codec.typeFor_eq_ok.1 ht
    obtain ⟨hu, hj⟩ := Codec.typeFor_eq_ok.1 hu
    exact (h id (lt_of_typeAt? ht) t ht u hu).resolve_right fun hn => hn k hk ⟨hi, hj⟩
  closed k _ id t ht := by
    have h : ∀ t ∈ a.codec.types, ∀ k ∈ t.asks, k ∈ parts := by cases a <;> decide +kernel
    exact h t (Codec.mem_types (Codec.typeFor_eq_ok.1 ht).1)

/-! ### Messages -/

lemma passes_secp (ht : t ∈ Secp.all.take 5) (k : Kind) (vs : List Value) :
    a.codec.Passes b.codec (k, .record t vs) :=
  Codec.passes_of_asks_eq_nil (asks_secp (List.mem_of_mem_take ht))
    ((typeId?_secp ht a).trans (typeId?_secp ht b).symm) k vs

lemma passes_funds (hk : k ∈ Component.baseTx.asks) (ht : t ∈ Secp.all) (hv : v.type? = some t) :
    a.codec.Passes b.codec (k, v) := by
  intro bytes hb
  obtain ⟨u, vs, _, _, rfl, _, hi, _⟩ := Value.write_interface_eq_ok.1 hb
  obtain rfl := Option.some.inj hv
  exact passes_secp (mem_take_of_implements ht hk hi) k vs bytes hb

/-- Chains write the shared types alike, and do not read them apart. -/
theorem shared_types_agree :
    (∀ v : Value, v.type? = some Component.baseTx → (∀ p ∈ v.held, ∃ t ∈ Secp.all, p.2.type? = some t) →
      Alike fun c => c.codec.marshalStruct v) ∧
    (∀ t ∈ [Secp.credential, Secp.transferInput, Secp.transferOutput, Secp.mintOutput, Secp.mintOperation],
      ∀ vs k, Alike fun c => c.codec.marshal (.record t vs) k) ∧
    ∀ a b : Chain, ∀ data v w, a.codec.unmarshalStruct data Component.baseTx = .ok v →
      b.codec.unmarshalStruct data Component.baseTx = .ok w → v = w := by
  refine ⟨?_, ?_, ?_⟩
  · rintro (_ | _ | ⟨u, vs⟩ | _) ⟨⟩ hv
    refine alike_of_mono fun a b data hd => Codec.marshalStruct_mono (fun p hp => ?_) hd
    obtain ⟨t, ht, hpt⟩ := hv p hp
    rw [Value.held, RecordType.held_eq] at hp
    exact passes_funds (RecordType.asks_eq _ ▸ fst_mem_fieldsAsk hp) ht hpt
  · intro t ht vs k
    have hall : ∀ t ∈ [Secp.credential, Secp.transferInput, Secp.transferOutput, Secp.mintOutput, Secp.mintOperation],
        t ∈ Secp.all.take 5 := by decide +kernel
    exact alike_of_mono fun a b data hd => Codec.marshal_mono (passes_secp (hall t ht) k vs) hd
  · intro a b data v w hv hw
    exact Codec.eq_of_unmarshalStruct (compatible a b) (by decide +kernel) hv hw

def payment : Value :=
  let ident (n : UInt8) : Value := .bytes (List.replicate 32 n)
  let owners : Value := .record Secp.outputOwners [.int 0, .int 1, .list [.bytes (List.replicate 20 7)]]
  let output : Value := .record Component.transferableOutput [ident 2, .record Secp.transferOutput [.int 5, owners]]
  let input : Value := .record Component.transferableInput
    [.record Component.utxoId [ident 3, .int 0], ident 2,
      .record Secp.transferInput [.int 7, .record Secp.input [.list [.int 0]]]]
  .record Component.baseTx [.int 1, ident 1, .list [output], .list [input], .bytes []]

theorem payment_shared : ∃ data, (∀ c : Chain, c.codec.marshalStruct payment = .ok data) ∧
    ∀ (c : Chain) w, c.codec.unmarshalStruct data Component.baseTx = .ok w → w = payment := by
  have hw : (platform.codec.marshalStruct payment).toOption.isSome = true := by decide +kernel
  obtain ⟨data, hd⟩ | he := shared_types_agree.1 payment rfl (by decide +kernel)
  · have hr : platform.codec.unmarshalStruct data Component.baseTx = .ok payment :=
      Codec.unmarshalStruct_marshalStruct platform.spacious_codec (by decide +kernel) (hd platform)
    exact ⟨data, hd, fun c w h => shared_types_agree.2.2 c platform data w payment h hr⟩
  · obtain ⟨e, he⟩ : ∃ e, platform.codec.marshalStruct payment = .error e := he platform
    rw [he] at hw
    cases hw

end Countersign.Chain

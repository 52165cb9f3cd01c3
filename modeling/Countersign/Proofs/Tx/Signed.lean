import Countersign.Proofs.Wire.Usage
import Countersign.Tx.Signed

namespace Countersign

open Wire Digest

variable {chain : Chain} {o : Option Codec} {c : Credential} {v : Value} {vs : List Value} {b : Bytes}

lemma Chain.spacious_codec (chain : Chain) : chain.codec.spacious = true := by
  cases chain <;> decide +kernel

lemma Chain.flagless_codec (chain : Chain) : chain.codec.flagless = true := by
  cases chain <;> decide +kernel

theorem Chain.writeBy_closed (chain : Chain) (k : Kind) (v : Value) :
    v.writeBy .closed (some chain.codec) (.interface k) = chain.codec.writeTagged k v :=
  Value.writeBy_flagless chain.flagless_codec v rfl

lemma Chain.exists_credentialType (chain : Chain) {t : RecordType} (ht : t ∈ chain.codec.types)
    (hk : t.implements .credential = true) : ∃ e : Extension, e.credentialType = t := by
  have h : ∀ t ∈ chain.codec.types, t.implements .credential = true → ∃ e ∈ Extension.all, e.credentialType = t := by
    cases chain <;> decide +kernel
  obtain ⟨e, _, he⟩ := h t ht hk
  exact ⟨e, he⟩

namespace Wire.Value

lemma mapM_bytes? (bs : List Bytes) : (bs.map bytes).mapM bytes? = some bs := by
  induction bs with
  | nil => rfl
  | cons s bs ih =>
    rw [List.map_cons, List.mapM_cons, ih]
    rfl

lemma write_fixed_eq_ok {size : Nat} : v.write o (.fixed size) = .ok b ↔ v = bytes b ∧ b.length = size := by
  rw [Layout.fixed, write_scalar_eq_ok]
  constructor
  · rintro ⟨s, rfl, h⟩
    cases s with
    | bytes x =>
      rw [Form.write] at h
      split at h
      · rename_i hs
        obtain rfl := Except.ok.inj h
        exact ⟨rfl, hs⟩
      · cases h
    | _ => cases h
  · rintro ⟨rfl, hs⟩
    exact ⟨_, rfl, if_pos hs⟩

lemma writeAll_fixed_eq_ok {size : Nat} : writeAll o (.fixed size) vs = .ok b ↔
    ∃ bs : List Bytes, vs = bs.map bytes ∧ (∀ s ∈ bs, s.length = size) ∧ bs.flatten = b := by
  induction vs generalizing b with
  | nil =>
    rw [writeAll_nil_eq_ok]
    constructor
    · rintro rfl
      exact ⟨[], rfl, by simp, rfl⟩
    · rintro ⟨bs, hbs, _, rfl⟩
      rw [List.map_eq_nil_iff.1 hbs.symm]
      rfl
  | cons v vs ih =>
    simp only [writeAll_cons_eq_ok, write_fixed_eq_ok, ih]
    constructor
    · rintro ⟨s, _, ⟨rfl, hs⟩, ⟨bs, rfl, hbs, rfl⟩, rfl⟩
      exact ⟨s :: bs, rfl, by simpa [hs] using hbs, rfl⟩
    · rintro ⟨_ | ⟨s, bs⟩, hv, hbs, rfl⟩
      · cases hv
      · obtain ⟨rfl, rfl⟩ := List.cons.inj hv
        rw [List.forall_mem_cons] at hbs
        exact ⟨s, _, ⟨rfl, hbs.1⟩, ⟨bs, rfl, hbs.2, rfl⟩, rfl⟩

end Wire.Value

namespace Credential

open Wire.Value

lemma layouts_credentialType (e : Extension) : e.credentialType.layouts = [.slice (.fixed signatureSize)] := by
  cases e <;> rfl

lemma implements_credentialType (e : Extension) : e.credentialType.implements .credential = true := by
  cases e <;> rfl

lemma ofValue?_toValue (c : Credential) : ofValue? c.toValue = some c := by
  obtain ⟨e, sigs⟩ := c
  have he : Extension.all.find? (·.credentialType == e.credentialType) = some e := by
    cases e <;> decide +kernel
  have hf : Value.field? "sigs" (toValue ⟨e, sigs⟩) = some (.list (sigs.map .bytes)) := by
    cases e <;> rfl
  have hs : (Value.list (sigs.map .bytes)).bytesList? = some sigs := mapM_bytes? sigs
  rw [ofValue?, hf]
  simp only [toValue, Value.type?, he, hs, Option.bind_eq_bind, Option.bind_some, Option.pure_def]

lemma write_toValue_eq_ok : c.toValue.write (some chain.codec) (.interface .credential) = .ok b ↔
    ∃ id, chain.codec.typeAt? id = some c.extension.credentialType ∧ id < Bytes.capacity 4 ∧
      c.sigs.length ≤ maxLength ∧ (∀ s ∈ c.sigs, s.length = signatureSize) ∧
      Bytes.ofNat 4 id ++ (Bytes.ofNat 4 c.sigs.length ++ c.sigs.flatten) = b := by
  rw [write_interface_eq_ok, toValue]
  constructor
  · rintro ⟨t, vs, id, b', hv, ht, _, hlt, hb, rfl⟩
    obtain ⟨rfl, rfl⟩ := Value.record.inj hv
    rw [layouts_credentialType] at hb
    obtain ⟨_, _, b₁, b₂, ⟨⟩, h₁, h₂, rfl⟩ := writeFields_cons_eq_ok.1 hb
    obtain ⟨_, rfl⟩ := writeFields_nil_eq_ok.1 h₂
    obtain ⟨ws, b', hw, hm, h₃, rfl⟩ := write_slice_eq_ok.1 h₁
    obtain rfl := Value.list.inj hw
    obtain ⟨bs, hbs, hs, rfl⟩ := writeAll_fixed_eq_ok.1 h₃
    obtain rfl : c.sigs = bs := Option.some.inj (by rw [← mapM_bytes?, hbs, mapM_bytes?])
    rw [List.length_map] at hm
    exact ⟨id, ht, hlt, hm, hs, by rw [List.length_map, List.append_nil]⟩
  · rintro ⟨id, ht, hlt, hm, hs, rfl⟩
    refine ⟨_, _, id, _, rfl, ht, implements_credentialType _, hlt, ?_, rfl⟩
    rw [layouts_credentialType]
    refine writeFields_cons_eq_ok.2 ⟨_, [], _, [], rfl, write_slice_eq_ok.2 ⟨_, _, rfl, ?_,
      writeAll_fixed_eq_ok.2 ⟨c.sigs, rfl, hs, rfl⟩, rfl⟩, rfl, ?_⟩
    · rwa [List.length_map]
    · rw [List.length_map, List.append_nil]

lemma exists_toValue (h : v.write (some chain.codec) (.interface .credential) = .ok b) :
    ∃ c : Credential, c.toValue = v := by
  obtain ⟨t, vs, id, b', rfl, ht, hk, _, hb, _⟩ := write_interface_eq_ok.1 h
  obtain ⟨e, rfl⟩ := chain.exists_credentialType (Codec.mem_types ht) hk
  rw [layouts_credentialType] at hb
  obtain ⟨w, _, b₁, b₂, rfl, h₁, h₂, _⟩ := writeFields_cons_eq_ok.1 hb
  obtain ⟨rfl, _⟩ := writeFields_nil_eq_ok.1 h₂
  obtain ⟨ws, _, rfl, _, h₁, _⟩ := write_slice_eq_ok.1 h₁
  obtain ⟨bs, rfl, _, _⟩ := writeAll_fixed_eq_ok.1 h₁
  exact ⟨⟨e, bs⟩, rfl⟩

lemma mapM_ofValue? (cs : List Credential) : (cs.map toValue).mapM ofValue? = some cs := by
  induction cs with
  | nil => rfl
  | cons c cs ih =>
    rw [List.map_cons, List.mapM_cons, ih, ofValue?_toValue]
    rfl

lemma exists_map_toValue (h : writeAll (some chain.codec) (.interface .credential) vs = .ok b) :
    ∃ cs : List Credential, cs.map toValue = vs := by
  induction vs generalizing b with
  | nil => exact ⟨[], rfl⟩
  | cons v vs ih =>
    obtain ⟨b₁, b₂, h₁, h₂, _⟩ := writeAll_cons_eq_ok.1 h
    obtain ⟨c, rfl⟩ := exists_toValue h₁
    obtain ⟨cs, rfl⟩ := ih h₂
    exact ⟨c :: cs, rfl⟩

lemma writeAll_map_toValue {cs : List Credential} :
    (∃ b, writeAll o (.interface .credential) (cs.map toValue) = .ok b) ↔
      ∀ c ∈ cs, ∃ b, c.toValue.write o (.interface .credential) = .ok b := by
  induction cs with
  | nil => exact ⟨nofun, fun _ => ⟨[], rfl⟩⟩
  | cons c cs ih =>
    rw [List.forall_mem_cons, ← ih]
    constructor
    · rintro ⟨b, h⟩
      obtain ⟨b₁, b₂, h₁, h₂, _⟩ := writeAll_cons_eq_ok.1 h
      exact ⟨⟨b₁, h₁⟩, b₂, h₂⟩
    · rintro ⟨⟨b₁, h₁⟩, b₂, h₂⟩
      exact ⟨_, writeAll_cons_eq_ok.2 ⟨b₁, b₂, h₁, h₂, rfl⟩⟩

end Credential

namespace SignedTx

variable {tx : SignedTx} {data : Bytes}

lemma exists_of_marshalSigned {unsigned : Value} {creds : List Value}
    (h : chain.codec.marshalSigned unsigned creds = .ok data) :
    ∃ cs : List Credential, cs.map Credential.toValue = creds ∧ (SignedTx.mk chain unsigned cs).toBytes = .ok data := by
  obtain ⟨_, _, h'⟩ := bind_eq_ok.1 h
  obtain ⟨_, hc, _⟩ := bind_eq_ok.1 h'
  obtain ⟨_, _, hc⟩ := bind_eq_ok.1 hc
  obtain ⟨_, hw, _⟩ := bind_eq_ok.1 hc
  obtain ⟨cs, rfl⟩ := Credential.exists_map_toValue hw
  exact ⟨cs, rfl, h⟩

lemma ofMessage_toValue (unsigned : Value) (cs : List Credential) :
    ofMessage chain (unsigned, cs.map Credential.toValue) = .ok ⟨chain, unsigned, cs⟩ := by
  rw [ofMessage, Credential.mapM_ofValue?]
  rfl

lemma ofBytes_eq_ok : ofBytes chain data = .ok tx ↔ tx.chain = chain ∧ tx.toBytes = .ok data := by
  rw [ofBytes, bind_eq_ok]
  constructor
  · rintro ⟨⟨unsigned, creds⟩, hr, h⟩
    obtain ⟨cs, rfl, hw⟩ := exists_of_marshalSigned (Codec.unmarshalSigned_canonical hr).1
    obtain rfl := Except.ok.inj ((ofMessage_toValue unsigned cs).symm.trans h)
    exact ⟨rfl, hw⟩
  · rintro ⟨rfl, h⟩
    exact ⟨_, Codec.unmarshalSigned_marshalSigned tx.chain.spacious_codec h, ofMessage_toValue tx.unsigned tx.creds⟩

def Tells (chain : Chain) (data : Bytes) : Prop :=
  (∃ tx, ofBytes chain data = .ok tx ∧
    chain.codec.unmarshalSigned data = .ok (tx.unsigned, tx.creds.map Credential.toValue)) ∨
  ∃ e, ofBytes chain data = .error e ∧ chain.codec.unmarshalSigned data = .error e

lemma ofBytes_tells (chain : Chain) (data : Bytes) : Tells chain data := by
  cases h : chain.codec.unmarshalSigned data with
  | error e =>
    refine .inr ⟨e, ?_, h⟩
    rw [ofBytes, h]
    rfl
  | ok r =>
    obtain ⟨unsigned, creds⟩ := r
    obtain ⟨cs, rfl, hw⟩ := exists_of_marshalSigned (Codec.unmarshalSigned_canonical h).1
    exact .inl ⟨⟨chain, unsigned, cs⟩, ofBytes_eq_ok.2 ⟨rfl, hw⟩, h⟩

lemma exists_toBytes : (∃ data, tx.toBytes = .ok data) ↔
    (∃ b, tx.chain.codec.writeTagged .unsignedTx tx.unsigned = .ok b) ∧ tx.creds.length ≤ maxLength ∧
      ∀ c ∈ tx.creds, ∃ b, c.toValue.write (some tx.chain.codec) (.interface .credential) = .ok b := by
  constructor
  · rintro ⟨data, h⟩
    obtain ⟨b, hb, h⟩ := bind_eq_ok.1 h
    obtain ⟨_, hc, _⟩ := bind_eq_ok.1 h
    obtain ⟨_, hl, hc⟩ := bind_eq_ok.1 hc
    obtain ⟨_, hc, _⟩ := bind_eq_ok.1 hc
    rw [List.length_map] at hl
    exact ⟨⟨b, hb⟩, (writeLength_natCast.1 hl).1, Credential.writeAll_map_toValue.1 ⟨_, hc⟩⟩
  · rintro ⟨⟨b, hb⟩, hl, hc⟩
    obtain ⟨b', hc⟩ := Credential.writeAll_map_toValue.2 hc
    rw [← List.length_map (f := Credential.toValue)] at hl
    have hcs : tx.chain.codec.writeCredentials (tx.creds.map Credential.toValue) = .ok (Bytes.ofNat 4 _ ++ b') :=
      bind_eq_ok.2 ⟨_, writeLength_natCast.2 ⟨hl, rfl⟩, bind_eq_ok.2 ⟨b', hc, rfl⟩⟩
    exact ⟨_, bind_eq_ok.2 ⟨b, hb, bind_eq_ok.2 ⟨_, hcs, rfl⟩⟩⟩

lemma unsignedBytes_prefix (h : tx.toBytes = .ok data) : ∃ front, tx.unsignedBytes = .ok front ∧ front <+: data := by
  obtain ⟨b, hb, h⟩ := bind_eq_ok.1 h
  obtain ⟨b', _, h⟩ := bind_eq_ok.1 h
  obtain rfl := pure_eq_ok.1 h
  exact ⟨_, bind_eq_ok.2 ⟨b, hb, rfl⟩, List.prefix_append _ _⟩

lemma id_eq_ok (h : tx.toBytes = .ok data) : tx.id = .ok (sha256 data) := map_eq_ok.2 ⟨data, h, rfl⟩

lemma idText_eq_ok (h : tx.toBytes = .ok data) : tx.idText = .ok (Ident.encode (sha256 data)) :=
  map_eq_ok.2 ⟨_, id_eq_ok h, rfl⟩

end SignedTx

/-- Bytes that are accepted are the only ones for what they are read as, with or without credentials. -/
theorem decoder_canonical :
    (∀ (c : Codec) k data v, c.unmarshal data k = .ok v → c.marshal v k = .ok data) ∧
    (∀ (c : Codec) t data v, c.unmarshalStruct data t = .ok v → v.type? = some t ∧ c.marshalStruct v = .ok data) ∧
    (∀ (c : Codec) data unsigned creds, c.unmarshalSigned data = .ok (unsigned, creds) →
      c.marshalSigned unsigned creds = .ok data ∧
      ∃ front, c.marshal unsigned .unsignedTx = .ok front ∧ front <+: data) ∧
    (∀ (c : Codec) k k' data data' v, c.unmarshal data k = .ok v → c.unmarshal data' k' = .ok v → data = data') ∧
    (∀ (c : Codec) t t' data data' v, c.unmarshalStruct data t = .ok v → c.unmarshalStruct data' t' = .ok v →
      data = data') ∧
    (∀ (c : Codec) data data' r, c.unmarshalSigned data = .ok r → c.unmarshalSigned data' = .ok r → data = data') ∧
    ∀ chain data tx, SignedTx.ofBytes chain data = .ok tx →
      tx.toBytes = .ok data ∧ tx.id = .ok (sha256 data) ∧
      ∃ front, tx.unsignedBytes = .ok front ∧ front <+: data ∧ tx.digest = .ok (sha256 front) := by
  refine ⟨fun c k data v => Codec.unmarshal_canonical, fun c t data v => Codec.unmarshalStruct_canonical,
    fun c data unsigned creds => Codec.unmarshalSigned_canonical, ?_, ?_, ?_, ?_⟩
  · intro c k k' data data' v h h'
    exact Codec.marshal_kind (Codec.unmarshal_canonical h) (Codec.unmarshal_canonical h')
  · intro c t t' data data' v h h'
    have hw := (Codec.unmarshalStruct_canonical h).2
    exact Except.ok.inj (hw.symm.trans (Codec.unmarshalStruct_canonical h').2)
  · rintro c data data' ⟨unsigned, creds⟩ h h'
    have hw := (Codec.unmarshalSigned_canonical h).1
    exact Except.ok.inj (hw.symm.trans (Codec.unmarshalSigned_canonical h').1)
  · intro chain data tx h
    obtain ⟨_, hw⟩ := SignedTx.ofBytes_eq_ok.1 h
    obtain ⟨front, hf, hp⟩ := SignedTx.unsignedBytes_prefix hw
    exact ⟨hw, SignedTx.id_eq_ok hw, front, hf, hp, map_eq_ok.2 ⟨front, hf, rfl⟩⟩

end Countersign

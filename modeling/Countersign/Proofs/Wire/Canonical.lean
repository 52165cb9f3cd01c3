import Countersign.Proofs.Wire.Writing
import Countersign.Wire.Marshal

namespace Countersign.Wire

open Reader

variable {c : Codec} {l : Layout} {nested : Kind → Reader Value}

lemma RecordType.read_eq (t : RecordType) :
    t.read nested = (do return .record t (← readFields nested t.fields)) := by
  cases t
  rw [RecordType.read]

lemma Reader.many_canonical {r : Reader Value} (hr : r.Canonical (Value.write (some c) l)) {n : Nat} {d d' : Cursor}
    {vs : List Value} (h : (many r n).runOn d = (.ok vs, d')) :
    vs.length = n ∧ ∃ b, Value.writeAll (some c) l vs = .ok b ∧ d.rest = b ++ d'.rest := by
  induction n generalizing d vs with
  | zero =>
    obtain ⟨rfl, rfl⟩ := runOn_pure_ok h
    exact ⟨rfl, [], rfl, rfl⟩
  | succ n ih =>
    rw [many] at h
    obtain ⟨v, d₁, hv, h⟩ := runOn_bind_ok.1 h
    obtain ⟨vs', d₂, hvs, h⟩ := runOn_bind_ok.1 h
    obtain ⟨rfl, rfl⟩ := runOn_pure_ok h
    obtain ⟨b₁, hb₁, he₁⟩ := hr _ _ _ hv
    obtain ⟨rfl, b₂, hb₂, he₂⟩ := ih hvs
    exact ⟨rfl, b₁ ++ b₂, Value.writeAll_cons_eq_ok.2 ⟨b₁, b₂, hb₁, hb₂, rfl⟩, by rw [he₁, he₂, List.append_assoc]⟩

mutual

theorem Layout.read_canonical (hn : ∀ k, (nested k).Canonical (Value.write (some c) (.interface k))) :
    ∀ l : Layout, (l.read nested).Canonical (Value.write (some c) l)
  | .scalar f => by
    intro d d' v h
    rw [Layout.read] at h
    obtain ⟨s, d₁, hs, h⟩ := runOn_bind_ok.1 h
    obtain ⟨rfl, rfl⟩ := runOn_pure_ok h
    obtain ⟨b, hb, he⟩ := f.read_canonical _ _ _ hs
    exact ⟨b, Value.write_scalar_eq_ok.2 ⟨s, rfl, hb⟩, he⟩
  | .slice l => by
    intro d d' v h
    rw [Layout.read] at h
    obtain ⟨n, d₁, hl, h⟩ := runOn_bind_ok.1 h
    obtain ⟨vs, d₂, hvs, h⟩ := runOn_bind_ok.1 h
    obtain ⟨rfl, rfl⟩ := runOn_pure_ok h
    obtain ⟨hm, _, he⟩ := runOn_length_ok hl
    obtain ⟨rfl, b, hb, he'⟩ := many_canonical (l.read_canonical hn) hvs
    exact ⟨_, Value.write_slice_eq_ok.2 ⟨vs, b, rfl, hm, hb, rfl⟩, by rw [he, he', List.append_assoc]⟩
  | .struct ⟨s, n, ks, fs⟩ => by
    intro d d' v h
    rw [Layout.read, RecordType.read] at h
    obtain ⟨vs, d₁, hvs, h⟩ := runOn_bind_ok.1 h
    obtain ⟨rfl, rfl⟩ := runOn_pure_ok h
    obtain ⟨b, hb, he⟩ := readFields_canonical hn fs _ _ _ hvs
    exact ⟨b, Value.write_struct_eq_ok.2 ⟨vs, rfl, hb⟩, he⟩
  | .interface k => by
    rw [Layout.read]
    exact hn k

theorem readFields_canonical (hn : ∀ k, (nested k).Canonical (Value.write (some c) (.interface k))) :
    ∀ fs : List (String × Layout), (readFields nested fs).Canonical (Value.writeFields (some c) (fs.map (·.2)))
  | [] => by
    intro d d' vs h
    rw [readFields] at h
    obtain ⟨rfl, rfl⟩ := runOn_pure_ok h
    exact ⟨[], rfl, rfl⟩
  | (_, l) :: fs => by
    intro d d' vs h
    rw [readFields] at h
    obtain ⟨v, d₁, hv, h⟩ := runOn_bind_ok.1 h
    obtain ⟨vs', d₂, hvs, h⟩ := runOn_bind_ok.1 h
    obtain ⟨rfl, rfl⟩ := runOn_pure_ok h
    obtain ⟨b₁, hb₁, he₁⟩ := l.read_canonical hn _ _ _ hv
    obtain ⟨b₂, hb₂, he₂⟩ := readFields_canonical hn fs _ _ _ hvs
    exact ⟨b₁ ++ b₂, Value.writeFields_cons_eq_ok.2 ⟨v, vs', b₁, b₂, rfl, hb₁, hb₂, rfl⟩,
      by rw [he₁, he₂, List.append_assoc]⟩

end

lemma RecordType.read_canonical (hn : ∀ k, (nested k).Canonical (Value.write (some c) (.interface k)))
    {t : RecordType} {d d' : Cursor} {v : Value} (h : (t.read nested).runOn d = (.ok v, d')) :
    ∃ vs b, v = .record t vs ∧ Value.writeFields (some c) t.layouts vs = .ok b ∧ d.rest = b ++ d'.rest := by
  rw [read_eq] at h
  obtain ⟨vs, d₁, hvs, h⟩ := runOn_bind_ok.1 h
  obtain ⟨rfl, rfl⟩ := runOn_pure_ok h
  obtain ⟨b, hb, he⟩ := readFields_canonical hn t.fields _ _ _ hvs
  exact ⟨vs, b, rfl, hb, he⟩

namespace Codec

lemma typeFor_eq_ok {k : Kind} {id : Nat} {t : RecordType} :
    c.typeFor k id = .ok t ↔ c.typeAt? id = some t ∧ t.implements k = true := by
  rw [typeFor]
  rcases c.typeAt? id with _ | u
  · simp
  · by_cases hk : u.implements k = true
    · simp only [hk, if_true, Except.ok.injEq, Option.some.injEq]
      exact ⟨by rintro rfl; exact ⟨rfl, hk⟩, And.left⟩
    · simp only [hk, Option.some.injEq]
      exact ⟨nofun, by rintro ⟨rfl, h⟩; exact (hk h).elim⟩

lemma readWithin_canonical (depth : Nat) (k : Kind) :
    (c.readWithin depth k).Canonical (Value.write (some c) (.interface k)) := by
  induction depth generalizing k with
  | zero =>
    intro d d' v h
    rw [readWithin] at h
    obtain ⟨_, _, _, h⟩ := runOn_bind_ok.1 h
    exact (runOn_throw_ok h).elim
  | succ depth ih =>
    intro d d' v h
    rw [readWithin] at h
    obtain ⟨id, d₁, hid, h⟩ := runOn_bind_ok.1 h
    obtain ⟨hlt, he⟩ := runOn_number_ok hid
    cases ht : c.typeFor k id with
    | error f =>
      rw [ht] at h
      exact (runOn_throw_ok h).elim
    | ok t =>
      rw [ht] at h
      obtain ⟨vs, b, rfl, hb, he'⟩ := RecordType.read_canonical ih h
      obtain ⟨ht, hk⟩ := typeFor_eq_ok.1 ht
      exact ⟨_, Value.write_interface_eq_ok.2 ⟨t, vs, id, b, rfl, ht, hk, hlt, hb, rfl⟩,
        by rw [he, he', List.append_assoc]⟩

lemma readTagged_canonical (k : Kind) : (c.readTagged k).Canonical (Value.write (some c) (.interface k)) := by
  intro d d' v h
  rw [readTagged] at h
  obtain ⟨_, _, hg, h⟩ := runOn_bind_ok.1 h
  obtain ⟨rfl, rfl⟩ := by simpa using (runOn_get d).symm.trans hg
  exact readWithin_canonical _ k _ _ _ h

lemma readSigned_canonical {d d' : Cursor} {unsigned : Value} {creds : List Value}
    (h : c.readSigned.runOn d = (.ok (unsigned, creds), d')) :
    ∃ b b', c.writeTagged .unsignedTx unsigned = .ok b ∧ c.writeCredentials creds = .ok b' ∧
      d.rest = b ++ b' ++ d'.rest := by
  rw [readSigned] at h
  obtain ⟨u, d₁, hu, h⟩ := runOn_bind_ok.1 h
  obtain ⟨n, d₂, hl, h⟩ := runOn_bind_ok.1 h
  obtain ⟨vs, d₃, hvs, h⟩ := runOn_bind_ok.1 h
  obtain ⟨hp, rfl⟩ := runOn_pure_ok h
  obtain ⟨rfl, rfl⟩ := Prod.mk.inj hp
  obtain ⟨b, hb, he⟩ := readTagged_canonical .unsignedTx _ _ _ hu
  obtain ⟨hm, _, he₁⟩ := runOn_length_ok hl
  obtain ⟨rfl, b', hb', he₂⟩ := many_canonical (readTagged_canonical .credential) hvs
  refine ⟨b, _, hb, bind_eq_ok.2 ⟨_, writeLength_natCast.2 ⟨hm, rfl⟩, bind_eq_ok.2 ⟨b', hb', rfl⟩⟩, ?_⟩
  rw [he, he₁, he₂]
  simp only [List.append_assoc]

end Codec

/-! ### Whole messages -/

lemma Reader.value_message_ok {α : Type} {body : Reader α} {data : Bytes} {x : α}
    (h : (message body).value data = .ok x) :
    ∃ d d', body.runOn d = (.ok x, d') ∧ data = versionBytes ++ d.rest ∧ d'.rest = [] := by
  obtain ⟨d, h⟩ : ∃ d, (message body).runOn (.start data) = (.ok x, d) := ⟨_, Prod.ext h rfl⟩
  rw [message] at h
  obtain ⟨n, d₁, hn, h⟩ := runOn_bind_ok.1 h
  obtain ⟨_, hv⟩ := runOn_number_ok hn
  by_cases he : n ≠ version
  · rw [if_pos he] at h
    obtain ⟨_, _, h, _⟩ := runOn_bind_ok.1 h
    exact (runOn_throw_ok h).elim
  · obtain rfl := not_not.1 he
    rw [if_neg he] at h
    obtain ⟨y, d₂, hy, h⟩ := runOn_bind_ok.1 h
    obtain ⟨_, d₃, hf, h⟩ := runOn_bind_ok.1 h
    obtain ⟨rfl, rfl⟩ := runOn_pure_ok h
    exact ⟨d₁, d₂, hy, hv, runOn_finish_ok hf⟩

namespace Codec

lemma unmarshal_canonical {data : Bytes} {k : Kind} {v : Value} (h : c.unmarshal data k = .ok v) :
    c.marshal v k = .ok data := by
  obtain ⟨d, d', hr, rfl, hd⟩ := value_message_ok h
  obtain ⟨b, hb, he⟩ := readTagged_canonical k _ _ _ hr
  rw [he, hd, List.append_nil]
  exact bind_eq_ok.2 ⟨b, hb, rfl⟩

lemma unmarshalStruct_canonical {data : Bytes} {t : RecordType} {v : Value} (h : c.unmarshalStruct data t = .ok v) :
    v.type? = some t ∧ c.marshalStruct v = .ok data := by
  obtain ⟨d, d', hr, rfl, hd⟩ := value_message_ok h
  obtain ⟨vs, b, rfl, hb, he⟩ := RecordType.read_canonical readTagged_canonical hr
  rw [he, hd, List.append_nil]
  exact ⟨rfl, bind_eq_ok.2 ⟨b, hb, rfl⟩⟩

lemma unmarshalSigned_canonical {data : Bytes} {unsigned : Value} {creds : List Value}
    (h : c.unmarshalSigned data = .ok (unsigned, creds)) :
    c.marshalSigned unsigned creds = .ok data ∧
      ∃ front, c.marshal unsigned .unsignedTx = .ok front ∧ front <+: data := by
  obtain ⟨d, d', hr, rfl, hd⟩ := value_message_ok h
  obtain ⟨b, b', hb, hb', he⟩ := readSigned_canonical hr
  rw [he, hd, List.append_nil, ← List.append_assoc]
  exact ⟨bind_eq_ok.2 ⟨b, hb, bind_eq_ok.2 ⟨b', hb', rfl⟩⟩,
    versionBytes ++ b, bind_eq_ok.2 ⟨b, hb, rfl⟩, List.prefix_append _ _⟩

lemma marshal_kind {k k' : Kind} {v : Value} {data data' : Bytes} (h : c.marshal v k = .ok data)
    (h' : c.marshal v k' = .ok data') : data = data' := by
  obtain ⟨b, hb, he⟩ := bind_eq_ok.1 h
  obtain ⟨b', hb', he'⟩ := bind_eq_ok.1 h'
  obtain ⟨t, vs, id, f, rfl, ht, _, _, hf, rfl⟩ := Value.write_interface_eq_ok.1 hb
  obtain ⟨_, _, id', f', ⟨⟩, ht', _, _, hf', rfl⟩ := Value.write_interface_eq_ok.1 hb'
  obtain rfl := Except.ok.inj (hf.symm.trans hf')
  obtain rfl := Option.some.inj ((typeId?_eq_some.2 ht).symm.trans (typeId?_eq_some.2 ht'))
  exact Except.ok.inj (he.symm.trans he')

end Codec

end Countersign.Wire

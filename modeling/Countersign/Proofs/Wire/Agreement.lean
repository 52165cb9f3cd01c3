import Countersign.Proofs.Wire.Truncation

/-! Two codecs on one value, and on the same bytes. A codec matters for what is written only where values are in
interface fields, and for what is read only where such fields ask for values. -/

namespace Countersign.Wire

mutual

def Layout.asks : Layout → List Kind
  | .scalar _ => []
  | .slice l => l.asks
  | .struct t => t.asks
  | .interface k => [k]
termination_by structural l => l

def RecordType.asks : RecordType → List Kind
  | ⟨_, _, _, fs⟩ => fieldsAsk fs
termination_by structural t => t

def fieldsAsk : List (String × Layout) → List Kind
  | [] => []
  | (_, l) :: fs => l.asks ++ fieldsAsk fs
termination_by structural fs => fs

end

mutual

def Layout.held : Layout → Value → List (Kind × Value)
  | .slice l, .list vs => vs.flatMap l.held
  | .struct t, .record _ vs => t.held vs
  | .interface k, v => [(k, v)]
  | _, _ => []
termination_by structural l => l

def RecordType.held : RecordType → List Value → List (Kind × Value)
  | ⟨_, _, _, fs⟩, vs => fieldsHold fs vs
termination_by structural t => t

def fieldsHold : List (String × Layout) → List Value → List (Kind × Value)
  | (_, l) :: fs, v :: vs => l.held v ++ fieldsHold fs vs
  | _, _ => []
termination_by structural fs => fs

end

def Value.held : Value → List (Kind × Value)
  | record t vs => t.held vs
  | _ => []

lemma RecordType.asks_eq (t : RecordType) : t.asks = fieldsAsk t.fields := by
  cases t
  rw [RecordType.asks]

lemma RecordType.held_eq (t : RecordType) (vs : List Value) : t.held vs = fieldsHold t.fields vs := by
  cases t
  rw [RecordType.held]

mutual

theorem Layout.fst_mem_asks : ∀ {l : Layout} {v : Value} {p : Kind × Value}, p ∈ l.held v → p.1 ∈ l.asks
  | .scalar _, _, _, h => by
    simp [Layout.held] at h
  | .slice l, v, p, h => by
    cases v with
    | list vs =>
      rw [Layout.held, List.mem_flatMap] at h
      obtain ⟨w, _, hp⟩ := h
      rw [Layout.asks]
      exact l.fst_mem_asks hp
    | _ => simp [Layout.held] at h
  | .struct ⟨s, n, ks, fs⟩, v, p, h => by
    cases v with
    | record u vs =>
      rw [Layout.held, RecordType.held] at h
      rw [Layout.asks, RecordType.asks]
      exact fst_mem_fieldsAsk h
    | _ => simp [Layout.held] at h
  | .interface k, v, p, h => by
    rw [Layout.held, List.mem_singleton] at h
    rw [h, Layout.asks]
    exact List.mem_singleton_self k

theorem fst_mem_fieldsAsk : ∀ {fs : List (String × Layout)} {vs : List Value} {p : Kind × Value},
    p ∈ fieldsHold fs vs → p.1 ∈ fieldsAsk fs
  | [], vs, p, h => by
    simp [fieldsHold] at h
  | (_, l) :: fs, [], p, h => by
    simp [fieldsHold] at h
  | (_, l) :: fs, v :: vs, p, h => by
    rw [fieldsHold, List.mem_append] at h
    rw [fieldsAsk, List.mem_append]
    exact h.imp l.fst_mem_asks fst_mem_fieldsAsk

end

variable {c c' : Codec} {l : Layout} {t : RecordType} {v : Value} {vs : List Value} {b : Bytes} {ks : List Kind}

/-! ### Writing -/

def Codec.Passes (c c' : Codec) (p : Kind × Value) : Prop :=
  ∀ b, c.writeTagged p.1 p.2 = .ok b → c'.writeTagged p.1 p.2 = .ok b

namespace Value

lemma writeAll_mono (h : ∀ v ∈ vs, ∀ b, v.write (some c) l = .ok b → v.write (some c') l = .ok b)
    (hb : writeAll (some c) l vs = .ok b) : writeAll (some c') l vs = .ok b := by
  induction vs generalizing b with
  | nil => exact writeAll_nil_eq_ok.2 (writeAll_nil_eq_ok.1 hb)
  | cons v vs ih =>
    rw [List.forall_mem_cons] at h
    obtain ⟨b₁, b₂, h₁, h₂, rfl⟩ := writeAll_cons_eq_ok.1 hb
    exact writeAll_cons_eq_ok.2 ⟨b₁, b₂, h.1 b₁ h₁, ih h.2 h₂, rfl⟩

end Value

mutual

theorem Layout.write_mono : ∀ {l : Layout} {v : Value} {b : Bytes}, (∀ p ∈ l.held v, c.Passes c' p) →
    v.write (some c) l = .ok b → v.write (some c') l = .ok b
  | .scalar f, v, b, _, hb => Value.write_scalar_eq_ok.2 (Value.write_scalar_eq_ok.1 hb)
  | .slice l, v, b, h, hb => by
    obtain ⟨vs, b', rfl, hm, hvs, rfl⟩ := Value.write_slice_eq_ok.1 hb
    have hmono : ∀ v ∈ vs, ∀ b, v.write (some c) l = .ok b → v.write (some c') l = .ok b := by
      intro v hv b hb
      refine l.write_mono (fun p hp => h p ?_) hb
      rw [Layout.held]
      exact List.mem_flatMap.2 ⟨v, hv, hp⟩
    exact Value.write_slice_eq_ok.2 ⟨vs, b', rfl, hm, Value.writeAll_mono hmono hvs, rfl⟩
  | .struct ⟨s, n, ks, fs⟩, v, b, h, hb => by
    obtain ⟨vs, rfl, hf⟩ := Value.write_struct_eq_ok.1 hb
    rw [Layout.held, RecordType.held] at h
    exact Value.write_struct_eq_ok.2 ⟨vs, rfl, writeFields_mono h hf⟩
  | .interface k, v, b, h, hb => by
    rw [Layout.held] at h
    exact h (k, v) (List.mem_singleton_self _) b hb

theorem writeFields_mono : ∀ {fs : List (String × Layout)} {vs : List Value} {b : Bytes},
    (∀ p ∈ fieldsHold fs vs, c.Passes c' p) → Value.writeFields (some c) (fs.map (·.2)) vs = .ok b →
      Value.writeFields (some c') (fs.map (·.2)) vs = .ok b
  | [], vs, b, _, hb => Value.writeFields_nil_eq_ok.2 (Value.writeFields_nil_eq_ok.1 hb)
  | (_, l) :: fs, vs, b, h, hb => by
    obtain ⟨v, vs', b₁, b₂, rfl, h₁, h₂, rfl⟩ := Value.writeFields_cons_eq_ok.1 hb
    rw [fieldsHold, List.forall_mem_append] at h
    exact Value.writeFields_cons_eq_ok.2
      ⟨v, vs', b₁, b₂, rfl, l.write_mono h.1 h₁, writeFields_mono h.2 h₂, rfl⟩

end

lemma writeFields_of_asks_eq_nil (ht : t.asks = []) (hb : Value.writeFields (some c) t.layouts vs = .ok b) :
    Value.writeFields (some c') t.layouts vs = .ok b := by
  rw [RecordType.asks_eq] at ht
  refine writeFields_mono (fun p hp => ?_) hb
  have hk := fst_mem_fieldsAsk hp
  rw [ht] at hk
  cases hk

namespace Codec

lemma passes_of_asks_eq_nil (ht : t.asks = []) (hid : c.typeId? t = c'.typeId? t) (k : Kind) (vs : List Value) :
    c.Passes c' (k, .record t vs) := by
  intro b hb
  obtain ⟨_, _, id, b', ⟨⟩, hat, hk, hlt, hf, rfl⟩ := Value.write_interface_eq_ok.1 hb
  have hat' : c'.typeAt? id = some t := typeId?_eq_some.1 (hid ▸ typeId?_eq_some.2 hat)
  exact Value.write_interface_eq_ok.2 ⟨t, vs, id, b', rfl, hat', hk, hlt, writeFields_of_asks_eq_nil ht hf, rfl⟩

lemma marshal_mono {k : Kind} {data : Bytes} (h : c.Passes c' (k, v)) (hd : c.marshal v k = .ok data) :
    c'.marshal v k = .ok data := by
  obtain ⟨b, hb, hd⟩ := bind_eq_ok.1 hd
  exact bind_eq_ok.2 ⟨b, h b hb, hd⟩

lemma marshalStruct_mono {data : Bytes} (h : ∀ p ∈ v.held, c.Passes c' p) (hd : c.marshalStruct v = .ok data) :
    c'.marshalStruct v = .ok data := by
  cases v with
  | record t vs =>
    obtain ⟨b, hb, hd⟩ := bind_eq_ok.1 hd
    rw [Value.held, RecordType.held_eq] at h
    exact bind_eq_ok.2 ⟨b, writeFields_mono h hb, hd⟩
  | _ => cases hd

end Codec

/-! ### Reading -/

namespace Reader

variable {α β : Type} {r r' : Reader α} {f f' : α → Reader β}

structure Agrees (r r' : Reader α) : Prop where
  unique : ∀ {c x x' d d'}, r.runOn c = (.ok x, d) → r'.runOn c = (.ok x', d') → x = x' ∧ d = d'

namespace Agrees

protected lemma refl (r : Reader α) : r.Agrees r where
  unique h h' := by
    rw [h] at h'
    cases h'
    exact ⟨rfl, rfl⟩

protected lemma throw_left (e : Fault) : (throw e : Reader α).Agrees r' where
  unique h _ := (runOn_throw_ok h).elim

protected lemma throw_right (e : Fault) : r.Agrees (throw e) where
  unique _ h' := (runOn_throw_ok h').elim

protected lemma bind (h : r.Agrees r') (hf : ∀ x, (f x).Agrees (f' x)) : (r >>= f).Agrees (r' >>= f') where
  unique hy hy' := by
    obtain ⟨x, d, hx, hy⟩ := runOn_bind_ok.1 hy
    obtain ⟨x', d', hx', hy'⟩ := runOn_bind_ok.1 hy'
    obtain ⟨rfl, rfl⟩ := h.unique hx hx'
    exact (hf x).unique hy hy'

protected lemma many (h : r.Agrees r') (n : Nat) : (many r n).Agrees (many r' n) := by
  induction n with
  | zero => exact .refl _
  | succ n ih => exact .bind h fun _ => .bind ih fun _ => .refl _

end Agrees

end Reader

open Reader

variable {nested nested' : Kind → Reader Value}

mutual

theorem Layout.read_agrees : ∀ {l : Layout}, (∀ k ∈ l.asks, (nested k).Agrees (nested' k)) →
    (l.read nested).Agrees (l.read nested')
  | .scalar f, _ => by
    rw [Layout.read, Layout.read]
    exact .refl _
  | .slice l, h => by
    rw [Layout.asks] at h
    rw [Layout.read, Layout.read]
    exact .bind (.refl _) fun n => .bind (.many (l.read_agrees h) n) fun _ => .refl _
  | .struct ⟨s, n, ks, fs⟩, h => by
    rw [Layout.asks, RecordType.asks] at h
    rw [Layout.read, Layout.read, RecordType.read, RecordType.read]
    exact .bind (readFields_agrees h) fun _ => .refl _
  | .interface k, h => by
    rw [Layout.asks] at h
    rw [Layout.read, Layout.read]
    exact h k (List.mem_singleton_self k)

theorem readFields_agrees : ∀ {fs : List (String × Layout)}, (∀ k ∈ fieldsAsk fs, (nested k).Agrees (nested' k)) →
    (readFields nested fs).Agrees (readFields nested' fs)
  | [], _ => by
    rw [readFields, readFields]
    exact .refl _
  | (_, l) :: fs, h => by
    rw [fieldsAsk, List.forall_mem_append] at h
    rw [readFields, readFields]
    exact .bind (l.read_agrees h.1) fun _ => .bind (readFields_agrees h.2) fun _ => .refl _

end

lemma RecordType.read_agrees (h : ∀ k ∈ t.asks, (nested k).Agrees (nested' k)) :
    (t.read nested).Agrees (t.read nested') := by
  rw [RecordType.asks_eq] at h
  rw [read_eq, read_eq]
  exact .bind (readFields_agrees h) fun _ => .refl _

namespace Codec

structure Compatible (c c' : Codec) (ks : List Kind) : Prop where
  same : ∀ k ∈ ks, ∀ id t u, c.typeFor k id = .ok t → c'.typeFor k id = .ok u → t = u
  closed : ∀ k ∈ ks, ∀ id t, c.typeFor k id = .ok t → ∀ k ∈ t.asks, k ∈ ks

variable {k : Kind}

lemma readWithin_agrees (h : c.Compatible c' ks) (depth : Nat) (hk : k ∈ ks) :
    (c.readWithin depth k).Agrees (c'.readWithin depth k) := by
  induction depth generalizing k with
  | zero => exact .refl _
  | succ depth ih =>
    rw [readWithin, readWithin]
    refine .bind (.refl _) fun id => ?_
    cases ht : c.typeFor k id with
    | error f => exact .throw_left f
    | ok t =>
      cases hu : c'.typeFor k id with
      | error f => exact .throw_right f
      | ok u =>
        obtain rfl := h.same k hk id t u ht hu
        exact t.read_agrees fun j hj => ih (h.closed k hk id t ht j hj)

lemma readTagged_agrees (h : c.Compatible c' ks) (hk : k ∈ ks) : (c.readTagged k).Agrees (c'.readTagged k) :=
  .bind (.refl _) fun here => readWithin_agrees h here.remaining hk

lemma eq_of_unmarshalStruct {data : Bytes} {w : Value} (h : c.Compatible c' ks) (ht : ∀ k ∈ t.asks, k ∈ ks)
    (hv : c.unmarshalStruct data t = .ok v) (hw : c'.unmarshalStruct data t = .ok w) : v = w := by
  have hr : (t.read c.readTagged).Agrees (t.read c'.readTagged) :=
    t.read_agrees fun k hk => readTagged_agrees h (ht k hk)
  obtain ⟨b, _, rfl, hb⟩ := value_message_eq_ok.1 hv
  obtain ⟨b', _, he, hb'⟩ := value_message_eq_ok.1 hw
  obtain rfl := List.append_cancel_left he
  exact (hr.unique hb hb').1

end Codec

end Countersign.Wire

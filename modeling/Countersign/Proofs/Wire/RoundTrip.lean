import Countersign.Chain.Catalogue
import Countersign.Proofs.Wire.Canonical

/-! Decoding undoes encoding wherever the elements of lists take space. A length is refused if it is beyond
the bytes that are left, so the elements that follow it have to take a byte each. -/

namespace Countersign.Wire

open Reader

mutual

/-- Nothing but empty byte strings and records of such fields: written in no bytes at all. -/
def Layout.weightless : Layout → Bool
  | .scalar (.fixed size) => size == 0
  | .struct t => t.weightless
  | _ => false
termination_by structural l => l

def RecordType.weightless : RecordType → Bool
  | ⟨_, _, _, fs⟩ => weightlessFields fs
termination_by structural t => t

def weightlessFields : List (String × Layout) → Bool
  | [] => true
  | (_, l) :: fs => l.weightless && weightlessFields fs
termination_by structural fs => fs

end

mutual

def Layout.spacious : Layout → Bool
  | .slice l => !l.weightless && l.spacious
  | .struct t => t.spacious
  | _ => true
termination_by structural l => l

def RecordType.spacious : RecordType → Bool
  | ⟨_, _, _, fs⟩ => spaciousFields fs
termination_by structural t => t

def spaciousFields : List (String × Layout) → Bool
  | [] => true
  | (_, l) :: fs => l.spacious && spaciousFields fs
termination_by structural fs => fs

end

def Codec.spacious (c : Codec) : Bool := c.types.all (·.spacious)

lemma RecordType.spacious_eq (t : RecordType) : t.spacious = spaciousFields t.fields := by
  cases t
  rw [RecordType.spacious]

variable {c : Codec} {l : Layout} {v : Value} {vs : List Value} {b : Bytes}

/-! ### The space that values take -/

lemma Form.length_write_pos {f : Form} {s : Scalar} (hf : f ≠ .fixed 0) (h : f.write s = .ok b) : 0 < b.length := by
  cases f with
  | uint w =>
    cases s with
    | int n =>
      rw [length_of_writeNumber h]
      cases w <;> decide
    | _ => cases h
  | bool =>
    cases s with
    | bool x =>
      rw [length_of_writeNumber h]
      exact Nat.one_pos
    | _ => cases h
  | text =>
    cases s with
    | text x =>
      obtain ⟨_, hn, hb⟩ := bind_eq_ok.1 h
      rw [← pure_eq_ok.1 hb, List.length_append, length_of_writeNumber hn]
      omega
    | _ => cases h
  | bytes =>
    cases s with
    | bytes x =>
      obtain ⟨_, hn, hb⟩ := bind_eq_ok.1 h
      rw [← pure_eq_ok.1 hb, List.length_append, ← (writeLength_natCast.1 hn).2, Bytes.length_ofNat]
      omega
    | _ => cases h
  | fixed size =>
    cases s with
    | bytes x =>
      rw [write] at h
      split at h
      · rename_i hs
        obtain rfl := Except.ok.inj h
        exact Nat.pos_of_ne_zero fun hz => hf (by rw [← hs, hz])
      · cases h
    | _ => cases h

mutual

theorem Layout.length_write_pos : ∀ {l : Layout} {v : Value} {b : Bytes},
    l.weightless = false → v.write (some c) l = .ok b → 0 < b.length
  | .scalar f, v, b, hw, h => by
    obtain ⟨s, rfl, hs⟩ := Value.write_scalar_eq_ok.1 h
    refine f.length_write_pos ?_ hs
    rintro rfl
    simp [Layout.weightless] at hw
  | .slice l, v, b, _, h => by
    obtain ⟨vs, b', rfl, _, _, rfl⟩ := Value.write_slice_eq_ok.1 h
    rw [List.length_append, Bytes.length_ofNat]
    omega
  | .struct ⟨s, n, ks, fs⟩, v, b, hw, h => by
    obtain ⟨vs, rfl, hf⟩ := Value.write_struct_eq_ok.1 h
    rw [Layout.weightless, RecordType.weightless] at hw
    exact length_writeFields_pos hw hf
  | .interface k, v, b, _, h => by
    obtain ⟨t, vs, id, b', rfl, _, _, _, _, rfl⟩ := Value.write_interface_eq_ok.1 h
    rw [List.length_append, Bytes.length_ofNat]
    omega

theorem length_writeFields_pos : ∀ {fs : List (String × Layout)} {vs : List Value} {b : Bytes},
    weightlessFields fs = false → Value.writeFields (some c) (fs.map (·.2)) vs = .ok b → 0 < b.length
  | [], vs, b, hw, _ => by simp [weightlessFields] at hw
  | (_, l) :: fs, vs, b, hw, h => by
    obtain ⟨v, vs', b₁, b₂, rfl, h₁, h₂, rfl⟩ := Value.writeFields_cons_eq_ok.1 h
    rw [weightlessFields, Bool.and_eq_false_iff] at hw
    rw [List.length_append]
    rcases hw with hw | hw
    · have := l.length_write_pos hw h₁
      omega
    · have := length_writeFields_pos hw h₂
      omega

end

mutual

theorem Layout.write_weightless : ∀ {l : Layout} {v : Value} {b : Bytes},
    l.weightless = true → (v.write (some c) l = .ok b ↔ v = l.default ∧ b = [])
  | .scalar (.fixed 0), v, b, _ => by
    rw [Value.write_scalar_eq_ok, Layout.default]
    constructor
    · rintro ⟨s, rfl, hs⟩
      cases s with
      | bytes x =>
        rw [Form.write] at hs
        split at hs
        · rename_i hx
          obtain rfl := List.length_eq_zero_iff.1 hx
          exact ⟨rfl, (Except.ok.inj hs).symm⟩
        · cases hs
      | _ => cases hs
    · rintro ⟨rfl, rfl⟩
      exact ⟨_, rfl, rfl⟩
  | .struct ⟨s, n, ks, fs⟩, v, b, hw => by
    rw [Layout.weightless, RecordType.weightless] at hw
    rw [Value.write_struct_eq_ok, Layout.default, RecordType.default]
    constructor
    · rintro ⟨vs, rfl, h⟩
      obtain ⟨rfl, rfl⟩ := (writeFields_weightless hw).1 h
      exact ⟨rfl, rfl⟩
    · rintro ⟨rfl, rfl⟩
      exact ⟨_, rfl, (writeFields_weightless hw).2 ⟨rfl, rfl⟩⟩

theorem writeFields_weightless : ∀ {fs : List (String × Layout)} {vs : List Value} {b : Bytes},
    weightlessFields fs = true → (Value.writeFields (some c) (fs.map (·.2)) vs = .ok b ↔ vs = defaults fs ∧ b = [])
  | [], vs, b, _ => Value.writeFields_nil_eq_ok
  | (_, l) :: fs, vs, b, hw => by
    rw [weightlessFields, Bool.and_eq_true] at hw
    rw [List.map_cons, Value.writeFields_cons_eq_ok, defaults]
    constructor
    · rintro ⟨v, vs', b₁, b₂, rfl, h₁, h₂, rfl⟩
      obtain ⟨rfl, rfl⟩ := (l.write_weightless hw.1).1 h₁
      obtain ⟨rfl, rfl⟩ := (writeFields_weightless hw.2).1 h₂
      exact ⟨rfl, rfl⟩
    · rintro ⟨rfl, rfl⟩
      exact ⟨_, _, [], [], rfl, (l.write_weightless hw.1).2 ⟨rfl, rfl⟩, (writeFields_weightless hw.2).2 ⟨rfl, rfl⟩, rfl⟩

end

lemma Layout.weightless_iff (h : v.write (some c) l = .ok b) : l.weightless = true ↔ b = [] := by
  constructor
  · intro hw
    exact ((l.write_weightless hw).1 h).2
  · rintro rfl
    by_contra hw
    exact absurd (l.length_write_pos (Bool.not_eq_true _ ▸ hw) h) (Nat.lt_irrefl 0)

lemma writeAll_weightless (hw : l.weightless = true) :
    Value.writeAll (some c) l vs = .ok b ↔ (∀ v ∈ vs, v = l.default) ∧ b = [] := by
  induction vs generalizing b with
  | nil => simp [Value.writeAll_nil_eq_ok]
  | cons v vs ih =>
    simp only [Value.writeAll_cons_eq_ok, Layout.write_weightless hw, ih, List.forall_mem_cons]
    constructor
    · rintro ⟨_, _, ⟨hv, rfl⟩, ⟨hvs, rfl⟩, rfl⟩
      exact ⟨⟨hv, hvs⟩, rfl⟩
    · rintro ⟨⟨hv, hvs⟩, rfl⟩
      exact ⟨[], [], ⟨hv, rfl⟩, ⟨hvs, rfl⟩, rfl⟩

lemma length_writeAll (hl : l.weightless = false) (h : Value.writeAll (some c) l vs = .ok b) :
    vs.length ≤ b.length := by
  induction vs generalizing b with
  | nil => exact Nat.zero_le _
  | cons v vs ih =>
    obtain ⟨b₁, b₂, h₁, h₂, rfl⟩ := Value.writeAll_cons_eq_ok.1 h
    have hp := Layout.length_write_pos hl h₁
    have ht := ih h₂
    rw [List.length_append, List.length_cons]
    omega

/-! ### Reading back -/

variable {nested : Kind → Reader Value} {bound : Nat}

def ReadsBack (c : Codec) (nested : Kind → Reader Value) (bound : Nat) : Prop :=
  ∀ k v b, b.length ≤ bound → v.write (some c) (.interface k) = .ok b → (nested k).Reads b v

lemma Reader.Reads.many {r : Reader Value}
    (hr : ∀ v b, b.length ≤ bound → v.write (some c) l = .ok b → r.Reads b v) (hb : b.length ≤ bound)
    (h : Value.writeAll (some c) l vs = .ok b) : (many r vs.length).Reads b vs := by
  induction vs generalizing b with
  | nil =>
    obtain rfl := Value.writeAll_nil_eq_ok.1 h
    exact .pure []
  | cons v vs ih =>
    obtain ⟨b₁, b₂, h₁, h₂, rfl⟩ := Value.writeAll_cons_eq_ok.1 h
    rw [List.length_append] at hb
    rw [List.length_cons, Reader.many]
    exact (hr v b₁ (by omega) h₁).bind ((ih (by omega) h₂).last (.pure _))

mutual

theorem Layout.read_reads (hn : ReadsBack c nested bound) : ∀ {l : Layout} {v : Value} {b : Bytes},
    l.spacious = true → b.length ≤ bound → v.write (some c) l = .ok b → (l.read nested).Reads b v
  | .scalar f, v, b, _, _, h => by
    obtain ⟨s, rfl, hs⟩ := Value.write_scalar_eq_ok.1 h
    rw [Layout.read]
    exact (f.read_reads hs).last (.pure _)
  | .slice l, v, b, hl, hb, h => by
    obtain ⟨vs, b', rfl, hm, hvs, rfl⟩ := Value.write_slice_eq_ok.1 h
    rw [Layout.spacious, Bool.and_eq_true, Bool.not_eq_true'] at hl
    rw [List.length_append] at hb
    have hr : (Reader.many (l.read nested) vs.length).Reads b' vs :=
      .many (fun v b hb h => l.read_reads hn hl.2 hb h) (by omega) hvs
    rw [Layout.read]
    exact .length_bind hm (length_writeAll hl.1 hvs) (hr.last (.pure _))
  | .struct ⟨s, n, ks, fs⟩, v, b, hl, hb, h => by
    obtain ⟨vs, rfl, hf⟩ := Value.write_struct_eq_ok.1 h
    rw [Layout.spacious, RecordType.spacious] at hl
    rw [Layout.read, RecordType.read]
    exact (readFields_reads hn hl hb hf).last (.pure _)
  | .interface k, v, b, _, hb, h => by
    rw [Layout.read]
    exact hn k v b hb h

theorem readFields_reads (hn : ReadsBack c nested bound) :
    ∀ {fs : List (String × Layout)} {vs : List Value} {b : Bytes},
    spaciousFields fs = true → b.length ≤ bound → Value.writeFields (some c) (fs.map (·.2)) vs = .ok b →
      (readFields nested fs).Reads b vs
  | [], vs, b, _, _, h => by
    obtain ⟨rfl, rfl⟩ := Value.writeFields_nil_eq_ok.1 h
    rw [readFields]
    exact .pure []
  | (_, l) :: fs, vs, b, hl, hb, h => by
    obtain ⟨v, vs', b₁, b₂, rfl, h₁, h₂, rfl⟩ := Value.writeFields_cons_eq_ok.1 h
    rw [spaciousFields, Bool.and_eq_true] at hl
    rw [List.length_append] at hb
    rw [readFields]
    exact (l.read_reads hn hl.1 (by omega) h₁).bind ((readFields_reads hn hl.2 (by omega) h₂).last (.pure _))

end

lemma RecordType.read_reads (hn : ReadsBack c nested bound) {t : RecordType} (ht : t.spacious = true)
    (hb : b.length ≤ bound) (h : Value.writeFields (some c) t.layouts vs = .ok b) :
    (t.read nested).Reads b (.record t vs) := by
  rw [RecordType.spacious_eq] at ht
  rw [RecordType.read_eq]
  exact (readFields_reads hn ht hb h).last (.pure _)

namespace Codec

lemma readWithin_reads (hc : c.spacious = true) (depth : Nat) : ReadsBack c (c.readWithin depth) depth := by
  induction depth with
  | zero =>
    intro k v b hb h
    have := Layout.length_write_pos (l := .interface k) rfl h
    omega
  | succ depth ih =>
    intro k v b hb h
    obtain ⟨t, vs, id, b', rfl, ht, hk, hlt, hf, rfl⟩ := Value.write_interface_eq_ok.1 h
    rw [List.length_append, Bytes.length_ofNat] at hb
    have hs : t.spacious = true := List.all_eq_true.1 hc t (mem_types ht)
    rw [readWithin]
    refine (Reads.number hlt).bind ?_
    rw [typeFor_eq_ok.2 ⟨ht, hk⟩]
    exact RecordType.read_reads ih hs (by omega) hf

lemma readTagged_reads (hc : c.spacious = true) (bound : Nat) : ReadsBack c c.readTagged bound := by
  intro k v b _ h offset rest
  rw [readTagged, runOn_bind, runOn_get]
  exact readWithin_reads hc _ k v b (by simp [Cursor.remaining]) h offset rest

lemma readSigned_reads (hc : c.spacious = true) {unsigned : Value} {creds : List Value} {b b' : Bytes}
    (hu : c.writeTagged .unsignedTx unsigned = .ok b) (h : c.writeCredentials creds = .ok b') :
    c.readSigned.Reads (b ++ b') (unsigned, creds) := by
  obtain ⟨_, hl, h⟩ := bind_eq_ok.1 h
  obtain ⟨d, hd, h⟩ := bind_eq_ok.1 h
  obtain ⟨hm, rfl⟩ := writeLength_natCast.1 hl
  obtain rfl := pure_eq_ok.1 h
  rw [readSigned]
  refine (readTagged_reads hc _ _ _ _ (Nat.le_refl _) hu).bind ?_
  have hr : (Reader.many (c.readTagged .credential) creds.length).Reads d creds :=
    .many (fun v b hb h => readTagged_reads hc _ .credential v b hb h) (Nat.le_refl _) hd
  exact .length_bind hm (length_writeAll (l := .interface .credential) rfl hd) (hr.last (.pure _))

end Codec

/-! ### Whole messages -/

lemma Reader.Reads.value_message {α : Type} {body : Reader α} {x : α} (h : body.Reads b x) :
    (message body).value (versionBytes ++ b) = .ok x := by
  have hv : (Reader.number 2).Reads versionBytes version := .number (by decide)
  have hn := hv 0 b
  have hb := h (0 + versionBytes.length) []
  rw [List.append_nil] at hb
  rw [Reader.value, Cursor.start, message]
  simp only [runOn_bind, hn, hb, ne_eq, not_true_eq_false, if_false]
  rfl

namespace Codec

lemma unmarshal_marshal (hc : c.spacious = true) {k : Kind} {data : Bytes} (h : c.marshal v k = .ok data) :
    c.unmarshal data k = .ok v := by
  obtain ⟨b, hb, h⟩ := bind_eq_ok.1 h
  obtain rfl := pure_eq_ok.1 h
  exact (readTagged_reads hc _ k v b (Nat.le_refl _) hb).value_message

lemma unmarshalStruct_marshalStruct (hc : c.spacious = true) {t : RecordType} (ht : t.spacious = true) {data : Bytes}
    (h : c.marshalStruct (.record t vs) = .ok data) : c.unmarshalStruct data t = .ok (.record t vs) := by
  obtain ⟨b, hb, h⟩ := bind_eq_ok.1 h
  obtain rfl := pure_eq_ok.1 h
  exact (RecordType.read_reads (readTagged_reads hc _) ht (Nat.le_refl _) hb).value_message

lemma unmarshalSigned_marshalSigned (hc : c.spacious = true) {unsigned : Value} {creds : List Value} {data : Bytes}
    (h : c.marshalSigned unsigned creds = .ok data) : c.unmarshalSigned data = .ok (unsigned, creds) := by
  obtain ⟨b, hb, h⟩ := bind_eq_ok.1 h
  obtain ⟨b', hb', h⟩ := bind_eq_ok.1 h
  obtain rfl := pure_eq_ok.1 h
  rw [List.append_assoc]
  exact (readSigned_reads hc hb hb').value_message

lemma marshalStruct_record {t : RecordType} {data : Bytes} : c.marshalStruct (.record t vs) = .ok data ↔
    ∃ b, Value.writeFields (some c) t.layouts vs = .ok b ∧ versionBytes ++ b = data := by
  have h : c.marshalStruct (.record t vs) = do
      return versionBytes ++ (← Value.writeFields (some c) t.layouts vs) := rfl
  simp only [h, bind_eq_ok, pure_eq_ok]

lemma marshalStruct_weightless {t : RecordType} {name : String} (ht : t.fields = [(name, .slice l)])
    (hw : l.weightless = true) {data : Bytes} : c.marshalStruct (.record t [.list vs]) = .ok data ↔
      (∀ v ∈ vs, v = l.default) ∧ vs.length ≤ maxLength ∧ versionBytes ++ Bytes.ofNat 4 vs.length = data := by
  have hl : t.layouts = [.slice l] := by rw [RecordType.layouts, ht]; rfl
  simp only [marshalStruct_record, hl, Value.writeFields_cons_eq_ok, Value.writeFields_nil_eq_ok,
    Value.write_slice_eq_ok, writeAll_weightless hw]
  constructor
  · rintro ⟨_, ⟨_, _, _, _, ⟨⟩, ⟨_, _, ⟨⟩, hm, ⟨hv, rfl⟩, rfl⟩, ⟨-, rfl⟩, rfl⟩, rfl⟩
    exact ⟨hv, hm, by rw [List.append_nil, List.append_nil]⟩
  · rintro ⟨hv, hm, rfl⟩
    exact ⟨_, ⟨_, _, _, _, rfl, ⟨vs, [], rfl, hm, ⟨hv, rfl⟩, rfl⟩, ⟨rfl, rfl⟩, rfl⟩,
      by rw [List.append_nil, List.append_nil]⟩

lemma read_weightless {t : RecordType} {name : String} (ht : t.fields = [(name, .slice l)]) {n : Nat} (hn : 1 ≤ n)
    (hm : n ≤ maxLength) :
    (message (t.read nested)).value (versionBytes ++ Bytes.ofNat 4 n) = .error (.lengthBeyond n 0) := by
  have hv : (Reader.number 2).Reads versionBytes version := .number (by decide)
  have hc : n < Bytes.capacity 4 := Nat.lt_of_le_of_lt hm (by decide : maxLength < Bytes.capacity 4)
  have hl := Reads.number hc (0 + versionBytes.length) []
  have hv := hv 0 (Bytes.ofNat 4 n)
  have hg : maxLength < n ∨ (⟨0 + versionBytes.length + (Bytes.ofNat 4 n).length, []⟩ : Cursor).remaining < n := .inr hn
  rw [List.append_nil] at hl
  rw [Reader.value, Cursor.start, message, RecordType.read_eq, ht]
  simp only [runOn_bind, hv, ne_eq, not_true_eq_false, if_false, readFields, Layout.read, Reader.length, hl, runOn_get,
    if_pos hg, runOn_throw]
  rfl

end Codec

end Countersign.Wire

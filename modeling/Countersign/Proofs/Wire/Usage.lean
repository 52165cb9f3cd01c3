import Countersign.Proofs.Wire.Room
import Countersign.Proofs.Wire.RoundTrip

/-! Decoding undoes encoding for values that are built of what the layouts name. The writer takes more than those: records
of types that extend the type of a field, and any value for a flag. What it writes then is another value's encoding. -/

namespace Countersign.Wire

def Form.holds : Form → Scalar → Bool
  | .uint _, .int _ => true
  | .bool, .bool _ => true
  | .text, .text _ => true
  | .bytes, .bytes _ => true
  | .fixed _, .bytes _ => true
  | _, _ => false

namespace Value

mutual

/-- Built of what the layouts name. -/
def plain : Layout → Value → Bool
  | .scalar f, scalar s => f.holds s
  | .slice l, list vs => plainAll l vs
  | .struct t, record u vs => t = u && plainFields u.layouts vs
  | .interface _, record t vs => plainFields t.layouts vs
  | _, _ => false
termination_by structural _ v => v

def plainAll (l : Layout) : List Value → Bool
  | [] => true
  | v :: vs => plain l v && plainAll l vs
termination_by structural vs => vs

def plainFields : List Layout → List Value → Bool
  | [], [] => true
  | l :: ls, v :: vs => plain l v && plainFields ls vs
  | _, _ => false
termination_by structural _ vs => vs

end

variable {o : Option Codec} {extends? : RecordType → RecordType → Bool}

lemma plainAll_iff {l : Layout} {vs : List Value} : plainAll l vs = true ↔ ∀ v ∈ vs, v.plain l = true := by
  induction vs with
  | nil => simp [plainAll]
  | cons v vs ih => simp [plainAll, ih]

lemma writeScalar_plain {f : Form} {s : Scalar} (h : f.holds s = true) :
    writeScalar (.loose extends?) f (scalar s) = writeScalar .strict f (scalar s) := by
  cases f with
  | bool =>
    cases s with
    | bool b => rfl
    | _ => cases h
  | _ => simp only [writeScalar]

/-- Only the fields of a type that has a number are written. -/
lemma writeBy_interface {usage usage' : Usage} {t : RecordType} {vs : List Value} {k : Kind}
    (h : ∀ c, o = some c → t ∈ c.types → writeFieldsBy usage o t.layouts vs = writeFieldsBy usage' o t.layouts vs) :
    writeBy usage o (.interface k) (record t vs) = writeBy usage' o (.interface k) (record t vs) := by
  cases o with
  | none => rw [writeBy, writeBy]
  | some c =>
    rw [writeBy, writeBy]
    cases ht : c.tag k t with
    | error e => simp only [error_bind]
    | ok id => rw [h c rfl (Codec.mem_types (Codec.tag_eq_ok.1 ht).1)]

mutual

theorem writeBy_plain : ∀ {l : Layout} {v : Value}, v.plain l = true →
    v.writeBy (.loose extends?) o l = v.writeBy .strict o l
  | l, scalar s, h => by
    cases l with
    | scalar f =>
      rw [plain] at h
      rw [writeBy, writeBy, writeScalar_plain h]
    | _ => simp [plain] at h
  | l, list vs, h => by
    cases l with
    | slice l =>
      rw [plain] at h
      rw [writeBy, writeBy, writeAllBy_plain h]
    | _ => simp [plain] at h
  | l, record u vs, h => by
    cases l with
    | struct t =>
      rw [plain, Bool.and_eq_true, decide_eq_true_eq] at h
      obtain ⟨rfl, hvs⟩ := h
      rw [writeBy, writeBy, writeFieldsBy_plain hvs]
      simp [Usage.loose, Usage.strict]
    | interface k =>
      rw [plain] at h
      exact writeBy_interface fun _ _ _ => writeFieldsBy_plain h
    | _ => simp [plain] at h
  | l, absent, h => by cases l <;> simp [plain] at h

theorem writeAllBy_plain : ∀ {l : Layout} {vs : List Value}, plainAll l vs = true →
    writeAllBy (.loose extends?) o l vs = writeAllBy .strict o l vs
  | l, [], _ => rfl
  | l, v :: vs, h => by
    rw [plainAll, Bool.and_eq_true] at h
    rw [writeAllBy, writeAllBy, writeBy_plain h.1, writeAllBy_plain h.2]

theorem writeFieldsBy_plain : ∀ {ls : List Layout} {vs : List Value}, plainFields ls vs = true →
    writeFieldsBy (.loose extends?) o ls vs = writeFieldsBy .strict o ls vs
  | [], [], _ => rfl
  | [], v :: vs, h => by simp [plainFields] at h
  | l :: ls, [], h => by simp [plainFields] at h
  | l :: ls, v :: vs, h => by
    rw [plainFields, Bool.and_eq_true] at h
    rw [writeFieldsBy, writeFieldsBy, writeBy_plain h.1, writeFieldsBy_plain h.2]

end

end Value

namespace Codec

variable {c : Codec} {extends? : RecordType → RecordType → Bool} {l : Layout} {t : RecordType} {k : Kind} {v : Value}
  {vs : List Value} {data : Bytes}

lemma marshalBy_plain (h : v.plain (.interface k) = true) : c.marshalBy (.loose extends?) v k = c.marshal v k := by
  rw [marshal, marshalBy, marshalBy, Value.writeBy_plain h]

lemma marshalStructBy_plain (h : v.plain (.struct t) = true) :
    c.marshalStructBy (.loose extends?) v = c.marshalStruct v := by
  cases v with
  | record u vs =>
    rw [Value.plain, Bool.and_eq_true] at h
    rw [marshalStruct, marshalStructBy, marshalStructBy, Value.writeBodyBy, Value.writeBodyBy,
      Value.writeFieldsBy_plain h.2]
  | _ => simp [Value.plain] at h

lemma unmarshal_marshalBy (hc : c.spacious = true) (hv : v.plain (.interface k) = true)
    (h : c.marshalBy (.loose extends?) v k = .ok data) : c.unmarshal data k = .ok v := by
  rw [marshalBy_plain hv] at h
  exact unmarshal_marshal hc h

lemma unmarshalStruct_marshalStructBy (hc : c.spacious = true) (ht : t.spacious = true) (hv : v.plain (.struct t) = true)
    (h : c.marshalStructBy (.loose extends?) v = .ok data) : c.unmarshalStruct data t = .ok v := by
  rw [marshalStructBy_plain hv] at h
  cases v with
  | record u vs =>
    rw [Value.plain, Bool.and_eq_true, decide_eq_true_eq] at hv
    obtain ⟨rfl, -⟩ := hv
    exact unmarshalStruct_marshalStruct hc ht h
  | _ => simp [Value.plain] at hv

end Codec

/-! ### Where both usages are one -/

mutual

def Layout.flagless : Layout → Bool
  | .scalar .bool => false
  | .slice l => l.flagless
  | .struct t => t.flagless
  | _ => true
termination_by structural l => l

def RecordType.flagless : RecordType → Bool
  | ⟨_, _, _, fs⟩ => flaglessFields fs
termination_by structural t => t

def flaglessFields : List (String × Layout) → Bool
  | [] => true
  | (_, l) :: fs => l.flagless && flaglessFields fs
termination_by structural fs => fs

end

def Codec.flagless (c : Codec) : Bool := c.types.all (·.flagless)

lemma RecordType.flagless_eq (t : RecordType) : t.flagless = t.layouts.all (·.flagless) := by
  obtain ⟨s, n, ks, fs⟩ := t
  rw [RecordType.flagless, layouts]
  induction fs with
  | nil => rfl
  | cons f fs ih => rw [flaglessFields, ih, List.map_cons, List.all_cons]

namespace Value

variable {c : Codec}

lemma writeScalar_flagless {f : Form} {v : Value} (h : (Layout.scalar f).flagless = true) :
    writeScalar .closed f v = writeScalar .strict f v := by
  cases f with
  | bool => simp [Layout.flagless] at h
  | _ => cases v <;> simp only [writeScalar]

mutual

theorem writeBy_flagless (hc : c.flagless = true) : ∀ {l : Layout} (v : Value), l.flagless = true →
    v.writeBy .closed (some c) l = v.writeBy .strict (some c) l
  | .scalar f, v, h => by rw [writeBy, writeBy, writeScalar_flagless h]
  | .slice l, list vs, h => by
    rw [Layout.flagless] at h
    rw [writeBy, writeBy, writeAllBy_flagless hc vs h]
  | .struct t, record u vs, h => by
    rw [Layout.flagless, RecordType.flagless_eq] at h
    by_cases hu : t = u
    · subst hu
      rw [writeBy, writeBy, writeFieldsBy_flagless hc vs h]
      simp [Usage.closed, Usage.loose, Usage.strict]
    · simp [writeBy, Usage.closed, Usage.loose, Usage.strict, hu]
  | .interface k, record t vs, _ => by
    refine writeBy_interface fun c' hc' hmem => ?_
    obtain rfl := Option.some.inj hc'
    have ht : t.flagless = true := List.all_eq_true.1 hc t hmem
    rw [RecordType.flagless_eq] at ht
    exact writeFieldsBy_flagless hc vs ht
  | .slice l, scalar s, _ | .slice l, record t vs, _ | .slice l, absent, _ => by rw [writeBy, writeBy] <;> simp
  | .struct t, scalar s, _ | .struct t, list vs, _ | .struct t, absent, _ => by rw [writeBy, writeBy] <;> simp
  | .interface k, scalar s, _ | .interface k, list vs, _ | .interface k, absent, _ => by rw [writeBy, writeBy] <;> simp

theorem writeAllBy_flagless (hc : c.flagless = true) {l : Layout} : ∀ vs : List Value, l.flagless = true →
    writeAllBy .closed (some c) l vs = writeAllBy .strict (some c) l vs
  | [], _ => rfl
  | v :: vs, h => by rw [writeAllBy, writeAllBy, writeBy_flagless hc v h, writeAllBy_flagless hc vs h]

theorem writeFieldsBy_flagless (hc : c.flagless = true) : ∀ {ls : List Layout} (vs : List Value),
    ls.all (·.flagless) = true → writeFieldsBy .closed (some c) ls vs = writeFieldsBy .strict (some c) ls vs
  | [], [], _ => rfl
  | [], _ :: _, _ => rfl
  | _ :: _, [], _ => rfl
  | l :: ls, v :: vs, h => by
    rw [List.all_cons, Bool.and_eq_true] at h
    rw [writeFieldsBy, writeFieldsBy, writeBy_flagless hc v h.1, writeFieldsBy_flagless hc vs h.2]

end

end Value

/-! ### Reading back -/

structure Undone (l : Layout) (write : Value → Except Fault Bytes) (read : Bytes → Except Fault Value)
    (readIn : Nat → Bytes → Except Fault Value) : Prop where
  read : ∀ v data, v.plain l = true → write v = .ok data → read data = .ok v
  read_in : ∀ room v data, v.plain l = true → write v = .ok data → v.nesting l ≤ room → readIn room data = .ok v

structure Stranded (c : Codec) (extends? : RecordType → RecordType → Bool) (t : RecordType) (l : Layout)
    (vs : List Value) : Prop where
  written : (∀ v ∈ vs, v = l.default) → ∃ data, c.marshalStructBy (.loose extends?) (.record t [.list vs]) = .ok data
  only : ∀ data, (∀ v ∈ vs, v.plain l = true) → c.marshalStructBy (.loose extends?) (.record t [.list vs]) = .ok data →
    ∀ v ∈ vs, v = l.default
  refused : ∀ data, (∀ v ∈ vs, v.plain l = true) →
    c.marshalStructBy (.loose extends?) (.record t [.list vs]) = .ok data →
    c.unmarshalStruct data t = .error (.lengthBeyond vs.length 0) ∧
    ∀ room, c.unmarshalStructIn room data t = .error (.lengthBeyond vs.length 0)

variable {c : Codec} {l : Layout} {t : RecordType} {vs : List Value}

mutual

theorem Layout.plain_default : ∀ {l : Layout}, l.weightless = true → l.default.plain l = true
  | .scalar (.fixed 0), _ => by simp [Layout.default, Value.plain, Form.default, Form.holds]
  | .struct ⟨s, n, ks, fs⟩, h => by
    rw [Layout.weightless, RecordType.weightless] at h
    simp [Layout.default, RecordType.default, Value.plain, RecordType.layouts, plainFields_defaults h]

theorem plainFields_defaults : ∀ {fs : List (String × Layout)}, weightlessFields fs = true →
    Value.plainFields (fs.map (·.2)) (defaults fs) = true
  | [], _ => rfl
  | (_, l) :: fs, h => by
    rw [weightlessFields, Bool.and_eq_true] at h
    simp [defaults, Value.plainFields, Layout.plain_default h.1, plainFields_defaults h.2]

end

lemma plain_of_items {name : String} (ht : t.fields = [(name, .slice l)]) (hvs : ∀ v ∈ vs, v.plain l = true) :
    (Value.record t [.list vs]).plain (.struct t) = true := by
  have hl : t.layouts = [.slice l] := by rw [RecordType.layouts, ht]; rfl
  simp [Value.plain, hl, Value.plainFields, Value.plainAll_iff.2 hvs]

lemma marshalStructBy_items {name : String} (ht : t.fields = [(name, .slice l)]) (hvs : ∀ v ∈ vs, v.plain l = true)
    (extends? : RecordType → RecordType → Bool) :
    c.marshalStructBy (.loose extends?) (.record t [.list vs]) = c.marshalStruct (.record t [.list vs]) :=
  Codec.marshalStructBy_plain (plain_of_items ht hvs)

lemma stranded {name : String} (ht : t.fields = [(name, .slice l)]) (hw : l.weightless = true) (hn : 1 ≤ vs.length)
    (hm : vs.length ≤ maxLength) (extends? : RecordType → RecordType → Bool) : Stranded c extends? t l vs where
  written hv := by
    rw [marshalStructBy_items ht fun v h => hv v h ▸ Layout.plain_default hw]
    exact ⟨_, (Codec.marshalStruct_weightless ht hw).2 ⟨hv, hm, rfl⟩⟩
  only data hvs h := by
    rw [marshalStructBy_items ht hvs] at h
    exact ((Codec.marshalStruct_weightless ht hw).1 h).1
  refused data hvs h := by
    rw [marshalStructBy_items ht hvs] at h
    obtain ⟨_, _, rfl⟩ := (Codec.marshalStruct_weightless ht hw).1 h
    exact ⟨Codec.read_weightless ht hn hm, fun _ => Codec.read_weightless ht hn hm⟩

/-- The proviso on lists cannot be dropped: a list of one element or more that takes no space is written and
then refused. -/
theorem decoding_undoes_encoding (c : Codec) (extends? : RecordType → RecordType → Bool) :
    (∀ l v b, Value.plain l v = true → v.writeBy (.loose extends?) (some c) l = .ok b →
      (l.weightless = true ↔ b = [])) ∧
    (c.spacious = true →
      (∀ k, Undone (.interface k) (c.marshalBy (.loose extends?) · k) (c.unmarshal · k) (c.unmarshalIn · · k)) ∧
      ∀ t : RecordType, t.spacious = true →
        Undone (.struct t) (c.marshalStructBy (.loose extends?)) (c.unmarshalStruct · t) (c.unmarshalStructIn · · t)) ∧
    ∀ t name l vs, RecordType.fields t = [(name, .slice l)] → l.weightless = true → 1 ≤ vs.length →
      vs.length ≤ maxLength → Stranded c extends? t l vs := by
  refine ⟨fun l v b hv h => ?_, fun hc => ⟨fun k => ⟨?_, ?_⟩, fun t ht => ⟨?_, ?_⟩⟩, ?_⟩
  · rw [Value.writeBy_plain hv] at h
    exact l.weightless_iff h
  · exact fun v data hv h => Codec.unmarshal_marshalBy hc hv h
  · intro room v data hv h hn
    have hread := Codec.unmarshal_marshalBy hc hv h
    exact ((c.stacked data).tagged_value k v hread).read room hn
  · exact fun v data hv h => Codec.unmarshalStruct_marshalStructBy hc ht hv h
  · intro room v data hv h hn
    have hread := Codec.unmarshalStruct_marshalStructBy hc ht hv h
    exact ((c.stacked data).bare_value t v hread).read room hn
  · exact fun t name l vs ht hw hn hm => stranded ht hw hn hm extends?

section Unnamed

def flagged : RecordType := ⟨"", "Flagged", [], [("flag", .bool)]⟩
def base : RecordType := ⟨"", "Base", [], [("a", .u8)]⟩
def heir : RecordType := ⟨"", "Heir", [], [("a", .u8), ("b", .u8)]⟩
def holder : RecordType := ⟨"", "Holder", [], [("part", .struct base)]⟩

def smallCodec : Codec := ⟨"T", [some flagged, some holder], by decide +kernel⟩

theorem unnamed_lost :
    smallCodec.marshalStructBy .closed (.record flagged [.absent]) = .ok [0, 0, 0] ∧
    smallCodec.unmarshalStruct [0, 0, 0] flagged = .ok (.record flagged [.scalar (.bool false)]) ∧
    smallCodec.marshalStructBy (.loose fun t u => t = base && u = heir)
      (.record holder [.record heir [.int 1, .int 2]]) = .ok [0, 0, 1, 2] ∧
    smallCodec.unmarshalStruct [0, 0, 1, 2] holder = .error (.trailing 1 3) ∧
    ¬ ∀ c extends? t v data, Codec.spacious c = true → RecordType.spacious t = true → Value.type? v = some t →
      c.marshalStructBy (.loose extends?) v = .ok data → c.unmarshalStruct data t = .ok v := by
  have hflag : smallCodec.marshalStructBy .closed (.record flagged [.absent]) = .ok [0, 0, 0] := rfl
  have hread : smallCodec.unmarshalStruct [0, 0, 0] flagged = .ok (.record flagged [.scalar (.bool false)]) := rfl
  refine ⟨hflag, hread, rfl, rfl, fun h => ?_⟩
  have hlost := h smallCodec _ flagged _ _ rfl rfl rfl hflag
  rw [hread] at hlost
  cases hlost

end Unnamed

end Countersign.Wire

import Countersign.Proofs.Wire.Recursion

/-! How large the values are that are read from some bytes. Each of them was read somewhere in the bytes: a value in an
interface field from the four bytes of its number and what is behind them, a list from a length with at least as many
bytes behind it as it has items. -/

namespace Countersign.Wire

open Reader

variable {c : Codec} {l : Layout} {t : RecordType} {v w : Value} {vs : List Value} {nested : Kind → Reader Value}
  {here d : Cursor}

namespace Value

mutual

def nesting : Layout → Value → Nat
  | .slice l, list vs => nestingAll l vs
  | .struct _, record t vs => nestingFields t.layouts vs
  | .interface _, record t vs => nestingFields t.layouts vs + 1
  | _, _ => 0
termination_by structural _ v => v

def nestingAll (l : Layout) : List Value → Nat
  | [] => 0
  | v :: vs => max (nesting l v) (nestingAll l vs)
termination_by structural vs => vs

def nestingFields : List Layout → List Value → Nat
  | l :: ls, v :: vs => max (nesting l v) (nestingFields ls vs)
  | _, _ => 0
termination_by structural _ vs => vs

end

@[simp] lemma nesting_scalar (f : Form) (v : Value) : v.nesting (.scalar f) = 0 := by cases v <;> simp [nesting]

mutual

theorem nesting_le : ∀ {l : Layout} {v : Value} {b : Bytes}, v.write (some c) l = .ok b → 4 * v.nesting l ≤ b.length
  | l, scalar s, b, h => by cases l <;> simp [nesting]
  | l, list vs, b, h => by
    cases l with
    | slice l =>
      obtain ⟨_, b', ⟨⟩, _, hb, rfl⟩ := write_slice_eq_ok.1 h
      have hn := nestingAll_le hb
      rw [nesting, List.length_append]
      omega
    | _ => simp [nesting]
  | l, record t vs, b, h => by
    cases l with
    | struct u =>
      obtain ⟨_, ⟨⟩, hb⟩ := write_struct_eq_ok.1 h
      rw [nesting]
      exact nestingFields_le hb
    | interface k =>
      obtain ⟨_, _, id, b', ⟨⟩, _, _, _, hb, rfl⟩ := write_interface_eq_ok.1 h
      have hn := nestingFields_le hb
      rw [nesting, List.length_append, Bytes.length_ofNat]
      omega
    | _ => simp [nesting]
  | l, absent, b, h => by cases l <;> simp [nesting]

theorem nestingAll_le : ∀ {l : Layout} {vs : List Value} {b : Bytes}, writeAll (some c) l vs = .ok b →
    4 * nestingAll l vs ≤ b.length
  | l, [], b, h => by simp [nestingAll]
  | l, v :: vs, b, h => by
    obtain ⟨b₁, b₂, h₁, h₂, rfl⟩ := writeAll_cons_eq_ok.1 h
    have hv := nesting_le h₁
    have hvs := nestingAll_le h₂
    rw [nestingAll, List.length_append]
    omega

theorem nestingFields_le : ∀ {ls : List Layout} {vs : List Value} {b : Bytes}, writeFields (some c) ls vs = .ok b →
    4 * nestingFields ls vs ≤ b.length
  | [], vs, b, h => by simp [nestingFields]
  | l :: ls, [], b, h => by simp [nestingFields]
  | l :: ls, v :: vs, b, h => by
    obtain ⟨_, _, b₁, b₂, ⟨⟩, h₁, h₂, rfl⟩ := writeFields_cons_eq_ok.1 h
    have hv := nesting_le h₁
    have hvs := nestingFields_le h₂
    rw [nestingFields, List.length_append]
    omega

end

inductive Inside (w : Value) : Value → Prop
  | self : Inside w w
  | item {v : Value} {vs : List Value} : v ∈ vs → Inside w v → Inside w (list vs)
  | field {t : RecordType} {v : Value} {vs : List Value} : v ∈ vs → Inside w v → Inside w (record t vs)

end Value

/-! ### Where the parts of a value are read -/

def Sliced (nested : Kind → Reader Value) (l : Layout) (vs : List Value) (here : Cursor) : Prop :=
  ∃ after d, Reader.length.runOn here = (.ok vs.length, after) ∧ vs.length ≤ after.remaining ∧
    (many (l.read nested) vs.length).runOn after = (.ok vs, d)

lemma Reader.length_of_many {r : Reader Value} {n : Nat} (h : (many r n).runOn here = (.ok vs, d)) : vs.length = n := by
  induction n generalizing here d vs with
  | zero =>
    obtain ⟨rfl, _⟩ := runOn_pure_ok h
    rfl
  | succ n ih =>
    obtain ⟨v, _, _, h⟩ := runOn_bind_ok.1 h
    obtain ⟨vs', _, hvs, h⟩ := runOn_bind_ok.1 h
    obtain ⟨rfl, _⟩ := runOn_pure_ok h
    rw [List.length_cons, ih hvs]

lemma sliced_of_reads {n : Nat} {after : Cursor} (hn : Reader.length.runOn here = (.ok n, after))
    (h : (many (l.read nested) n).runOn after = (.ok vs, d)) : Sliced nested l vs here := by
  obtain rfl := length_of_many h
  exact ⟨after, d, hn, (runOn_length_ok hn).2.1, h⟩

lemma Layout.sliced_of_read (h : ((Layout.slice l).read nested).runOn here = (.ok v, d)) :
    ∃ vs, v = .list vs ∧ Sliced nested l vs here := by
  rw [Layout.read] at h
  obtain ⟨n, after, hn, h⟩ := runOn_bind_ok.1 h
  obtain ⟨vs, d', hvs, h⟩ := runOn_bind_ok.1 h
  obtain ⟨rfl, _⟩ := runOn_pure_ok h
  exact ⟨vs, rfl, sliced_of_reads hn hvs⟩

lemma RecordType.fields_of_read (h : (t.read nested).runOn here = (.ok v, d)) :
    ∃ vs, v = .record t vs ∧ (readFields nested t.fields).runOn here = (.ok vs, d) := by
  rw [read_eq] at h
  obtain ⟨vs, _, hvs, h⟩ := runOn_bind_ok.1 h
  obtain ⟨rfl, rfl⟩ := runOn_pure_ok h
  exact ⟨vs, rfl, hvs⟩

namespace Codec

lemma read_canonical (c : Codec) (l : Layout) : (l.read c.readTagged).Canonical (Value.write (some c) l) :=
  l.read_canonical readTagged_canonical

lemma suffix_of_read (h : (l.read c.readTagged).runOn here = (.ok v, d)) : d.rest <:+ here.rest := by
  obtain ⟨b, _, hr⟩ := c.read_canonical l _ _ _ h
  exact ⟨b, hr.symm⟩

lemma item_read {n : Nat} (h : (many (l.read c.readTagged) n).runOn here = (.ok vs, d)) (hv : v ∈ vs) :
    ∃ here' d', (l.read c.readTagged).runOn here' = (.ok v, d') ∧ here'.rest <:+ here.rest := by
  induction n generalizing here d vs with
  | zero =>
    obtain ⟨rfl, _⟩ := runOn_pure_ok h
    cases hv
  | succ n ih =>
    obtain ⟨v', d₁, hv', h⟩ := runOn_bind_ok.1 h
    obtain ⟨vs', d₂, hvs, h⟩ := runOn_bind_ok.1 h
    obtain ⟨rfl, _⟩ := runOn_pure_ok h
    cases hv with
    | head => exact ⟨here, d₁, hv', List.suffix_rfl⟩
    | tail _ hv =>
      obtain ⟨here', d', hr, hs⟩ := ih hvs hv
      exact ⟨here', d', hr, hs.trans (suffix_of_read hv')⟩

lemma field_read {fs : List (String × Layout)} (h : (readFields c.readTagged fs).runOn here = (.ok vs, d))
    (hv : v ∈ vs) :
    ∃ (l : Layout) (here' d' : Cursor), (l.read c.readTagged).runOn here' = (.ok v, d') ∧ here'.rest <:+ here.rest := by
  induction fs generalizing here d vs with
  | nil =>
    obtain ⟨rfl, _⟩ := runOn_pure_ok h
    cases hv
  | cons f fs ih =>
    rw [readFields] at h
    obtain ⟨v', d₁, hv', h⟩ := runOn_bind_ok.1 h
    obtain ⟨vs', d₂, hvs, h⟩ := runOn_bind_ok.1 h
    obtain ⟨rfl, _⟩ := runOn_pure_ok h
    cases hv with
    | head => exact ⟨f.2, here, d₁, hv', List.suffix_rfl⟩
    | tail _ hv =>
      obtain ⟨l, here', d', hr, hs⟩ := ih hvs hv
      exact ⟨l, here', d', hr, hs.trans (suffix_of_read hv')⟩

lemma sliced_of_list (h : (l.read c.readTagged).runOn here = (.ok (.list vs), d)) :
    ∃ l', Sliced c.readTagged l' vs here := by
  obtain ⟨b, hb, _⟩ := c.read_canonical l _ _ _ h
  cases l with
  | scalar f =>
    obtain ⟨_, ⟨⟩, _⟩ := Value.write_scalar_eq_ok.1 hb
  | slice l =>
    obtain ⟨_, ⟨⟩, hs⟩ := Layout.sliced_of_read h
    exact ⟨l, hs⟩
  | struct t =>
    obtain ⟨_, ⟨⟩, _⟩ := Value.write_struct_eq_ok.1 hb
  | interface k =>
    obtain ⟨_, _, _, _, ⟨⟩, _⟩ := Value.write_interface_eq_ok.1 hb

lemma fields_of_record (h : (l.read c.readTagged).runOn here = (.ok (.record t vs), d)) :
    ∃ here', (readFields c.readTagged t.fields).runOn here' = (.ok vs, d) ∧ here'.rest <:+ here.rest := by
  obtain ⟨b, hb, _⟩ := c.read_canonical l _ _ _ h
  cases l with
  | scalar f =>
    obtain ⟨_, ⟨⟩, _⟩ := Value.write_scalar_eq_ok.1 hb
  | slice l =>
    obtain ⟨_, _, ⟨⟩, _⟩ := Value.write_slice_eq_ok.1 hb
  | struct u =>
    rw [Layout.read] at h
    obtain ⟨_, ⟨⟩, hf⟩ := RecordType.fields_of_read h
    exact ⟨here, hf, List.suffix_rfl⟩
  | interface k =>
    rw [Layout.read] at h
    obtain ⟨id, u, after, hid, _, h⟩ := readTagged_eq_ok.1 h
    obtain ⟨_, ⟨⟩, hf⟩ := RecordType.fields_of_read h
    exact ⟨after, hf, _, (runOn_number_ok hid).2.symm⟩

lemma exists_read_of_inside (h : w.Inside v) (hr : (l.read c.readTagged).runOn here = (.ok v, d)) :
    ∃ (l' : Layout) (here' d' : Cursor), (l'.read c.readTagged).runOn here' = (.ok w, d') ∧ here'.rest <:+ here.rest := by
  induction h generalizing l here d with
  | self => exact ⟨l, here, d, hr, List.suffix_rfl⟩
  | item hv _ ih =>
    obtain ⟨l', after, d', hn, _, hvs⟩ := sliced_of_list hr
    obtain ⟨here₁, d₁, hr₁, hs₁⟩ := item_read hvs hv
    obtain ⟨l₂, here₂, d₂, hr₂, hs₂⟩ := ih hr₁
    exact ⟨l₂, here₂, d₂, hr₂, hs₂.trans (hs₁.trans ⟨_, (runOn_length_ok hn).2.2.symm⟩)⟩
  | field hv _ ih =>
    obtain ⟨here', hf, hs⟩ := fields_of_record hr
    obtain ⟨l₁, here₁, d₁, hr₁, hs₁⟩ := field_read hf hv
    obtain ⟨l₂, here₂, d₂, hr₂, hs₂⟩ := ih hr₁
    exact ⟨l₂, here₂, d₂, hr₂, hs₂.trans (hs₁.trans hs)⟩

/-! ### Whole messages -/

inductive Decoded (c : Codec) (data : Bytes) : Layout → Value → Prop
  | tagged {k : Kind} {v : Value} : c.unmarshal data k = .ok v → Decoded c data (.interface k) v
  | bare {t : RecordType} {v : Value} : c.unmarshalStruct data t = .ok v → Decoded c data (.struct t) v
  | unsigned {v : Value} {creds : List Value} : c.unmarshalSigned data = .ok (v, creds) →
      Decoded c data (.interface .unsignedTx) v
  | credential {unsigned v : Value} {creds : List Value} : c.unmarshalSigned data = .ok (unsigned, creds) →
      v ∈ creds → Decoded c data (.interface .credential) v

variable {data : Bytes} {unsigned : Value} {creds : List Value}

lemma unmarshalSigned_parts (h : c.unmarshalSigned data = .ok (unsigned, creds)) :
    ∃ start here, versionBytes ++ start.rest = data ∧ (c.readTagged .unsignedTx).runOn start = (.ok unsigned, here) ∧
      Sliced c.readTagged (.interface .credential) creds here := by
  obtain ⟨start, _, hr, rfl, _⟩ := value_message_ok h
  obtain ⟨_, here, hu, hr⟩ := runOn_bind_ok.1 hr
  obtain ⟨n, after, hn, hr⟩ := runOn_bind_ok.1 hr
  obtain ⟨_, d, hvs, hr⟩ := runOn_bind_ok.1 hr
  obtain ⟨⟨⟩, _⟩ := runOn_pure_ok hr
  exact ⟨start, here, rfl, hu, sliced_of_reads hn hvs⟩

lemma Decoded.exists_read (h : c.Decoded data l v) : ∃ body here d, versionBytes ++ body = data ∧ here.rest <:+ body ∧
    (l.read c.readTagged).runOn here = (.ok v, d) := by
  cases h with
  | tagged h =>
    obtain ⟨start, d, hr, rfl, _⟩ := value_message_ok h
    exact ⟨_, start, d, rfl, List.suffix_rfl, hr⟩
  | bare h =>
    obtain ⟨start, d, hr, rfl, _⟩ := value_message_ok h
    exact ⟨_, start, d, rfl, List.suffix_rfl, hr⟩
  | unsigned h =>
    obtain ⟨start, here, rfl, hu, _⟩ := unmarshalSigned_parts h
    exact ⟨_, start, here, rfl, List.suffix_rfl, hu⟩
  | credential h hv =>
    obtain ⟨start, here, rfl, hu, after, _, hn, _, hvs⟩ := unmarshalSigned_parts h
    obtain ⟨here', d, hr, hs⟩ := item_read hvs hv
    have hs' : after.rest <:+ here.rest := ⟨_, (runOn_length_ok hn).2.2.symm⟩
    have hu' : here.rest <:+ start.rest := suffix_of_read (l := .interface .unsignedTx) hu
    exact ⟨_, here', d, rfl, hs.trans (hs'.trans hu'), hr⟩

lemma length_of_read {body : Bytes} (h : (l.read c.readTagged).runOn here = (.ok v, d)) (hs : here.rest <:+ body) :
    ∃ b, v.write (some c) l = .ok b ∧ b.length + 2 ≤ (versionBytes ++ body).length := by
  obtain ⟨b, hb, he⟩ := c.read_canonical l _ _ _ h
  have hl := hs.length_le
  rw [he, List.length_append] at hl
  refine ⟨b, hb, ?_⟩
  rw [List.length_append, versionBytes, Bytes.length_ofNat]
  omega

def SlicedIn (c : Codec) (data : Bytes) (l : Layout) (vs : List Value) : Prop :=
  ∃ here, Sliced c.readTagged l vs here ∧ here.rest <:+ data

structure Bounded (c : Codec) (data : Bytes) (l : Layout) (v : Value) : Prop where
  nesting : v.nesting l ≤ (data.length - 2) / 4
  lists : ∀ vs, (Value.list vs).Inside v → ∃ l', c.SlicedIn data l' vs

lemma Decoded.nesting_le (h : c.Decoded data l v) : 4 * v.nesting l + 2 ≤ data.length := by
  obtain ⟨body, here, d, rfl, hs, hr⟩ := h.exists_read
  obtain ⟨b, hb, hl⟩ := length_of_read hr hs
  have hn := Value.nesting_le hb
  omega

lemma Decoded.exists_write (h : c.Decoded data l v) (hw : w.Inside v) :
    ∃ l' b, w.write (some c) l' = .ok b ∧ b.length + 2 ≤ data.length := by
  obtain ⟨body, here, d, rfl, hs, hr⟩ := h.exists_read
  obtain ⟨l', here', d', hr', hs'⟩ := exists_read_of_inside hw hr
  exact ⟨l', length_of_read hr' (hs'.trans hs)⟩

lemma Decoded.exists_sliced (h : c.Decoded data l v) (hvs : (Value.list vs).Inside v) : ∃ l', c.SlicedIn data l' vs := by
  obtain ⟨body, here, d, rfl, hs, hr⟩ := h.exists_read
  obtain ⟨_, here', d', hr', hs'⟩ := exists_read_of_inside hvs hr
  obtain ⟨l', hl'⟩ := sliced_of_list hr'
  exact ⟨l', here', hl', hs'.trans (hs.trans (List.suffix_append _ _))⟩

lemma Decoded.bounded (h : c.Decoded data l v) : c.Bounded data l v where
  nesting := by
    have hn := h.nesting_le
    omega
  lists _ := h.exists_sliced

lemma creds_sliced (h : c.unmarshalSigned data = .ok (unsigned, creds)) :
    c.SlicedIn data (.interface .credential) creds := by
  obtain ⟨start, here, rfl, hu, hs⟩ := unmarshalSigned_parts h
  have hu' : here.rest <:+ start.rest := suffix_of_read (l := .interface .unsignedTx) hu
  exact ⟨here, hs, hu'.trans (List.suffix_append _ _)⟩

end Codec

end Countersign.Wire

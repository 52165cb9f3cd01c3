import Countersign.Chain.Platform
import Countersign.Proofs.Tx.Signed

namespace Countersign

open Wire

variable {o : Option Codec} {l l' : Layout} {v : Value} {vs : List Value} {b : Bytes}

namespace Wire

def Layout.at? : List String → Layout → Option Layout
  | [], l => some l
  | name :: path, .struct t => (t.fields.lookup name).bind (at? path)
  | _ :: _, _ => none

def Layout.first? : List String → Layout → Option Layout
  | [], l => some l
  | name :: path, .struct ⟨_, _, _, (n, l) :: _⟩ => if n = name then l.first? path else none
  | _ :: _, _ => none

namespace Value

lemma writeFields_lookup {name : String} {fs : List (String × Layout)}
    (h : writeFields o (fs.map (·.2)) vs = .ok b) (hl : fs.lookup name = some l) :
    ∃ v b', ((fs.map (·.1)).zip vs).lookup name = some v ∧ v.write o l = .ok b' := by
  induction fs generalizing vs b with
  | nil => cases hl
  | cons f fs ih =>
    obtain ⟨n, m⟩ := f
    obtain ⟨v, vs', b₁, b₂, rfl, h₁, h₂, _⟩ := writeFields_cons_eq_ok.1 h
    rw [List.lookup_cons] at hl
    rw [List.map_cons, List.zip_cons_cons, List.lookup_cons]
    cases hn : name == n with
    | true =>
      rw [hn] at hl
      obtain rfl := Option.some.inj hl
      exact ⟨v, b₁, rfl, h₁⟩
    | false =>
      rw [hn] at hl
      exact ih h₂ hl

lemma write_at? {path : List String} (h : v.write o l = .ok b) (hl : l.at? path = some l') :
    ∃ v' b', v.at? path = some v' ∧ v'.write o l' = .ok b' := by
  induction path generalizing v l b with
  | nil =>
    obtain rfl := Option.some.inj hl
    exact ⟨v, b, rfl, h⟩
  | cons name path ih =>
    cases l with
    | struct t =>
      obtain ⟨m, hm, hl⟩ := Option.bind_eq_some_iff.1 hl
      obtain ⟨vs, rfl, hb⟩ := write_struct_eq_ok.1 h
      obtain ⟨w, b', hw, hb'⟩ := writeFields_lookup hb hm
      obtain ⟨v', b'', hv', hb''⟩ := ih hb' hl
      refine ⟨v', b'', ?_, hb''⟩
      rw [at?, field?, hw]
      exact hv'
    | _ => cases hl

lemma writeAll_uint_eq_ok {w : Width} (h : writeAll o (.scalar (.uint w)) vs = .ok b) :
    ∃ ns : List Int, vs = ns.map int ∧ ∀ n ∈ ns, 0 ≤ n := by
  induction vs generalizing b with
  | nil => exact ⟨[], rfl, nofun⟩
  | cons v vs ih =>
    obtain ⟨b₁, b₂, h₁, h₂, _⟩ := writeAll_cons_eq_ok.1 h
    obtain ⟨s, rfl, hs⟩ := write_scalar_eq_ok.1 h₁
    obtain ⟨ns, rfl, hns⟩ := ih h₂
    cases s with
    | int n => exact ⟨n :: ns, rfl, List.forall_mem_cons.2 ⟨(writeNumber_eq_ok.1 hs).1, hns⟩⟩
    | _ => cases hs

lemma mapM_int? (ns : List Int) : (ns.map int).mapM int? = some ns := by
  induction ns with
  | nil => rfl
  | cons n ns ih =>
    rw [List.map_cons, List.mapM_cons, ih]
    rfl

lemma write_first? {path : List String} (h : v.write o l = .ok b) (hl : l.first? path = some l') :
    ∃ v' b' rest, v.at? path = some v' ∧ v'.write o l' = .ok b' ∧ b' ++ rest = b := by
  induction path generalizing v l b with
  | nil =>
    obtain rfl := Option.some.inj hl
    exact ⟨v, b, [], rfl, h, List.append_nil b⟩
  | cons name path ih =>
    cases l with
    | struct t =>
      obtain ⟨scope, type, kinds, _ | ⟨⟨n, m⟩, fs⟩⟩ := t
      · cases hl
      · obtain ⟨vs, rfl, hb⟩ := write_struct_eq_ok.1 h
        obtain ⟨w, vs', b₁, b₂, rfl, h₁, _, rfl⟩ := writeFields_cons_eq_ok.1 hb
        rw [Layout.first?] at hl
        split at hl
        · rename_i hn
          obtain ⟨v', b', rest, hv', hb', rfl⟩ := ih h₁ hl
          have hf : (record ⟨scope, type, kinds, (n, m) :: fs⟩ (w :: vs')).field? name = some w := by
            simp [field?, hn]
          refine ⟨v', b', rest ++ b₂, ?_, hb', by rw [List.append_assoc]⟩
          rw [at?, hf]
          exact hv'
        · cases hl
    | _ => cases hl

end Value

end Wire

namespace Chain.Platform

open Wire.Value

variable {tx : Value} {t : RecordType}

lemma eq_input_of_implements (ht : t ∈ codec.types) (hk : t.implements .auth = true) : t = Secp.input := by
  have h : ∀ t ∈ codec.types, t.implements .auth = true → t = Secp.input := by decide +kernel
  exact h t ht hk

lemma auth_layout (ht : t ∈ governance) : (Layout.struct t).at? ["subnet_auth"] = some (.interface .auth) := by
  have h : ∀ t ∈ governance, (Layout.struct t).at? ["subnet_auth"] = some (.interface .auth) := by decide +kernel
  exact h t ht

lemma subnet_layout (ht : t ∈ governance) :
    ∃ path, subnetPaths.lookup t = some path ∧ (Layout.struct t).at? path = some (.fixed Ident.size) := by
  have h : ∀ t ∈ governance, ((subnetPaths.lookup t).bind (Layout.at? · (.struct t))) = some (.fixed Ident.size) := by
    decide +kernel
  exact Option.bind_eq_some_iff.1 (h t ht)

lemma write_struct_of_writeTagged {k : Kind} (h : codec.writeTagged k tx = .ok b) (ht : tx.type? = some t) :
    ∃ b', tx.write (some codec) (.struct t) = .ok b' := by
  obtain ⟨u, vs, _, b', rfl, _, _, _, hb, _⟩ := write_interface_eq_ok.1 h
  obtain rfl := Option.some.inj ht
  exact ⟨b', write_struct_eq_ok.2 ⟨vs, rfl, hb⟩⟩

lemma exists_subnetAuth? {k : Kind} (h : codec.writeTagged k tx = .ok b) (ht : tx.type? = some t)
    (hg : t ∈ governance) : ∃ positions, subnetAuth? tx = some positions ∧ ∀ p ∈ positions, 0 ≤ p := by
  obtain ⟨_, hb⟩ := write_struct_of_writeTagged h ht
  obtain ⟨auth, _, ha, hb⟩ := write_at? hb (auth_layout hg)
  obtain ⟨u, vs, id, b', rfl, hu, hk, _, hb, _⟩ := write_interface_eq_ok.1 hb
  obtain rfl := eq_input_of_implements (Codec.mem_types hu) hk
  obtain ⟨v, vs', b₁, b₂, rfl, h₁, h₂, _⟩ := writeFields_cons_eq_ok.1 hb
  obtain ⟨rfl, _⟩ := writeFields_nil_eq_ok.1 h₂
  obtain ⟨ws, _, rfl, _, hb, _⟩ := write_slice_eq_ok.1 h₁
  obtain ⟨ns, rfl, hns⟩ := writeAll_uint_eq_ok hb
  refine ⟨ns, ?_, hns⟩
  have hf : tx.field? "subnet_auth" = some (.record Secp.input [.list (ns.map int)]) := by
    obtain ⟨_, hf, ha⟩ := Option.bind_eq_some_iff.1 ha
    rw [hf, ← Option.some.inj ha]
  have hi : (Value.list (ns.map int)).ints? = some ns := mapM_int? ns
  have hs : tx.at? ["subnet_auth", "sig_indices"] = some (.list (ns.map int)) := by
    show (tx.field? "subnet_auth").bind (Value.at? ["sig_indices"]) = _
    rw [hf]
    rfl
  simp only [subnetAuth?, ht, Option.bind_eq_bind, Option.bind_some, if_pos hg, hs, hi]

lemma exists_subnetId? {k : Kind} (h : codec.writeTagged k tx = .ok b) (ht : tx.type? = some t)
    (hg : t ∈ governance) : ∃ id, subnetId? tx = some id ∧ id.length = Ident.size := by
  obtain ⟨path, hp, hl⟩ := subnet_layout hg
  obtain ⟨_, hb⟩ := write_struct_of_writeTagged h ht
  obtain ⟨v, id, hv, hb⟩ := write_at? hb hl
  obtain ⟨rfl, hs⟩ := write_fixed_eq_ok.1 hb
  refine ⟨id, ?_, hs⟩
  simp only [subnetId?, ht, Option.bind_eq_bind, Option.bind_some, hp, hv]
  rfl

lemma type?_of_subnetAuth? {positions : List Int} (h : subnetAuth? tx = some positions) :
    ∃ t, tx.type? = some t ∧ t ∈ governance := by
  obtain ⟨t, ht, h⟩ := Option.bind_eq_some_iff.1 h
  refine ⟨t, ht, ?_⟩
  by_contra hg
  rw [if_neg hg] at h
  cases h

end Chain.Platform

end Countersign

import Countersign.Proofs.Chain.Detect
import Countersign.Proofs.Wire.Room

/-! Detection on a stack with little room. Refusals are no fault there, but a reading that is given up is, and the locks
of the platform chain can be nested deeper than any stack has room for. -/

namespace Countersign.Chain

open Wire

variable {room : Nat} {form : TxForm} {c : Chain} {tx : Value} {data : Bytes}

lemma readingIn_gauged (form : TxForm) (data : Bytes) (c : Chain) :
    Gauged data (.ok (reading? form data c)) (readingIn · form data c) := by
  have hr := c.codec.roomy data
  cases form with
  | unsigned =>
    obtain ⟨depth, hl, hd⟩ := (c.codec.stacked data).tagged .unsignedTx
    have ha := hd.through attempt rfl
    rw [attempt_eq_ok (hr.tagged .unsignedTx)] at ha
    exact ⟨depth, hl, ha⟩
  | signed =>
    obtain ⟨depth, hl, hd⟩ := (c.codec.stacked data).signed
    have ha := (hd.through ((·.1) <$> ·) rfl).through attempt rfl
    have hx : reading? .signed data c = ((·.1) <$> c.codec.unmarshalSigned data).toOption := by
      rw [reading?]
      cases c.codec.unmarshalSigned data <;> rfl
    rw [attempt_eq_ok] at ha
    · rw [hx]
      exact ⟨depth, hl, ha⟩
    · cases hu : c.codec.unmarshalSigned data with
      | error e => exact fun he => hr.signed (hu.trans (congrArg Except.error (Except.error.inj he)))
      | ok r => exact fun he => by cases he

lemma max_all_le {depth : Chain → Nat} {n : Nat} : (all.map depth).foldr max 0 ≤ n ↔ ∀ c, depth c ≤ n := by
  constructor
  · intro h c
    simp only [all, List.map_cons, List.map_nil, List.foldr_cons, List.foldr_nil] at h
    cases c <;> omega
  · intro h
    have hp := h .platform
    have he := h .exchange
    have hc := h .contract
    simp only [all, List.map_cons, List.map_nil, List.foldr_cons, List.foldr_nil]
    omega

/-- A search goes as deep as the deepest of its readings. -/
lemma exists_depths (form : TxForm) (data : Bytes) : ∃ depth : Chain → Nat,
    (∀ c, 4 * depth c ≤ data.length + 2) ∧
    (∀ c, Reaches .noRoom (depth c) (.ok (reading? form data c)) (readingIn · form data c)) ∧
    Reaches .noRoom ((all.map depth).foldr max 0) (.ok (classify form data)) (classifyIn · form data) := by
  choose depth hl hd using readingIn_gauged form data
  refine ⟨depth, hl, hd, ?_⟩
  have hone (c : Chain) : Reaches .noRoom (depth c) (.ok ((reading? form data c).map (c, ·)))
      fun room => do return (← readingIn room form data c).map (c, ·) :=
    (hd c).through (fun x => do return Option.map (Prod.mk c) (← x)) rfl
  have hall := (Reaches.mapM hone all).through (fun told => do return only? ((← told).filterMap id)) rfl
  have hc : classify form data = only? ((all.map fun c => (reading? form data c).map (c, ·)).filterMap id) := by
    rw [classify, readings, List.filterMap_map]
    rfl
  rw [hc]
  exact hall

lemma gauged_of_classify {α : Type} (g : Option (Chain × Value) → α) (form : TxForm) (data : Bytes) :
    Gauged data (.ok (g (classify form data))) fun room => g <$> classifyIn room form data := by
  obtain ⟨depth, hl, _, hall⟩ := exists_depths form data
  refine ⟨(all.map depth).foldr max 0, ?_, hall.through (g <$> ·) rfl⟩
  have hm : (all.map depth).foldr max 0 ≤ (data.length + 2) / 4 := max_all_le.2 fun c => by
    have := hl c
    omega
  omega

lemma networkIn_gauged (form : TxForm) (data : Bytes) : Gauged data (.ok (networkOf form data)) (networkIn · form data) :=
  gauged_of_classify networkTold form data

lemma detectIn_gauged (form : TxForm) (data : Bytes) : Gauged data (.ok (detect form data)) (detectIn · form data) :=
  gauged_of_classify (Option.map Prod.fst) form data

lemma networkIn_eq_ok :
    networkIn room form data = .ok (networkOf form data) ↔ ∀ c, readingIn room form data c ≠ .error .noRoom := by
  obtain ⟨depth, _, hone, hall⟩ := exists_depths form data
  have hn : Reaches .noRoom ((all.map depth).foldr max 0) (.ok (networkOf form data)) (networkIn · form data) :=
    hall.through (networkTold <$> ·) rfl
  rw [hn.eq_iff nofun, max_all_le]
  exact forall_congr' fun c => ((hone c).ne_iff nofun).symm

/-! ### Locks in each other -/

namespace Platform

def locks : Nat → Value
  | 0 => .record Secp.transferOutput [.int 0, .record Secp.outputOwners [.int 0, .int 0, .list []]]
  | n + 1 => .record lockOut [.int 0, locks n]

def lockedTx (n : Nat) : Value :=
  .record plainTx [.record Component.baseTx [.int 1, .bytes (Bytes.zeros 32),
    .list [.record Component.transferableOutput [.bytes (Bytes.zeros 32), locks n]], .list [], .bytes []]]

lemma nesting_locks (n : Nat) : (locks n).nesting (.interface .output) = n + 1 := by
  induction n with
  | zero => decide +kernel
  | succ n ih =>
    have hl : lockOut.layouts = [.u64, .interface .output] := rfl
    simp [locks, Value.nesting, hl, Value.nestingFields, Layout.u64, ih]

lemma nesting_lockedTx (n : Nat) : (lockedTx n).nesting (.interface .unsignedTx) = n + 2 := by
  simp [lockedTx, Value.nesting, Value.nestingFields, Value.nestingAll, RecordType.layouts, plainTx, tx, make,
    Component.baseTx, Component.make, Component.outputs, Component.inputs, Component.transferableOutput, Layout.u32,
    identLayout, Layout.fixed, Layout.bytes, nesting_locks]

lemma exists_write_locks (n : Nat) : ∃ b, (locks n).write (some codec) (.interface .output) = .ok b := by
  induction n with
  | zero => exact exists_eq_ok (by decide +kernel)
  | succ n ih =>
    have ht : codec.typeAt? 22 = some lockOut := by decide +kernel
    have hl : lockOut.layouts = [.u64, .interface .output] := rfl
    rw [locks, Value.exists_write_interface ht (by decide), hl]
    simp only [Value.exists_writeFields_cons]
    exact ⟨rfl, exists_eq_ok (by decide +kernel), ih, _, rfl⟩

lemma exists_write_lockedTx (n : Nat) : ∃ data, write .unsigned .platform (lockedTx n) [] = .ok data := by
  have ht : codec.typeAt? 34 = some plainTx := by decide +kernel
  have hl : plainTx.layouts = [.struct Component.baseTx] := rfl
  have hb : Component.baseTx.layouts = [.u32, identLayout, Component.outputs, Component.inputs, .bytes] := rfl
  have ho : Component.transferableOutput.layouts = [identLayout, .interface .output] := rfl
  have hw : ∃ b, (lockedTx n).write (some codec) (.interface .unsignedTx) = .ok b := by
    rw [lockedTx, Value.exists_write_interface ht (by decide), hl]
    simp only [Value.exists_writeFields_cons, Value.exists_write_struct, hb, Component.outputs, Value.exists_write_slice,
      Value.exists_writeAll_singleton, ho]
    refine ⟨rfl, ⟨?_, ?_, ⟨(by decide : 1 ≤ maxLength), ?_, exists_write_locks n, _, rfl⟩, ?_, ?_, _, rfl⟩, _, rfl⟩
    all_goals exact exists_eq_ok (by decide +kernel)
  obtain ⟨b, hw⟩ := hw
  exact ⟨_, bind_eq_ok.2 ⟨b, hw, rfl⟩⟩

end Platform

lemma networkIn_lockedTx {n : Nat} (h : write .unsigned .platform (Platform.lockedTx n) [] = .ok data)
    (hn : room < n + 2) : networkIn room .unsigned data = .error .noRoom := by
  have hu : Platform.codec.unmarshal data .unsignedTx = .ok (Platform.lockedTx n) :=
    Codec.unmarshal_marshal (spacious_codec .platform) h
  have hv := (Platform.codec.stacked data).tagged_value _ _ hu
  rw [Platform.nesting_lockedTx] at hv
  obtain ⟨depth, _, hd⟩ := networkIn_gauged .unsigned data
  have hgiven : readingIn room .unsigned data .platform = .error .noRoom := congrArg attempt (hv.given_up room hn)
  by_contra hne
  have hr := hd.read room ((hd.ne_iff nofun).1 hne)
  exact networkIn_eq_ok.1 hr .platform hgiven

end Countersign.Chain

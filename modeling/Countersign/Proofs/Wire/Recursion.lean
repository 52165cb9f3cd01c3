import Countersign.Proofs.Wire.Cursor
import Mathlib.Logic.Function.Iterate

/-! The decoder as a recursion without a bound. The number of a value is read before the values that are nested in it,
so fewer bytes are left for these. The recursion therefore ends on all bytes, whichever types refer to each other, and
no other reader solves its equation. -/

namespace Countersign.Wire

namespace Reader

variable {α β : Type} {calm : Bool} {stop : Option Fault} {r r' : Reader α} {f f' : α → Reader β} {c : Cursor} {m n size : Nat}

structure Tame (calm : Bool) (r : Reader α) : Prop where
  shrinks : ∀ c : Cursor, (r.runOn c).2.remaining ≤ c.remaining
  roomy : calm = true → ∀ c : Cursor, (r.runOn c).1 ≠ .error .noRoom

def Departs (stop : Option Fault) (result : Except Fault α × Cursor) : Prop := ∀ e ∈ stop, result.1 = .error e

/-- The second reader does what the first one does, and departs from it on no fewer than `m` bytes. The first one never
goes back, so what is read after it is read from fewer as well; if it is calm, it never wants room. -/
structure Matches (calm : Bool) (stop : Option Fault) (m : Nat) (r r' : Reader α) : Prop where
  same : ∀ c : Cursor, r'.runOn c = r.runOn c ∨ m ≤ c.remaining ∧ Departs stop (r'.runOn c)
  tame : r.Tame calm

lemma runOn_map_snd {g : α → β} : ((do return g (← r) : Reader β).runOn c).2 = (r.runOn c).2 := by
  rw [runOn_bind]
  rcases r.runOn c with ⟨_ | x, d⟩ <;> rfl

lemma remaining_advance_le (c : Cursor) (n : Nat) : (c.advance n).remaining ≤ c.remaining := by
  simp [Cursor.remaining, Cursor.advance]

lemma departs_none (result : Except Fault α × Cursor) : Departs none result := by simp [Departs]

lemma Departs.bind (h : Departs stop (r.runOn c)) : Departs stop ((r >>= f).runOn c) := by
  intro e he
  have hr : r.runOn c = (.error e, (r.runOn c).2) := Prod.ext (h e he) rfl
  rw [runOn_bind, hr]

lemma reading_tame (r : Reading) : r.reader.Tame calm where
  shrinks c := by
    obtain ⟨n, _, hn⟩ := r.exists_advance c
    rw [hn]
    exact remaining_advance_le c n
  roomy _ c h := by
    obtain ⟨n, hf, _⟩ := Reading.runOn_eq_error.1 (Prod.ext h rfl)
    cases hf

lemma tame_of_map {g : α → β} (h : (do return g (← r) : Reader β).Tame calm) : r.Tame calm where
  shrinks c := by
    have hs := h.shrinks c
    rwa [runOn_map_snd] at hs
  roomy hcalm c hc := h.roomy hcalm c (congrArg Prod.fst (runOn_map_eq_error.2 (Prod.ext hc rfl)))

namespace Matches

protected lemma refl (h : r.Tame calm) : r.Matches calm stop m r := ⟨fun _ => .inl rfl, h⟩

lemma mono (h : r.Matches calm stop m r') (hn : n ≤ m) : r.Matches calm stop n r' where
  same c := (h.same c).imp_right (And.imp_left (Nat.le_trans hn))
  tame := h.tame

protected lemma pure (x : α) : (pure x : Reader α).Matches calm stop m (pure x) :=
  .refl ⟨fun _ => Nat.le_refl _, fun _ _ h => by cases h⟩

protected lemma throw {e : Fault} (he : calm = true → e ≠ .noRoom) : (throw e : Reader α).Matches calm stop m (throw e) :=
  .refl ⟨fun _ => Nat.le_refl _, fun hc _ h => he hc (Except.error.inj h)⟩

protected lemma bind (h : r.Matches calm stop m r') (hf : ∀ x, (f x).Matches calm stop m (f' x)) :
    (r >>= f).Matches calm stop m (r' >>= f') where
  same c := by
    have hs := h.tame.shrinks c
    obtain he | ⟨hm, hd⟩ := h.same c
    · rw [runOn_bind, runOn_bind, he]
      rcases hr : r.runOn c with ⟨e | x, d⟩
      · exact .inl rfl
      · rw [hr] at hs
        exact ((hf x).same d).imp_right (And.imp_left fun hm => Nat.le_trans hm hs)
    · exact .inr ⟨hm, hd.bind⟩
  tame := by
    refine ⟨fun c => ?_, fun hcalm c => ?_⟩
    · have hs := h.tame.shrinks c
      rw [runOn_bind]
      rcases hr : r.runOn c with ⟨e | x, d⟩
      · rwa [hr] at hs
      · rw [hr] at hs
        exact Nat.le_trans ((hf x).tame.shrinks d) hs
    · have hn := h.tame.roomy hcalm c
      rw [runOn_bind]
      rcases hr : r.runOn c with ⟨e | x, d⟩
      · rw [hr] at hn
        exact fun he => hn (congrArg Except.error (Except.error.inj he))
      · exact (hf x).tame.roomy hcalm d

protected lemma number : (number size).Matches calm stop m (number size) := by
  refine .refl ⟨fun c => ?_, fun _ c => ?_⟩
  · rcases hr : (number size).runOn c with ⟨e | x, d⟩
    · obtain ⟨_, _, rfl⟩ := runOn_number_eq_error.1 hr
      exact Nat.le_refl _
    · obtain ⟨b, _, _, _, rfl⟩ := runOn_number_eq_ok.1 hr
      exact remaining_advance_le c size
  · intro he
    obtain ⟨_, h, _⟩ := runOn_number_eq_error.1 (Prod.ext he rfl)
    cases h

lemma number_bind {f f' : Nat → Reader β} (hf : ∀ x, (f x).Matches calm stop m (f' x)) :
    (number size >>= f).Matches calm stop (m + size) (number size >>= f') where
  same c := by
    rw [runOn_bind, runOn_bind]
    rcases hr : (number size).runOn c with ⟨e | x, d⟩
    · exact .inl rfl
    · obtain ⟨b, hb, _, hr, _⟩ := runOn_number_eq_ok.1 hr
      have hd : c.remaining = d.remaining + size := by
        rw [Cursor.remaining, Cursor.remaining, hr, List.length_append, hb, Nat.add_comm]
      exact ((hf x).same d).imp_right (And.imp_left fun hm => by omega)
  tame := (Matches.number.bind hf).tame

protected lemma length : length.Matches calm stop m length := .refl (tame_of_map (reading_tame .length))

protected lemma finish : finish.Matches calm stop m finish := .refl (tame_of_map (reading_tame .finish))

protected lemma many (h : r.Matches calm stop m r') (n : Nat) : (many r n).Matches calm stop m (many r' n) := by
  induction n with
  | zero => exact .pure []
  | succ n ih => exact .bind h fun _ => .bind ih fun _ => .pure _

protected lemma message (h : r.Matches calm stop m r') : (message r).Matches calm stop (m + 2) (message r') := by
  refine .number_bind fun v => ?_
  dsimp only
  split
  · exact .bind (.throw fun _ => by simp) fun _ => .bind h fun _ => .bind .finish fun _ => .pure _
  · exact .bind h fun _ => .bind .finish fun _ => .pure _

end Matches

lemma Tame.message (h : r.Tame calm) : (message r).Tame calm := (Matches.message (.refl h) : Matches calm none (0 + 2) _ _).tame

end Reader

open Reader

variable {calm : Bool} {stop : Option Fault} {c : Codec} {m d : Nat} {k : Kind} {nested nested' : Kind → Reader Value}

lemma Form.read_matches (f : Form) : f.read.Matches calm stop m f.read := .refl (tame_of_map (reading_tame (.scalar f)))

mutual

theorem Layout.read_matches (hn : ∀ k, (nested k).Matches calm stop m (nested' k)) :
    ∀ l : Layout, (l.read nested).Matches calm stop m (l.read nested')
  | .scalar f => by
    rw [Layout.read, Layout.read]
    exact .bind f.read_matches fun _ => .pure _
  | .slice l => by
    rw [Layout.read, Layout.read]
    exact .bind .length fun n => .bind (.many (l.read_matches hn) n) fun _ => .pure _
  | .struct ⟨s, n, ks, fs⟩ => by
    rw [Layout.read, Layout.read, RecordType.read, RecordType.read]
    exact .bind (readFields_matches hn fs) fun _ => .pure _
  | .interface k => by
    rw [Layout.read, Layout.read]
    exact hn k

theorem readFields_matches (hn : ∀ k, (nested k).Matches calm stop m (nested' k)) :
    ∀ fs : List (String × Layout), (readFields nested fs).Matches calm stop m (readFields nested' fs)
  | [] => by
    rw [readFields, readFields]
    exact .pure []
  | (_, l) :: fs => by
    rw [readFields, readFields]
    exact .bind (l.read_matches hn) fun _ => .bind (readFields_matches hn fs) fun _ => .pure _

end

lemma RecordType.read_matches (hn : ∀ k, (nested k).Matches calm stop m (nested' k)) (t : RecordType) :
    (t.read nested).Matches calm stop m (t.read nested') := by
  rw [read_eq, read_eq]
  exact .bind (readFields_matches hn t.fields) fun _ => .pure _

lemma RecordType.read_tame (hn : ∀ k, (nested k).Tame calm) (t : RecordType) : (t.read nested).Tame calm :=
  (t.read_matches fun k => .refl (hn k) : Matches calm none 0 _ _).tame

namespace Codec

lemma ne_noRoom_of_typeFor {id : Nat} {e : Fault} (h : c.typeFor k id = .error e) : e ≠ .noRoom := by
  rintro rfl
  rw [typeFor] at h
  cases ht : c.typeAt? id with
  | none => simp [ht] at h
  | some t =>
    rw [ht] at h
    dsimp only at h
    split at h <;> cases h

lemma readOver_matches (hn : ∀ k, (nested k).Matches calm stop m (nested' k)) (k : Kind) :
    (c.readOver nested k).Matches calm stop (m + 4) (c.readOver nested' k) := by
  refine .number_bind fun id => ?_
  cases ht : c.typeFor k id with
  | error e => exact .throw fun _ => ne_noRoom_of_typeFor ht
  | ok t => exact t.read_matches hn

lemma readSignedOver_matches (hn : ∀ k, (nested k).Matches calm stop m (nested' k)) :
    (readSignedOver nested).Matches calm stop m (readSignedOver nested') :=
  .bind (hn _) fun _ => .bind .length fun n => .bind (.many (hn _) n) fun _ => .pure _

lemma readSignedOver_tame (hn : ∀ k, (nested k).Tame calm) : (readSignedOver nested).Tame calm :=
  (readSignedOver_matches fun k => .refl (hn k) : Matches calm none 0 _ _).tame

lemma readWithin_tame (depth : Nat) (k : Kind) : (c.readWithin depth k).Tame calm := by
  induction depth generalizing k with
  | zero => exact ⟨fun _ => Nat.le_refl _, fun _ _ h => by cases h⟩
  | succ depth ih => exact (readOver_matches (fun k => .refl (ih k)) k : Matches calm none (0 + 4) _ _).tame

/-- The recursion `d` levels deep, with anything below, and the reader with a bound. They differ on no fewer bytes than
take the reading to the last level of either. -/
lemma readWithin_matches (bottom : Kind → Reader Value) (d depth : Nat) (k : Kind) :
    (c.readWithin depth k).Matches true none (4 * min d (depth + 1)) (c.readOver^[d] bottom k) := by
  induction d generalizing depth k with
  | zero => exact ⟨fun _ => .inr ⟨by omega, departs_none _⟩, readWithin_tame depth k⟩
  | succ d ih =>
    rw [Function.iterate_succ_apply']
    cases depth with
    | zero =>
      refine ⟨fun here => ?_, readWithin_tame 0 k⟩
      by_cases h : here.remaining < 4
      · exact .inl (runOn_bind_eq_error.2 (.inl (runOn_number_eq_error.2 ⟨h, rfl, rfl⟩)))
      · exact .inr ⟨by omega, departs_none _⟩
    | succ depth => exact (readOver_matches (ih depth) k).mono (by omega)

lemma readTagged_tame (c : Codec) (k : Kind) : (c.readTagged k).Tame true :=
  have ht (depth : Nat) : (c.readWithin depth k).Tame true := readWithin_tame depth k
  ⟨fun here => (ht here.remaining).shrinks here, fun hcalm here => (ht here.remaining).roomy hcalm here⟩

lemma readTagged_unrolled (bottom : Kind → Reader Value) (d : Nat) (k : Kind) :
    (c.readTagged k).Matches true none (4 * d) (c.readOver^[d] bottom k) where
  same here := ((readWithin_matches bottom d here.remaining k).same here).imp_right (And.imp_left fun hm => by omega)
  tame := c.readTagged_tame k

lemma readOver_readTagged (c : Codec) : c.readOver c.readTagged = c.readTagged := by
  funext k here
  -- Both do what the recursion does that is unrolled once more than the bytes allow.
  have hn := readTagged_unrolled (c := c) unregistered
  have hd := ((readOver_matches (c := c) (hn here.remaining) k).same here).resolve_right fun ⟨hm, _⟩ => by omega
  have hd' := ((hn (here.remaining + 1) k).same here).resolve_right fun ⟨hm, _⟩ => by omega
  rw [Function.iterate_succ_apply'] at hd'
  exact hd.symm.trans hd'

lemma readTagged_matches {bottom : Kind → Reader Value} (hb : ∀ k here, Departs stop ((bottom k).runOn here))
    (d : Nat) (k : Kind) : (c.readTagged k).Matches true stop (4 * d) (c.readOver^[d] bottom k) := by
  induction d generalizing k with
  | zero => exact ⟨fun here => .inr ⟨Nat.zero_le _, hb k here⟩, c.readTagged_tame k⟩
  | succ d ih =>
    have hm := readOver_matches (c := c) ih k
    rw [readOver_readTagged] at hm
    rwa [Function.iterate_succ_apply']

lemma readOver_eq_self_iff {read : Kind → Reader Value} : c.readOver read = read ↔ read = c.readTagged := by
  constructor
  · intro h
    funext k here
    have hd := ((readTagged_unrolled (c := c) read (here.remaining + 1) k).same here).resolve_right
      fun ⟨hm, _⟩ => by omega
    rwa [Function.iterate_fixed h] at hd
  · rintro rfl
    exact c.readOver_readTagged

lemma readTagged_eq_ok {here : Cursor} {v : Value} {d : Cursor} : (c.readTagged k).runOn here = (.ok v, d) ↔
    ∃ id t after, (number 4).runOn here = (.ok id, after) ∧ c.typeFor k id = .ok t ∧
      (t.read c.readTagged).runOn after = (.ok v, d) := by
  rw [← congrFun c.readOver_readTagged k, readOver, runOn_bind_ok]
  constructor
  · rintro ⟨id, after, hid, h⟩
    cases ht : c.typeFor k id with
    | error f =>
      rw [ht] at h
      exact (runOn_throw_ok h).elim
    | ok t =>
      rw [ht] at h
      exact ⟨id, t, after, hid, ht, h⟩
  · rintro ⟨id, t, after, hid, ht, h⟩
    exact ⟨id, after, hid, by rwa [ht]⟩

/-! ### Whole messages -/

structure Unrolled (c : Codec) (bottom : Kind → Reader Value) (d : Nat) (data : Bytes) : Prop where
  tagged : ∀ k, (message (c.readOver^[d] bottom k)).value data = c.unmarshal data k
  bare : ∀ t : RecordType, (message (t.read (c.readOver^[d] bottom))).value data = c.unmarshalStruct data t
  signed : (message (readSignedOver (c.readOver^[d] bottom))).value data = c.unmarshalSigned data

lemma value_unrolled {α : Type} {body body' : Reader α} {data : Bytes} (h : body.Matches true none (4 * d) body')
    (hd : data.length < 4 * d + 2) : (message body').value data = (message body).value data :=
  congrArg Prod.fst ((h.message.same (.start data)).resolve_right fun ⟨hm, _⟩ => absurd hd (Nat.not_lt.2 hm))

lemma unrolled {data : Bytes} (bottom : Kind → Reader Value) (hd : data.length < 4 * d + 2) : c.Unrolled bottom d data where
  tagged k := value_unrolled (readTagged_unrolled bottom d k) hd
  bare t := value_unrolled (t.read_matches (readTagged_unrolled bottom d)) hd
  signed := value_unrolled (readSignedOver_matches (readTagged_unrolled bottom d)) hd

end Codec

end Countersign.Wire

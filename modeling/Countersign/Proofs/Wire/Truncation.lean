import Countersign.Proofs.Wire.Canonical

/-! What a reader makes of more bytes. It does with them what it did before, unless the bytes had run out. So a message
that is accepted is no longer one when bytes at its end are left out, or when others follow it. -/

namespace Countersign.Wire

def Fault.IsShortage : Fault → Prop
  | .short .. | .lengthBeyond .. => True
  | _ => False

namespace Reader

variable {α β : Type} {r r' : Reader α} {f f' : α → Reader β}

/-- On more bytes the second reader does what the first one does, unless these ran out. It can be another one, since
the bytes that are left bound how deep values are nested. -/
structure Extends (r r' : Reader α) : Prop where
  ok : ∀ {offset front x c} more, r.runOn ⟨offset, front⟩ = (.ok x, c) →
    r'.runOn ⟨offset, front ++ more⟩ = (.ok x, ⟨c.offset, c.rest ++ more⟩)
  error : ∀ {offset front e c} more, r.runOn ⟨offset, front⟩ = (.error e, c) →
    e.IsShortage ∨ (r'.runOn ⟨offset, front ++ more⟩).1 = .error e
  balance : ∀ {offset front x c}, r.runOn ⟨offset, front⟩ = (.ok x, c) →
    c.offset + c.rest.length = offset + front.length

namespace Extends

protected lemma pure (x : α) : (pure x : Reader α).Extends (pure x) where
  ok more h := by
    obtain ⟨rfl, rfl⟩ := runOn_pure_ok h
    rfl
  error more h := by
    rw [runOn_pure] at h
    cases h
  balance h := by
    obtain ⟨rfl, rfl⟩ := runOn_pure_ok h
    rfl

protected lemma throw (e : Fault) : (throw e : Reader α).Extends (throw e) where
  ok more h := (runOn_throw_ok h).elim
  error more h := by
    rw [runOn_throw] at h
    cases h
    exact .inr rfl
  balance h := (runOn_throw_ok h).elim

protected lemma bind (h : r.Extends r') (hf : ∀ x, (f x).Extends (f' x)) : (r >>= f).Extends (r' >>= f') where
  ok more hy := by
    obtain ⟨x, d, hx, hy⟩ := runOn_bind_ok.1 hy
    exact runOn_bind_ok.2 ⟨x, _, h.ok more hx, (hf x).ok more hy⟩
  error {offset front e c} more he := by
    rw [runOn_bind] at he
    rw [runOn_bind]
    cases hr : r.runOn ⟨offset, front⟩ with
    | mk x d =>
      rw [hr] at he
      cases x with
      | error e =>
        cases he
        refine (h.error more hr).imp_right fun hr' => ?_
        generalize r'.runOn _ = p at hr' ⊢
        obtain ⟨y, d'⟩ := p
        obtain rfl : y = .error e := hr'
        rfl
      | ok x =>
        refine ((hf x).error more he).imp_right fun he' => ?_
        rw [h.ok more hr]
        exact he'
  balance hy := by
    obtain ⟨x, d, hx, hy⟩ := runOn_bind_ok.1 hy
    exact ((hf x).balance hy).trans (h.balance hx)

protected lemma take (n : Nat) : (take n).Extends (take n) where
  ok {offset front x c} more h := by
    obtain ⟨rfl, hr⟩ := runOn_take_ok h
    rw [runOn_take] at h ⊢
    split at h
    · rename_i hn
      have hm : x.length ≤ (⟨offset, front ++ more⟩ : Cursor).remaining := by
        rw [Cursor.remaining, List.length_append]
        exact Nat.le_trans hn (Nat.le_add_right _ _)
      obtain ⟨_, rfl⟩ := by simpa using h
      rw [if_pos hm]
      dsimp only [Cursor.advance] at hr ⊢
      rw [hr, List.append_assoc, List.take_left, List.drop_left]
      simp
    · cases h
  error more h := by
    rw [runOn_take] at h
    split at h
    · cases h
    · cases h
      exact .inl trivial
  balance {offset front x c} h := by
    obtain ⟨rfl, hr⟩ := runOn_take_ok h
    rw [runOn_take] at h
    split at h
    · obtain ⟨_, rfl⟩ := by simpa using h
      have hl := congrArg List.length hr
      dsimp only [Cursor.advance] at hl ⊢
      rw [List.length_append] at hl
      omega
    · cases h

protected lemma number (size : Nat) : (number size).Extends (number size) := by
  rw [number, map_eq_pure_bind]
  exact .bind (.take size) fun _ => .pure _

protected lemma length : length.Extends length := by
  have hcheck (n : Nat) (c : Cursor) :
      (do
        let c ← get
        if maxLength < n ∨ c.remaining < n then throw (.lengthBeyond n c.remaining)
        return n : Reader Nat).runOn c =
      if maxLength < n ∨ c.remaining < n then (.error (.lengthBeyond n c.remaining), c) else (.ok n, c) := by
    rw [runOn_bind, runOn_get]
    dsimp only
    split <;> rfl
  refine .bind (.number 4) fun n => ⟨?_, ?_, ?_⟩
  · intro offset front x c more h
    rw [hcheck] at h ⊢
    split at h
    · cases h
    · rename_i hn
      have hm : ¬ (maxLength < n ∨ (⟨offset, front ++ more⟩ : Cursor).remaining < n) := by
        simp only [Cursor.remaining, List.length_append] at hn ⊢
        omega
      cases h
      rw [if_neg hm]
  · intro offset front e c more h
    rw [hcheck] at h
    split at h
    · cases h
      exact .inl trivial
    · cases h
  · intro offset front x c h
    rw [hcheck] at h
    split at h
    · cases h
    · cases h
      rfl

protected lemma many (h : r.Extends r') (n : Nat) : (many r n).Extends (many r' n) := by
  induction n with
  | zero => exact .pure []
  | succ n ih => exact .bind h fun _ => .bind ih fun _ => .pure _

end Extends

end Reader

open Reader

variable {c : Codec} {nested nested' : Kind → Reader Value}

lemma Form.read_extends (f : Form) : f.read.Extends f.read := by
  cases f with
  | uint w => exact .bind (.number w.size) fun _ => .pure _
  | bool =>
    refine .bind (.number 1) fun n => ?_
    split
    · exact .bind (.throw _) fun _ => .pure _
    · exact .pure _
  | text =>
    refine .bind (.number 2) fun n => .bind (.take n) fun b => ?_
    split
    · exact .pure _
    · exact .throw _
  | bytes => exact .bind .length fun n => .bind (.take n) fun _ => .pure _
  | fixed size => exact .bind (.take size) fun _ => .pure _

mutual

theorem Layout.read_extends (hn : ∀ k, (nested k).Extends (nested' k)) :
    ∀ l : Layout, (l.read nested).Extends (l.read nested')
  | .scalar f => by
    rw [Layout.read, Layout.read]
    exact .bind f.read_extends fun _ => .pure _
  | .slice l => by
    rw [Layout.read, Layout.read]
    exact .bind .length fun n => .bind (.many (l.read_extends hn) n) fun _ => .pure _
  | .struct ⟨s, n, ks, fs⟩ => by
    rw [Layout.read, Layout.read, RecordType.read, RecordType.read]
    exact .bind (readFields_extends hn fs) fun _ => .pure _
  | .interface k => by
    rw [Layout.read, Layout.read]
    exact hn k

theorem readFields_extends (hn : ∀ k, (nested k).Extends (nested' k)) :
    ∀ fs : List (String × Layout), (readFields nested fs).Extends (readFields nested' fs)
  | [] => by
    rw [readFields, readFields]
    exact .pure []
  | (_, l) :: fs => by
    rw [readFields, readFields]
    exact .bind (l.read_extends hn) fun _ => .bind (readFields_extends hn fs) fun _ => .pure _

end

lemma RecordType.read_extends (hn : ∀ k, (nested k).Extends (nested' k)) (t : RecordType) :
    (t.read nested).Extends (t.read nested') := by
  rw [read_eq, read_eq]
  exact .bind (readFields_extends hn t.fields) fun _ => .pure _

namespace Codec

lemma readWithin_extends {depth depth' : Nat} (h : depth ≤ depth') (k : Kind) :
    (c.readWithin depth k).Extends (c.readWithin depth' k) := by
  induction depth generalizing depth' k with
  | zero =>
    have hrun (here : Cursor) : (c.readWithin 0 k).runOn here = (.error (.short 4 here.offset here.remaining), here) := rfl
    refine ⟨fun more h => ?_, fun more h => ?_, fun h => ?_⟩
    all_goals rw [hrun] at h; cases h
    exact .inl trivial
  | succ depth ih =>
    obtain ⟨depth', rfl⟩ : ∃ n, depth' = n + 1 := ⟨depth' - 1, by omega⟩
    rw [readWithin, readWithin]
    refine .bind (.number 4) fun id => ?_
    cases c.typeFor k id with
    | error f => exact .throw f
    | ok t => exact t.read_extends fun k => ih (by omega) k

lemma readTagged_extends (k : Kind) : (c.readTagged k).Extends (c.readTagged k) := by
  have hrun (here : Cursor) : (c.readTagged k).runOn here = (c.readWithin here.remaining k).runOn here := rfl
  have hle (offset : Nat) (front more : Bytes) :
      (⟨offset, front⟩ : Cursor).remaining ≤ (⟨offset, front ++ more⟩ : Cursor).remaining := by
    simp only [Cursor.remaining, List.length_append, Nat.le_add_right]
  refine ⟨fun more h => ?_, fun more h => ?_, fun h => ?_⟩
  · rw [hrun] at h ⊢
    exact (readWithin_extends (hle _ _ more) k).ok more h
  · rw [hrun] at h ⊢
    exact (readWithin_extends (hle _ _ more) k).error more h
  · rw [hrun] at h
    exact (readWithin_extends (Nat.le_refl _) k).balance h

lemma readSigned_extends : c.readSigned.Extends c.readSigned :=
  .bind (readTagged_extends _) fun _ => .bind .length fun n => .bind (.many (readTagged_extends _) n) fun _ => .pure _

end Codec

/-! ### Whole messages -/

structure Isolated {α : Type} (read : Bytes → Except Fault α) (data : Bytes) : Prop where
  cut : ∀ n < data.length, ∃ e, e.IsShortage ∧ read (data.take n) = .error e
  continued : ∀ more ≠ [], read (data ++ more) = .error (.trailing more.length data.length)

namespace Reader

variable {α : Type} {body : Reader α} {x : α} {data : Bytes}

lemma value_message (body : Reader α) (b : Bytes) : (message body).value (versionBytes ++ b) =
    match body.runOn ⟨2, b⟩ with
    | (.ok x, c) => if c.rest = [] then .ok x else .error (.trailing c.rest.length c.offset)
    | (.error e, _) => .error e := by
  have hv : (number 2).runOn ⟨0, versionBytes ++ b⟩ = (.ok version, ⟨2, b⟩) :=
    Reads.number (by decide : version < Bytes.capacity 2) 0 b
  have hf (c : Cursor) : finish.runOn c =
      if c.rest = [] then (.ok (), c) else (.error (.trailing c.rest.length c.offset), c) := by
    rw [finish, runOn_bind, runOn_get]
    by_cases hc : c.rest = []
    · have hr : ¬ c.remaining ≠ 0 := not_not.2 (List.length_eq_zero_iff.2 hc)
      rw [if_pos hc]
      dsimp only
      rw [if_neg hr]
      rfl
    · have hr : c.remaining ≠ 0 := fun h => hc (List.length_eq_zero_iff.1 h)
      rw [if_neg hc]
      dsimp only
      rw [if_pos hr]
      rfl
  rw [value, Cursor.start, message, runOn_bind, hv]
  dsimp only
  rw [if_neg (not_not.2 rfl), runOn_bind]
  rcases body.runOn ⟨2, b⟩ with ⟨e | x, c⟩
  · rfl
  · dsimp only
    rw [runOn_bind, hf]
    by_cases hc : c.rest = []
    · rw [if_pos hc, if_pos hc]
      rfl
    · rw [if_neg hc, if_neg hc]

lemma value_message_short (h : data.length < 2) :
    (message body).value data = .error (.short 2 0 data.length) := by
  have hr : ¬ 2 ≤ (⟨0, data⟩ : Cursor).remaining := Nat.not_le.2 h
  have hv : (number 2).runOn ⟨0, data⟩ = (.error (.short 2 0 data.length), ⟨0, data⟩) := by
    rw [number, map_eq_pure_bind, runOn_bind, runOn_take, if_neg hr]
    rfl
  rw [value, Cursor.start, message, runOn_bind, hv]

lemma value_message_eq_ok : (message body).value data = .ok x ↔
    ∃ b offset, versionBytes ++ b = data ∧ body.runOn ⟨2, b⟩ = (.ok x, ⟨offset, []⟩) := by
  constructor
  · intro h
    obtain ⟨d, _, _, rfl, _⟩ := value_message_ok h
    rw [value_message] at h
    split at h
    · rename_i y c hy
      split at h
      · rename_i hc
        obtain rfl := Except.ok.inj h
        exact ⟨d.rest, c.offset, rfl, by rw [hy, ← hc]⟩
      · cases h
    · cases h
  · rintro ⟨b, offset, rfl, hb⟩
    rw [value_message, hb]
    rfl

lemma message_isolated (hb : body.Extends body) (h : (message body).value data = .ok x) :
    Isolated (message body).value data := by
  obtain ⟨b, offset, rfl, hr⟩ := value_message_eq_ok.1 h
  have hlen : (versionBytes ++ b).length = 2 + b.length := List.length_append
  refine ⟨fun n hn => ?_, fun more hm => ?_⟩
  · by_cases h2 : n < 2
    · have ht : ((versionBytes ++ b).take n).length = n := List.length_take_of_le (Nat.le_of_lt hn)
      exact ⟨.short 2 0 _, trivial, value_message_short (ht.symm ▸ h2)⟩
    · obtain ⟨k, rfl⟩ : ∃ k, n = versionBytes.length + k := ⟨n - 2, (Nat.add_sub_of_le (Nat.not_lt.1 h2)).symm⟩
      have hd : b.drop k ≠ [] := by
        rw [hlen, show versionBytes.length = 2 from rfl] at hn
        exact List.drop_eq_nil_iff.not.2 (by omega)
      rw [List.take_length_add_append, value_message]
      -- What follows the cut would be left over, so the value cannot have been read without it.
      cases hk : body.runOn ⟨2, b.take k⟩ with
      | mk y c =>
        cases y with
        | ok y =>
          have hk := hb.ok (b.drop k) hk
          rw [List.take_append_drop, hr] at hk
          have hnil := congrArg (fun p => p.2.rest) hk
          exact (hd (List.append_eq_nil_iff.1 hnil.symm).2).elim
        | error e =>
          rcases hb.error (b.drop k) hk with hs | he
          · exact ⟨e, hs, rfl⟩
          · rw [List.take_append_drop, hr] at he
            cases he
  · have hoff : offset = 2 + b.length := hb.balance hr
    rw [List.append_assoc, value_message, hb.ok more hr]
    dsimp only [List.nil_append]
    rw [if_neg hm, hlen, hoff]

end Reader

namespace Codec

variable {data : Bytes} {k : Kind} {t : RecordType} {v : Value} {r : Value × List Value}

lemma unmarshal_isolated (h : c.unmarshal data k = .ok v) : Isolated (c.unmarshal · k) data :=
  message_isolated (readTagged_extends k) h

lemma unmarshalStruct_isolated (h : c.unmarshalStruct data t = .ok v) : Isolated (c.unmarshalStruct · t) data :=
  message_isolated (t.read_extends readTagged_extends) h

lemma unmarshalSigned_isolated (h : c.unmarshalSigned data = .ok r) : Isolated c.unmarshalSigned data :=
  message_isolated readSigned_extends h

lemma not_unmarshalSigned_of_unmarshal (h : c.unmarshal data .unsignedTx = .ok v) : c.unmarshalSigned data ≠ .ok r := by
  intro hs
  obtain ⟨b, offset, rfl, hb⟩ := value_message_eq_ok.1 h
  obtain ⟨b', _, he, hb'⟩ := value_message_eq_ok.1 hs
  obtain rfl := List.append_cancel_left he
  rw [readSigned] at hb'
  obtain ⟨_, d, hu, hb'⟩ := runOn_bind_ok.1 hb'
  obtain ⟨_, _, hl, _⟩ := runOn_bind_ok.1 hb'
  rw [hb] at hu
  cases hu
  obtain ⟨_, _, hl⟩ := runOn_length_ok hl
  have hlen := congrArg List.length hl
  rw [List.length_append, Bytes.length_ofNat, List.length_nil] at hlen
  omega

end Codec

end Countersign.Wire

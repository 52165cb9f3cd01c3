import Countersign.Proofs.Wire.Nesting
import Mathlib.Data.Nat.Find

/-! What becomes of a reading on a stack that has room for so many values in each other. It ends as it would without
that bound, unless it is given up; what would be read is read if it nests no deeper than that. -/

namespace Countersign.Wire

open Reader

variable {α β : Type} {room depth : Nat} {data : Bytes}

/-- The reading goes that deep: with room for that it ends as it does without a bound, and with less it is given up. -/
structure Reaches {ε : Type} (stop : ε) (depth : Nat) (x : Except ε α) (xIn : Nat → Except ε α) : Prop where
  read : ∀ room, depth ≤ room → xIn room = x
  given_up : ∀ room < depth, xIn room = .error stop

/-- So deep the data allow, of which every level takes four bytes. -/
def Gauged (data : Bytes) (x : Except Fault α) (xIn : Nat → Except Fault α) : Prop :=
  ∃ depth, 4 * depth ≤ data.length + 2 ∧ Reaches .noRoom depth x xIn

namespace Reaches

variable {ε ε' : Type} {stop : ε} {stop' : ε'} {x : Except ε α} {xIn : Nat → Except ε α}

lemma through (g : Except ε α → Except ε' β) (hg : g (.error stop) = .error stop') (h : Reaches stop depth x xIn) :
    Reaches stop' depth (g x) fun room => g (xIn room) where
  read room hr := congrArg g (h.read room hr)
  given_up room hr := (congrArg g (h.given_up room hr)).trans hg

lemma ne_iff (h : Reaches stop depth x xIn) (hx : x ≠ .error stop) : xIn room ≠ .error stop ↔ depth ≤ room := by
  constructor
  · intro hr
    by_contra hd
    exact hr (h.given_up room (Nat.lt_of_not_le hd))
  · intro hd
    rwa [h.read room hd]

lemma eq_iff (h : Reaches stop depth x xIn) (hx : x ≠ .error stop) : xIn room = x ↔ depth ≤ room :=
  ⟨fun hr => (h.ne_iff hx).1 (hr ▸ hx), h.read room⟩

/-- What ends one reading ends all. -/
lemma mapM {f : α → β} {g : Nat → α → Except ε β} {depth : α → Nat}
    (h : ∀ a, Reaches stop (depth a) (.ok (f a)) (g · a)) (as : List α) :
    Reaches stop ((as.map depth).foldr max 0) (.ok (as.map f)) (as.mapM <| g ·) := by
  induction as with
  | nil => exact ⟨fun _ _ => rfl, fun _ hr => absurd hr (Nat.not_lt_zero _)⟩
  | cons a as ih =>
    rw [List.map_cons, List.foldr_cons, List.map_cons]
    constructor
    · intro room hr
      rw [List.mapM_cons, (h a).read room (by omega), ih.read room (by omega)]
      rfl
    · intro room hr
      rw [List.mapM_cons]
      by_cases ha : room < depth a
      · rw [(h a).given_up room ha, error_bind]
      · rw [(h a).read room (by omega), ih.given_up room (by omega)]
        rfl

end Reaches

lemma attempt_eq_ok {x : Except Fault α} (hx : x ≠ .error .noRoom) : attempt x = .ok x.toOption := by
  cases x with
  | ok a => rfl
  | error e => cases e <;> first | rfl | exact (hx rfl).elim

/-- Where no room is too much, and there is enough at last, there is a least one that is enough. -/
lemma gauged_of_mono {x : Except Fault α} {xIn : Nat → Except Fault α} (hx : x ≠ .error .noRoom)
    (hf : ∀ room, xIn room = x ∨ 4 * room + 2 ≤ data.length ∧ xIn room = .error .noRoom)
    (hm : ∀ room, xIn room = xIn (room + 1) ∨ xIn room = .error .noRoom) : Gauged data x xIn := by
  classical
  have henough : ∃ room, xIn room ≠ .error .noRoom := by
    refine ⟨data.length, ?_⟩
    rwa [(hf data.length).resolve_right fun ⟨hl, _⟩ => by omega]
  have hleast (room : Nat) (hr : room < Nat.find henough) : xIn room = .error .noRoom := by
    simpa using Nat.find_min henough hr
  refine ⟨Nat.find henough, ?_, fun room hr => ?_, hleast⟩
  · cases hd : Nat.find henough with
    | zero => omega
    | succ d =>
      obtain he | ⟨hl, _⟩ := hf d
      · exact absurd (he.symm.trans (hleast d (by omega))) hx
      · omega
  · have hne : xIn room ≠ .error .noRoom := by
      induction room, hr using Nat.le_induction with
      | base => exact Nat.find_spec henough
      | succ room _ ih => rwa [← (hm room).resolve_right ih]
    exact (hf room).resolve_right fun ⟨_, he⟩ => hne he

namespace Reader

structure KeptAt (room depth : Nat) (x : α) (d : Cursor) (result : Except Fault α × Cursor) : Prop where
  read : depth ≤ room → result = (.ok x, d)
  given_up : room < depth → result.1 = .error .noRoom

namespace KeptAt

variable {r : Reader α} {f : α → Reader β} {x : α} {y : β} {m n : Nat} {here d d' : Cursor}

protected lemma refl (h : r.runOn here = (.ok x, d)) : KeptAt room 0 x d (r.runOn here) :=
  ⟨fun _ => h, fun hn => absurd hn (Nat.not_lt_zero _)⟩

protected lemma bind (h : KeptAt room m x d (r.runOn here)) (hf : KeptAt room n y d' ((f x).runOn d)) :
    KeptAt room (max m n) y d' ((r >>= f).runOn here) := by
  rw [runOn_bind]
  constructor
  · intro hl
    rw [h.read (by omega)]
    exact hf.read (by omega)
  · intro hl
    by_cases hm : m ≤ room
    · rw [h.read hm]
      exact hf.given_up (by omega)
    · have hr : r.runOn here = (.error .noRoom, (r.runOn here).2) := Prod.ext (h.given_up (by omega)) rfl
      rw [hr]

protected lemma last (h : KeptAt room m x d (r.runOn here)) (hf : (f x).runOn d = (.ok y, d')) :
    KeptAt room m y d' ((r >>= f).runOn here) := by
  have hb := h.bind (.refl hf : KeptAt room 0 y d' ((f x).runOn d))
  rwa [Nat.max_zero] at hb

protected lemma first (h : r.runOn here = (.ok x, d)) (hf : KeptAt room n y d' ((f x).runOn d)) :
    KeptAt room n y d' ((r >>= f).runOn here) := by
  have hb := (KeptAt.refl h : KeptAt room 0 x d (r.runOn here)).bind hf
  rwa [Nat.zero_max] at hb

end KeptAt

end Reader

variable {c : Codec} {nested : Kind → Reader Value} {vs : List Value} {here d : Cursor}

def HasRoom (c : Codec) (room : Nat) (nested : Kind → Reader Value) : Prop :=
  ∀ k here v d, (c.readTagged k).runOn here = (.ok v, d) →
    KeptAt room (v.nesting (.interface k)) v d ((nested k).runOn here)

lemma Reader.many_kept {l : Layout} (hl : ∀ {here v d}, (l.read c.readTagged).runOn here = (.ok v, d) →
      KeptAt room (v.nesting l) v d ((l.read nested).runOn here)) {n : Nat}
    (h : (many (l.read c.readTagged) n).runOn here = (.ok vs, d)) :
    KeptAt room (Value.nestingAll l vs) vs d ((many (l.read nested) n).runOn here) := by
  induction n generalizing here d vs with
  | zero =>
    obtain ⟨rfl, rfl⟩ := runOn_pure_ok h
    exact .refl rfl
  | succ n ih =>
    obtain ⟨v, d₁, hv, h⟩ := runOn_bind_ok.1 h
    obtain ⟨vs', d₂, hvs, h⟩ := runOn_bind_ok.1 h
    obtain ⟨rfl, rfl⟩ := runOn_pure_ok h
    rw [Value.nestingAll]
    exact (hl hv).bind ((ih hvs).last rfl)

mutual

theorem Layout.read_kept (hn : HasRoom c room nested) : ∀ (l : Layout) {here v d},
    (l.read c.readTagged).runOn here = (.ok v, d) → KeptAt room (v.nesting l) v d ((l.read nested).runOn here)
  | .scalar f, here, v, d, h => by
    rw [Layout.read] at h ⊢
    obtain ⟨s, _, _, h'⟩ := runOn_bind_ok.1 h
    obtain ⟨rfl, _⟩ := runOn_pure_ok h'
    rw [show (Value.scalar s).nesting (.scalar f) = 0 by simp [Value.nesting]]
    exact .refl h
  | .slice l, here, v, d, h => by
    rw [Layout.read] at h ⊢
    obtain ⟨n, after, hn', h⟩ := runOn_bind_ok.1 h
    obtain ⟨vs, d', hvs, h⟩ := runOn_bind_ok.1 h
    obtain ⟨rfl, rfl⟩ := runOn_pure_ok h
    rw [Value.nesting]
    exact .first hn' ((many_kept (fun h => l.read_kept hn h) hvs).last rfl)
  | .struct ⟨s, n, ks, fs⟩, here, v, d, h => by
    rw [Layout.read, RecordType.read] at h ⊢
    obtain ⟨vs, d', hvs, h⟩ := runOn_bind_ok.1 h
    obtain ⟨rfl, rfl⟩ := runOn_pure_ok h
    rw [Value.nesting]
    exact (readFields_kept hn fs hvs).last rfl
  | .interface k, here, v, d, h => by
    rw [Layout.read] at h ⊢
    exact hn k here v d h

theorem readFields_kept (hn : HasRoom c room nested) : ∀ (fs : List (String × Layout)) {here vs d},
    (readFields c.readTagged fs).runOn here = (.ok vs, d) →
      KeptAt room (Value.nestingFields (fs.map (·.2)) vs) vs d ((readFields nested fs).runOn here)
  | [], here, vs, d, h => by
    rw [readFields] at h ⊢
    obtain ⟨rfl, rfl⟩ := runOn_pure_ok h
    exact .refl rfl
  | (_, l) :: fs, here, vs, d, h => by
    rw [readFields] at h ⊢
    obtain ⟨v, d₁, hv, h⟩ := runOn_bind_ok.1 h
    obtain ⟨vs', d₂, hvs, h⟩ := runOn_bind_ok.1 h
    obtain ⟨rfl, rfl⟩ := runOn_pure_ok h
    rw [List.map_cons, Value.nestingFields]
    exact (l.read_kept hn hv).bind ((readFields_kept hn fs hvs).last rfl)

end

namespace Codec

lemma readIn_hasRoom (c : Codec) (room : Nat) : HasRoom c room (c.readIn room) := by
  induction room with
  | zero =>
    intro k here v d h
    obtain ⟨id, t, after, _, _, h⟩ := readTagged_eq_ok.1 h
    obtain ⟨vs, rfl, _⟩ := RecordType.fields_of_read h
    rw [Value.nesting]
    exact ⟨fun hl => by omega, fun _ => rfl⟩
  | succ room ih =>
    intro k here v d h
    obtain ⟨id, t, after, hid, ht, h⟩ := readTagged_eq_ok.1 h
    have hk := (Layout.struct t).read_kept ih (by rwa [Layout.read])
    obtain ⟨vs, rfl, _⟩ := RecordType.fields_of_read h
    rw [Layout.read, Value.nesting] at hk
    rw [Value.nesting, readIn, readOver]
    refine .first hid ?_
    rw [ht]
    exact ⟨fun hl => hk.read (by omega), fun hl => hk.given_up (by omega)⟩

lemma readIn_eq_iterate (c : Codec) (room : Nat) : c.readIn room = c.readOver^[room] fun _ => throw .noRoom := by
  induction room with
  | zero => rfl
  | succ room ih =>
    rw [Function.iterate_succ_apply', ← ih]
    rfl

lemma readIn_matches (room : Nat) (k : Kind) :
    (c.readTagged k).Matches true (some .noRoom) (4 * room) (c.readIn room k) := by
  rw [readIn_eq_iterate]
  refine readTagged_matches (fun k here e he => ?_) room k
  obtain rfl := Option.some.inj he
  rfl

lemma readIn_tame (room : Nat) (k : Kind) : (c.readIn room k).Tame false := by
  induction room generalizing k with
  | zero => exact ⟨fun _ => Nat.le_refl _, nofun⟩
  | succ room ih => exact (readOver_matches (fun k => .refl (ih k)) k : Matches false none (0 + 4) _ _).tame

lemma readIn_succ_matches (room : Nat) (k : Kind) :
    (c.readIn (room + 1) k).Matches false (some .noRoom) 0 (c.readIn room k) := by
  induction room generalizing k with
  | zero =>
    refine ⟨fun here => .inr ⟨Nat.zero_le _, fun e he => ?_⟩, readIn_tame 1 k⟩
    obtain rfl := Option.some.inj he
    rfl
  | succ room ih => exact (readOver_matches ih k).mono (Nat.zero_le _)

/-! ### Whole messages -/

variable {body body' : Reader α} {bodyIn : Nat → Reader α} {x : α}

lemma gauged_of_matches (h : ∀ room, body.Matches true (some .noRoom) (4 * room) (bodyIn room))
    (hs : ∀ room, (bodyIn (room + 1)).Matches false (some .noRoom) 0 (bodyIn room)) :
    Gauged data ((message body).value data) fun room => (message (bodyIn room)).value data := by
  refine gauged_of_mono ((h 0).message.tame.roomy rfl _) (fun room => ?_) fun room => ?_
  · exact ((h room).message.same (.start data)).imp (congrArg Prod.fst) fun ⟨hl, hd⟩ => ⟨hl, hd _ rfl⟩
  · exact ((hs room).message.same (.start data)).imp (congrArg Prod.fst) fun ⟨_, hd⟩ => hd _ rfl

lemma reaches_of_value (h : (message body).value data = .ok x) (hk : ∀ {room here d},
    body.runOn here = (.ok x, d) → KeptAt room depth x d ((bodyIn room).runOn here)) :
    Reaches .noRoom depth (.ok x) fun room => (message (bodyIn room)).value data := by
  obtain ⟨b, offset, rfl, hr⟩ := value_message_eq_ok.1 h
  refine ⟨fun room hl => value_message_eq_ok.2 ⟨b, offset, rfl, (hk hr).read hl⟩, fun room hl => ?_⟩
  have hd : (bodyIn room).runOn ⟨2, b⟩ = (.error .noRoom, ((bodyIn room).runOn ⟨2, b⟩).2) :=
    Prod.ext ((hk hr).given_up hl) rfl
  rw [value_message, hd]

def signedNesting (unsigned : Value) (creds : List Value) : Nat :=
  max (unsigned.nesting (.interface .unsignedTx)) (Value.nestingAll (.interface .credential) creds)

lemma readSigned_kept {unsigned : Value} {creds : List Value}
    (h : c.readSigned.runOn here = (.ok (unsigned, creds), d)) :
    KeptAt room (signedNesting unsigned creds) (unsigned, creds) d ((readSignedOver (c.readIn room)).runOn here) := by
  obtain ⟨v, d₁, hv, h⟩ := runOn_bind_ok.1 h
  obtain ⟨n, d₂, hn, h⟩ := runOn_bind_ok.1 h
  obtain ⟨vs, d₃, hvs, h⟩ := runOn_bind_ok.1 h
  obtain ⟨⟨rfl, rfl⟩, rfl⟩ := runOn_pure_ok h
  have hcreds := many_kept (l := .interface .credential) (fun h => (c.readIn_hasRoom room) _ _ _ _ h) hvs
  exact (c.readIn_hasRoom room _ _ _ _ hv).bind (.first hn (hcreds.last rfl))

/-- What becomes of the three kinds of messages on a stack. A value goes as deep as its parts are nested. -/
structure Stacked (c : Codec) (data : Bytes) : Prop where
  tagged : ∀ k, Gauged data (c.unmarshal data k) (c.unmarshalIn · data k)
  bare : ∀ t, Gauged data (c.unmarshalStruct data t) (c.unmarshalStructIn · data t)
  signed : Gauged data (c.unmarshalSigned data) (c.unmarshalSignedIn · data)
  tagged_value : ∀ k v, c.unmarshal data k = .ok v →
    Reaches .noRoom (v.nesting (.interface k)) (.ok v) (c.unmarshalIn · data k)
  bare_value : ∀ t v, c.unmarshalStruct data t = .ok v →
    Reaches .noRoom (v.nesting (.struct t)) (.ok v) (c.unmarshalStructIn · data t)
  signed_value : ∀ unsigned creds, c.unmarshalSigned data = .ok (unsigned, creds) →
    Reaches .noRoom (signedNesting unsigned creds) (.ok (unsigned, creds)) (c.unmarshalSignedIn · data)

lemma stacked (c : Codec) (data : Bytes) : c.Stacked data where
  tagged k := gauged_of_matches (fun room => readIn_matches room k) fun room => readIn_succ_matches room k
  bare t := gauged_of_matches (fun room => t.read_matches (readIn_matches room)) fun room =>
    t.read_matches (readIn_succ_matches room)
  signed := gauged_of_matches (fun room => readSignedOver_matches (readIn_matches room)) fun room =>
    readSignedOver_matches (readIn_succ_matches room)
  tagged_value k _ h := reaches_of_value h fun {room _ _} h => c.readIn_hasRoom room k _ _ _ h
  bare_value t v h := reaches_of_value h fun {room _ _} h => by
    have hk := (Layout.struct t).read_kept (c.readIn_hasRoom room) (by rwa [Layout.read])
    rwa [Layout.read] at hk
  signed_value _ _ h := reaches_of_value h readSigned_kept

structure Roomy (c : Codec) (data : Bytes) : Prop where
  tagged : ∀ k, c.unmarshal data k ≠ .error .noRoom
  bare : ∀ t, c.unmarshalStruct data t ≠ .error .noRoom
  signed : c.unmarshalSigned data ≠ .error .noRoom

lemma roomy (c : Codec) (data : Bytes) : c.Roomy data where
  tagged k := (c.readTagged_tame k).message.roomy rfl _
  bare t := (t.read_tame c.readTagged_tame).message.roomy rfl _
  signed := (readSignedOver_tame c.readTagged_tame).message.roomy rfl _

end Codec

end Countersign.Wire

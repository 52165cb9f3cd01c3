import Countersign.Proofs.Wire.Truncation
import Countersign.Wire.Primitive

namespace Countersign.Wire

namespace Cursor

variable {data b tail : Bytes} {c : Cursor} {n : Nat}

structure On (data : Bytes) (c : Cursor) : Prop where
  inside : c.offset ≤ data.length
  rest : c.rest = data.drop c.offset

lemma start_on (data : Bytes) : (start data).On data := ⟨Nat.zero_le _, rfl⟩

lemma On.remaining (h : c.On data) : c.remaining = data.length - c.offset := by
  rw [Cursor.remaining, h.rest, List.length_drop]

lemma On.advance (h : c.On data) (hn : n ≤ c.remaining) : (c.advance n).On data := by
  have hi := h.inside
  rw [h.remaining] at hn
  refine ⟨?_, ?_⟩
  · show c.offset + n ≤ data.length
    omega
  · show c.rest.drop n = data.drop (c.offset + n)
    rw [h.rest, List.drop_drop]

lemma On.extract (h : c.On data) (hb : c.rest = b ++ tail) :
    data.extract c.offset (c.advance b.length).offset = b := by
  rw [h.rest] at hb
  simp [Cursor.advance, hb]

lemma advance_eq (h : c.rest = b ++ tail) : c.advance b.length = ⟨c.offset + b.length, tail⟩ := by
  simp [advance, h]

lemma eq_advance {d : Cursor} (hr : c.rest = b ++ d.rest)
    (hd : d.offset + d.rest.length = c.offset + c.rest.length) : d = c.advance b.length := by
  obtain ⟨offset, rest⟩ := d
  rw [advance_eq hr]
  simp only [hr, List.length_append] at hd
  simp only [mk.injEq, and_true]
  omega

lemma advance_advance (c : Cursor) (m n : Nat) : (c.advance m).advance n = c.advance (m + n) := by
  simp [advance, Nat.add_assoc]

end Cursor

namespace Reader

variable {α β : Type} {r : Reader α} {f : α → Reader β} {c d : Cursor} {e : Fault} {b : Bytes} {n size : Nat}

lemma runOn_bind_eq_error : (r >>= f).runOn c = (.error e, d) ↔
    r.runOn c = (.error e, d) ∨ ∃ x c', r.runOn c = (.ok x, c') ∧ (f x).runOn c' = (.error e, d) := by
  rw [runOn_bind]
  rcases r.runOn c with ⟨_ | x, c'⟩ <;> simp

lemma runOn_map_eq_error {g : α → β} :
    (do return g (← r) : Reader β).runOn c = (.error e, d) ↔ r.runOn c = (.error e, d) := by
  rw [runOn_bind_eq_error]
  simp [runOn_pure]

lemma runOn_take_eq_ok : (take n).runOn c = (.ok b, d) ↔
    b.length = n ∧ c.rest = b ++ d.rest ∧ d = c.advance n := by
  rw [runOn_take]
  constructor
  · intro h
    split at h
    · rename_i hn
      obtain ⟨rfl, rfl⟩ := by simpa using h
      exact ⟨List.length_take_of_le hn, (List.take_append_drop n c.rest).symm, rfl⟩
    · cases h
  · rintro ⟨rfl, hr, rfl⟩
    have hn : b.length ≤ c.remaining := by rw [Cursor.remaining, hr]; simp
    have ht : c.rest.take b.length = b := by rw [hr, List.take_left]
    rw [if_pos hn, ht]

lemma runOn_take_eq_error : (take n).runOn c = (.error e, d) ↔
    c.remaining < n ∧ .short n c.offset c.remaining = e ∧ c = d := by
  rw [runOn_take]
  split
  · simp only [Prod.mk.injEq, reduceCtorEq, false_and, false_iff]
    omega
  · simp_all

lemma runOn_number_eq_ok : (number size).runOn c = (.ok n, d) ↔
    ∃ b, b.length = size ∧ Bytes.toNat b = n ∧ c.rest = b ++ d.rest ∧ d = c.advance size := by
  rw [number, map_eq_pure_bind, runOn_bind_ok]
  simp only [runOn_take_eq_ok, runOn_pure, Prod.mk.injEq, Except.ok.injEq]
  grind

lemma runOn_number_eq_error : (number size).runOn c = (.error e, d) ↔
    c.remaining < size ∧ .short size c.offset c.remaining = e ∧ c = d := by
  rw [number, map_eq_pure_bind, runOn_map_eq_error, runOn_take_eq_error]

lemma runOn_number_append {front : Bytes} (hf : front.length = size) (offset : Nat) (tail : Bytes) :
    (number size).runOn ⟨offset, front ++ tail⟩ = (.ok (Bytes.toNat front), ⟨offset + size, tail⟩) := by
  subst hf
  exact (Reads.take front).map Bytes.toNat offset tail

lemma runOn_length_eq_error : length.runOn c = (.error e, d) ↔
    (c.remaining < 4 ∧ .short 4 c.offset c.remaining = e ∧ c = d) ∨
    ∃ front tail, front.length = 4 ∧ c.rest = front ++ tail ∧
      (maxLength < Bytes.toNat front ∨ tail.length < Bytes.toNat front) ∧
      .lengthBeyond (Bytes.toNat front) tail.length = e ∧ d = c.advance 4 := by
  rw [length, runOn_bind_eq_error, runOn_number_eq_error]
  apply or_congr Iff.rfl
  constructor
  · rintro ⟨n, c', hn, h⟩
    obtain ⟨front, hf, rfl, hr, rfl⟩ := runOn_number_eq_ok.1 hn
    rw [runOn_bind, runOn_get] at h
    dsimp only at h
    split at h
    · rename_i hg
      obtain ⟨rfl, rfl⟩ := by simpa [runOn_bind, runOn_throw] using h
      exact ⟨front, _, hf, hr, hg, rfl, rfl⟩
    · simp [runOn_pure] at h
  · rintro ⟨front, tail, hf, hr, hg, rfl, rfl⟩
    have ha := Cursor.advance_eq hr
    rw [hf] at ha
    refine ⟨_, _, runOn_number_eq_ok.2 ⟨front, hf, rfl, by rw [ha]; exact hr, rfl⟩, ?_⟩
    rw [runOn_bind, runOn_get, ha]
    dsimp only
    rw [if_pos (show maxLength < _ ∨ Cursor.remaining _ < _ from hg)]
    rfl

lemma runOn_finish_eq_ok {u : Unit} : finish.runOn c = (.ok u, d) ↔ c.rest = [] ∧ c = d := by
  rw [finish, runOn_bind, runOn_get]
  dsimp only
  split <;> simp_all [Cursor.remaining, runOn_throw, runOn_pure]

lemma runOn_finish_eq_error : finish.runOn c = (.error e, d) ↔
    c.rest ≠ [] ∧ .trailing c.remaining c.offset = e ∧ c = d := by
  rw [finish, runOn_bind, runOn_get]
  dsimp only
  split <;> simp_all [Cursor.remaining, runOn_throw, runOn_pure]

end Reader

namespace Reading

open Reader

def head : Reading → Nat
  | scalar (.uint w) => w.size
  | scalar .bool => 1
  | scalar .text => 2
  | scalar .bytes => 4
  | scalar (.fixed size) => size
  | length => 4
  | finish => 0

/-- How a reading fails where these bytes are left, and how many of them it has consumed by then. -/
inductive Fails (offset : Nat) (rest : Bytes) : Reading → Fault → Nat → Prop
  | short (r : Reading) : rest.length < r.head → Fails offset rest r (.short r.head offset rest.length) 0
  | trailing : rest ≠ [] → Fails offset rest finish (.trailing rest.length offset) 0
  | badBool {front tail : Bytes} : rest = front ++ tail → front.length = 1 → 1 < Bytes.toNat front →
      Fails offset rest (scalar .bool) (.badBool (Bytes.toNat front)) 1
  | lengthBeyond {r : Reading} {front tail : Bytes} : r = scalar .bytes ∨ r = length →
      rest = front ++ tail → front.length = 4 →
      maxLength < Bytes.toNat front ∨ tail.length < Bytes.toNat front →
      Fails offset rest r (.lengthBeyond (Bytes.toNat front) tail.length) 4
  | shortText {front tail : Bytes} : rest = front ++ tail → front.length = 2 → tail.length < Bytes.toNat front →
      Fails offset rest (scalar .text) (.short (Bytes.toNat front) (offset + 2) tail.length) 2
  | notUtf8 {front body tail : Bytes} : rest = front ++ (body ++ tail) → front.length = 2 →
      body.length = Bytes.toNat front → utf8? body = none →
      Fails offset rest (scalar .text) .notUtf8 (2 + body.length)

variable {offset n : Nat} {rest : Bytes} {r : Reading} {e : Fault} {c d : Cursor} {v : Option Scalar}

lemma Fails.le_length (h : Fails offset rest r e n) : n ≤ rest.length := by
  cases h <;> simp_all

lemma fails_of_runOn_form {f : Form} (h : f.read.runOn c = (.error e, d)) :
    ∃ n, Fails c.offset c.rest (scalar f) e n ∧ d = c.advance n := by
  cases f with
  | uint w =>
    rw [Form.read, runOn_map_eq_error, runOn_number_eq_error] at h
    obtain ⟨hr, rfl, rfl⟩ := h
    exact ⟨0, .short (scalar (.uint w)) hr, rfl⟩
  | bool =>
    rw [Form.read, runOn_bind_eq_error, runOn_number_eq_error] at h
    obtain ⟨hr, rfl, rfl⟩ | ⟨_, _, hn, h⟩ := h
    · exact ⟨0, .short (scalar .bool) hr, rfl⟩
    · obtain ⟨front, hf, rfl, hr, rfl⟩ := runOn_number_eq_ok.1 hn
      split at h
      · rename_i hb
        obtain ⟨rfl, rfl⟩ := by simpa [runOn_bind, runOn_throw] using h
        exact ⟨1, .badBool hr hf hb, rfl⟩
      · cases h
  | text =>
    rw [Form.read, runOn_bind_eq_error, runOn_number_eq_error] at h
    obtain ⟨hr, rfl, rfl⟩ | ⟨_, _, hn, h⟩ := h
    · exact ⟨0, .short (scalar .text) hr, rfl⟩
    · obtain ⟨front, hf, rfl, hr, rfl⟩ := runOn_number_eq_ok.1 hn
      rw [runOn_bind_eq_error, runOn_take_eq_error] at h
      obtain ⟨ht, rfl, rfl⟩ | ⟨body, _, hb, h⟩ := h
      · exact ⟨2, .shortText hr hf ht, rfl⟩
      · obtain ⟨hl, hr', rfl⟩ := runOn_take_eq_ok.1 hb
        rw [hr'] at hr
        split at h
        · cases h
        · rename_i hu
          cases h
          exact ⟨2 + body.length, .notUtf8 hr hf hl hu, by rw [hl, Cursor.advance_advance]⟩
  | bytes =>
    rw [Form.read, runOn_bind_eq_error, runOn_length_eq_error] at h
    obtain (⟨hr, rfl, rfl⟩ | ⟨front, tail, hf, hr, hg, rfl, rfl⟩) | ⟨n, c', hn, h⟩ := h
    · exact ⟨0, .short (scalar .bytes) hr, rfl⟩
    · exact ⟨4, .lengthBeyond (.inl rfl) hr hf hg, rfl⟩
    · -- A length that is read is not beyond what is left, so the bytes are there.
      rw [runOn_map_eq_error, runOn_take_eq_error] at h
      exact absurd (runOn_length_ok hn).2.1 (Nat.not_le.2 h.1)
  | fixed size =>
    rw [Form.read, runOn_map_eq_error, runOn_take_eq_error] at h
    obtain ⟨hr, rfl, rfl⟩ := h
    exact ⟨0, .short (scalar (.fixed size)) hr, rfl⟩

lemma runOn_form_of_fails {f : Form} (h : Fails c.offset c.rest (scalar f) e n) :
    f.read.runOn c = (.error e, c.advance n) := by
  obtain ⟨offset, rest⟩ := c
  cases h with
  | short _ hr =>
    cases f with
    | uint w => exact runOn_map_eq_error.2 (runOn_number_eq_error.2 ⟨hr, rfl, rfl⟩)
    | bool => exact runOn_bind_eq_error.2 (.inl (runOn_number_eq_error.2 ⟨hr, rfl, rfl⟩))
    | text => exact runOn_bind_eq_error.2 (.inl (runOn_number_eq_error.2 ⟨hr, rfl, rfl⟩))
    | bytes => exact runOn_bind_eq_error.2 (.inl (runOn_length_eq_error.2 (.inl ⟨hr, rfl, rfl⟩)))
    | fixed size => exact runOn_map_eq_error.2 (runOn_take_eq_error.2 ⟨hr, rfl, rfl⟩)
  | badBool hr hf hb =>
    obtain rfl := hr
    refine runOn_bind_eq_error.2 (.inr ⟨_, _, runOn_number_append hf offset _, ?_⟩)
    rw [if_pos hb, ← hf, Cursor.advance_eq rfl]
    rfl
  | lengthBeyond hl hr hf hg =>
    obtain ⟨⟨⟩⟩ | ⟨⟨⟩⟩ := hl
    exact runOn_bind_eq_error.2 (.inl (runOn_length_eq_error.2 (.inr ⟨_, _, hf, hr, hg, rfl, rfl⟩)))
  | shortText hr hf ht =>
    obtain rfl := hr
    refine runOn_bind_eq_error.2 (.inr ⟨_, _, runOn_number_append hf offset _, ?_⟩)
    refine runOn_bind_eq_error.2 (.inl (runOn_take_eq_error.2 ⟨ht, rfl, ?_⟩))
    rw [← hf, Cursor.advance_eq rfl]
  | notUtf8 hr hf hb hu =>
    obtain rfl := hr
    refine runOn_bind_eq_error.2 (.inr ⟨_, _, runOn_number_append hf offset _, ?_⟩)
    rw [← hb, runOn_bind, Reads.take]
    dsimp only
    rw [hu, runOn_throw]
    simp [Cursor.advance, ← hf, Nat.add_assoc]

lemma runOn_eq_error : r.reader.runOn c = (.error e, d) ↔
    ∃ n, Fails c.offset c.rest r e n ∧ d = c.advance n := by
  cases r with
  | scalar f =>
    rw [reader, runOn_map_eq_error]
    exact ⟨fails_of_runOn_form, by rintro ⟨n, h, rfl⟩; exact runOn_form_of_fails h⟩
  | length =>
    rw [reader, runOn_map_eq_error, runOn_length_eq_error]
    constructor
    · rintro (⟨hr, rfl, rfl⟩ | ⟨front, tail, hf, hr, hg, rfl, rfl⟩)
      · exact ⟨0, .short length hr, rfl⟩
      · exact ⟨4, .lengthBeyond (.inr rfl) hr hf hg, rfl⟩
    · rintro ⟨n, h, rfl⟩
      cases h with
      | short _ hr => exact .inl ⟨hr, rfl, rfl⟩
      | lengthBeyond _ hr hf hg => exact .inr ⟨_, _, hf, hr, hg, rfl, rfl⟩
  | finish =>
    rw [reader, runOn_map_eq_error, runOn_finish_eq_error]
    constructor
    · rintro ⟨hr, rfl, rfl⟩
      exact ⟨0, .trailing hr, rfl⟩
    · rintro ⟨n, h, rfl⟩
      cases h with
      | short _ hr => exact absurd hr (Nat.not_lt_zero _)
      | trailing hr => exact ⟨hr, rfl, rfl⟩
      | lengthBeyond hl => simp at hl

def Packs : Reading → Option Scalar → Bytes → Prop
  | scalar f, some s, b => f.write s = .ok b
  | length, some (.int n), b => writeLength n = .ok b
  | finish, none, b => b = []
  | _, _, _ => False

lemma packs_of_runOn (h : r.reader.runOn c = (.ok v, d)) :
    ∃ b tail, r.Packs v b ∧ c.rest = b ++ tail ∧ d = c.advance b.length := by
  cases r with
  | scalar f =>
    obtain ⟨s, d', hs, h⟩ := runOn_bind_ok.1 h
    obtain ⟨rfl, rfl⟩ := runOn_pure_ok h
    obtain ⟨b, hb, hr⟩ := f.read_canonical _ _ _ hs
    exact ⟨b, d.rest, hb, hr, Cursor.eq_advance hr (f.read_extends.balance hs)⟩
  | length =>
    obtain ⟨n, d', hn, h⟩ := runOn_bind_ok.1 h
    obtain ⟨rfl, rfl⟩ := runOn_pure_ok h
    obtain ⟨hm, _, hr⟩ := runOn_length_ok hn
    exact ⟨_, d.rest, writeLength_natCast.2 ⟨hm, rfl⟩, hr, Cursor.eq_advance hr (Extends.length.balance hn)⟩
  | finish =>
    obtain ⟨u, d', hu, h⟩ := runOn_bind_ok.1 h
    obtain ⟨rfl, rfl⟩ := runOn_pure_ok h
    obtain ⟨hr, rfl⟩ := runOn_finish_eq_ok.1 hu
    exact ⟨[], [], rfl, hr, rfl⟩

lemma exists_advance (r : Reading) (c : Cursor) : ∃ n ≤ c.remaining, (r.reader.runOn c).2 = c.advance n := by
  cases h : r.reader.runOn c with
  | mk result d =>
    cases result with
    | error e =>
      obtain ⟨n, hf, rfl⟩ := runOn_eq_error.1 h
      exact ⟨n, hf.le_length, rfl⟩
    | ok v =>
      obtain ⟨b, tail, _, hr, rfl⟩ := packs_of_runOn h
      exact ⟨b.length, by simp [Cursor.remaining, hr], rfl⟩

variable {data : Bytes} {rs : List Reading} {i : Nat}

structure Sound (data : Bytes) (r : Reading) (c : Cursor) (result : Except Fault (Option Scalar))
    (d : Cursor) : Prop where
  forward : c.offset ≤ d.offset
  value : ∀ v, result = .ok v → r.Packs v (data.extract c.offset d.offset)
  fault : ∀ e, result = .error e ↔
    ∃ n, Fails c.offset (data.drop c.offset) r e n ∧ d.offset = c.offset + n

lemma sound {result : Except Fault (Option Scalar)} (h : c.On data) (hr : r.reader.runOn c = (result, d)) :
    Sound data r c result d := by
  refine ⟨?_, ?_, fun e => ⟨?_, ?_⟩⟩
  · obtain ⟨n, _, hd⟩ := r.exists_advance c
    rw [hr] at hd
    obtain rfl := hd
    exact Nat.le_add_right _ _
  · rintro v rfl
    obtain ⟨b, tail, hp, hb, rfl⟩ := packs_of_runOn hr
    rwa [h.extract hb]
  · rintro rfl
    obtain ⟨n, hf, rfl⟩ := runOn_eq_error.1 hr
    rw [← h.rest]
    exact ⟨n, hf, rfl⟩
  · rintro ⟨n, hf, _⟩
    rw [← h.rest] at hf
    exact congrArg Prod.fst (hr.symm.trans (runOn_eq_error.2 ⟨n, hf, rfl⟩))

/-! ### Runs -/

def stop (c : Cursor) (rs : List Reading) : Cursor := rs.foldl (fun c r => (r.reader.runOn c).2) c

lemma stop_on (h : c.On data) (rs : List Reading) : (stop c rs).On data := by
  induction rs generalizing c with
  | nil => exact h
  | cons r rs ih =>
    obtain ⟨n, hn, ha⟩ := r.exists_advance c
    rw [stop, List.foldl_cons, ha]
    exact ih (h.advance hn)

lemma length_readAll (c : Cursor) (rs : List Reading) : (readAll c rs).length = rs.length := by
  induction rs generalizing c with
  | nil => rfl
  | cons r rs ih => simp [readAll, ih]

lemma getElem?_readAll (h : rs[i]? = some r) :
    (readAll c rs)[i]? = some (r.reader.runOn (stop c (rs.take i))) := by
  induction rs generalizing c i with
  | nil => simp at h
  | cons r' rs ih =>
    cases i with
    | zero =>
      obtain rfl := by simpa using h
      rfl
    | succ i => exact ih h

lemma stop_take_succ (h : rs[i]? = some r) :
    stop c (rs.take (i + 1)) = (r.reader.runOn (stop c (rs.take i))).2 := by
  simp [stop, List.take_add_one, h]

/-- The cursor stays in the data and never goes back, whichever readings fail. -/
theorem cursor_sound (data : Bytes) (rs : List Reading) :
    (readAll (.start data) rs).length = rs.length ∧
    (∀ i, (stop (.start data) (rs.take i)).On data ∧
      (stop (.start data) (rs.take i)).remaining = data.length - (stop (.start data) (rs.take i)).offset) ∧
    ∀ i r, rs[i]? = some r → ∃ result,
      (readAll (.start data) rs)[i]? = some (result, stop (.start data) (rs.take (i + 1))) ∧
      Sound data r (stop (.start data) (rs.take i)) result (stop (.start data) (rs.take (i + 1))) := by
  have hon (i : Nat) : (stop (.start data) (rs.take i)).On data := stop_on (Cursor.start_on data) _
  refine ⟨length_readAll _ rs, fun i => ⟨hon i, (hon i).remaining⟩, fun i r hi => ?_⟩
  have hd := stop_take_succ (c := .start data) hi
  refine ⟨(r.reader.runOn (stop (.start data) (rs.take i))).1, ?_, sound (hon i) (Prod.ext rfl hd.symm)⟩
  rw [getElem?_readAll hi, hd]

end Reading

end Countersign.Wire

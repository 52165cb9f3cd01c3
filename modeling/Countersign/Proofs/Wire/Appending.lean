import Countersign.Proofs.Wire.Cursor
import Mathlib.Algebra.Group.Int.Defs
import Mathlib.Algebra.Group.Nat.Defs

namespace Countersign.Wire

namespace Appender

def Adds (a : Appender) (x : Except Fault Bytes) : Prop :=
  ∀ written, (ExceptT.run a).run written =
    match x with
    | .ok b => (.ok (), written ++ b)
    | .error f => (.error f, written)

namespace Adds

variable {a : Appender} {x : Except Fault Bytes}

protected lemma throw (f : Fault) : Adds (throw f) (.error f) := fun _ => rfl

protected lemma put (b : Bytes) : Adds (put b) (.ok b) := fun _ => rfl

protected lemma lift (x : Except Fault Bytes) : Adds (do put (← x)) x := by
  intro written
  cases x <;> rfl

protected lemma prefixed (h : a.Adds x) (b : Bytes) :
    Adds (do a; put b) (do return (← x) ++ b) := by
  intro written
  rw [ExceptT.run_bind, StateT.run_bind, h]
  cases x with
  | error f => rfl
  | ok b' =>
    show (Except.ok (), written ++ b' ++ b) = (Except.ok (), written ++ (b' ++ b))
    rw [List.append_assoc]

end Adds

end Appender

namespace Writing

open Reader Appender

def bytes : Writing → Except Fault Bytes
  | scalar f s => f.write s
  | length n => writeLength n

def fits : Writing → Bool
  | scalar (.uint w) (.int n) => 0 ≤ n ∧ n < 2 ^ (8 * w.size)
  | scalar .bool (.bool _) => true
  | scalar .text (.text s) => (utf8 s).length < 65536
  | scalar .bytes (.bytes b) => b.length ≤ 2 ^ 31 - 1
  | scalar (.fixed size) (.bytes b) => b.length = size
  | scalar _ _ => false
  | length n => 0 ≤ n ∧ n ≤ 2 ^ 31 - 1

def reading : Writing → Reading
  | scalar f _ => .scalar f
  | length _ => .scalar (.uint .u32)

def value : Writing → Scalar
  | scalar _ s => s
  | length n => .int n

def after (written : Bytes) (ws : List Writing) : Bytes := ws.foldl (fun b w => (w.append b).2) written

def kept (ws : List Writing) : List Writing := ws.filter (·.fits)

variable {w : Writing} {ws : List Writing} {written b : Bytes} {e : Fault} {i : Nat}

lemma capacity_eq (size : Nat) : (Bytes.capacity size : Int) = 2 ^ (8 * size) := by
  rw [Int.pow_mul]
  exact Int.natCast_pow 256 size

lemma exists_writeNumber {size : Nat} {n : Int} :
    (∃ b, writeNumber size n = .ok b) ↔ 0 ≤ n ∧ n < 2 ^ (8 * size) := by
  simp [writeNumber_eq_ok, capacity_eq]

lemma exists_writeLength {n : Int} : (∃ b, writeLength n = .ok b) ↔ 0 ≤ n ∧ n ≤ 2 ^ 31 - 1 := by
  rw [writeLength]
  split
  · rename_i h
    simp only [maxLength] at h
    simp
    omega
  · rename_i h
    simp only [maxLength] at h
    rw [exists_writeNumber]
    omega

lemma appender_adds (w : Writing) : w.appender.Adds w.bytes := by
  cases w with
  | scalar f s =>
    cases f with
    | uint width =>
      cases s with
      | int n => exact .lift (writeNumber width.size n)
      | _ => exact .throw _
    | bool =>
      cases s with
      | bool x => exact .lift (writeNumber 1 x.toNat)
      | _ => exact .throw _
    | text =>
      cases s with
      | text t => exact .prefixed (.lift (writeNumber 2 (utf8 t).length)) (utf8 t)
      | _ => exact .throw _
    | bytes =>
      cases s with
      | bytes x => exact .prefixed (.lift (writeLength x.length)) x
      | _ => exact .throw _
    | fixed size =>
      cases s with
      | bytes x =>
        rw [appender, bytes, Form.write]
        by_cases h : x.length = size
        · rw [if_neg (not_not.2 h), if_pos h]
          exact .put x
        · rw [if_pos h, if_neg h]
          exact fun _ => rfl
      | _ => exact .throw _
  | length n => exact .lift (writeLength n)

lemma exists_prefixed {x : Except Fault Bytes} :
    (∃ b', (do return (← x) ++ b : Except Fault Bytes) = .ok b') ↔ ∃ b', x = .ok b' := by
  simp only [bind_eq_ok, pure_eq_ok]
  grind

lemma exists_bytes : (∃ b, w.bytes = .ok b) ↔ w.fits = true := by
  cases w with
  | scalar f s =>
    cases f with
    | uint width =>
      cases s with
      | int n => simp [bytes, fits, Form.write, exists_writeNumber]
      | _ => simp [bytes, fits, Form.write]
    | bool =>
      cases s with
      | bool x => cases x <;> simp [bytes, fits, Form.write, exists_writeNumber]
      | _ => simp [bytes, fits, Form.write]
    | text =>
      cases s with
      | text t =>
        simp only [bytes, fits, Form.write, exists_prefixed, exists_writeNumber, decide_eq_true_eq]
        omega
      | _ => simp [bytes, fits, Form.write]
    | bytes =>
      cases s with
      | bytes x =>
        simp only [bytes, fits, Form.write, exists_prefixed, exists_writeLength, decide_eq_true_eq]
        omega
      | _ => simp [bytes, fits, Form.write]
    | fixed size =>
      cases s with
      | bytes x => by_cases h : x.length = size <;> simp [bytes, fits, Form.write, h]
      | _ => simp [bytes, fits, Form.write]
  | length n => simp only [bytes, fits, exists_writeLength, decide_eq_true_eq]

lemma append_of_fits (h : w.fits = true) (written : Bytes) :
    ∃ b, w.bytes = .ok b ∧ w.append written = (.ok (), written ++ b) := by
  obtain ⟨b, hb⟩ := exists_bytes.2 h
  exact ⟨b, hb, by rw [append, appender_adds, hb]⟩

lemma append_of_not_fits (h : w.fits = false) (written : Bytes) : ∃ e, w.append written = (.error e, written) := by
  cases hb : w.bytes with
  | error e => exact ⟨e, by rw [append, appender_adds, hb]⟩
  | ok b => simp [exists_bytes.1 ⟨b, hb⟩] at h

lemma append_fst_eq_ok : (w.append written).1 = .ok () ↔ w.fits = true := by
  cases h : w.fits with
  | true =>
    obtain ⟨b, _, ha⟩ := append_of_fits h written
    simp [ha]
  | false =>
    obtain ⟨e, ha⟩ := append_of_not_fits h written
    simp [ha]

lemma reader_reads (h : w.bytes = .ok b) : w.reading.reader.Reads b (some w.value) := by
  cases w with
  | scalar f s => exact (Form.read_reads h).last (.pure _)
  | length n =>
    have hn : Form.write (.uint .u32) (.int n) = .ok b := by
      rw [bytes, writeLength] at h
      split at h
      · cases h
      · exact h
    exact (Form.read_reads hn).last (.pure _)

/-! ### Runs -/

lemma length_appendAll (written : Bytes) (ws : List Writing) : (appendAll written ws).length = ws.length := by
  induction ws generalizing written with
  | nil => rfl
  | cons w ws ih => simp [appendAll, ih]

lemma getElem?_appendAll (h : ws[i]? = some w) :
    (appendAll written ws)[i]? = some (w.append (after written (ws.take i))) := by
  induction ws generalizing written i with
  | nil => simp at h
  | cons w' ws ih =>
    cases i with
    | zero =>
      obtain rfl := by simpa using h
      rfl
    | succ i => exact ih h

lemma after_take_succ (h : ws[i]? = some w) :
    after written (ws.take (i + 1)) = (w.append (after written (ws.take i))).2 := by
  simp [after, List.take_add_one, h]

def ReadsAll (rs : List Reading) (b : Bytes) (vs : List Scalar) : Prop :=
  ∀ offset rest, (Reading.readAll ⟨offset, b ++ rest⟩ rs).map (·.1) = vs.map (fun v => .ok (some v)) ∧
    Reading.stop ⟨offset, b ++ rest⟩ rs = ⟨offset + b.length, rest⟩

lemma ReadsAll.cons {r : Reading} {rs : List Reading} {v : Scalar} {vs : List Scalar} {b' : Bytes}
    (h : r.reader.Reads b (some v)) (hs : ReadsAll rs b' vs) : ReadsAll (r :: rs) (b ++ b') (v :: vs) := by
  intro offset rest
  obtain ⟨hv, hd⟩ := hs (offset + b.length) rest
  have hr := h offset (b' ++ rest)
  rw [List.append_assoc, Reading.readAll, Reading.stop, List.foldl_cons, hr]
  refine ⟨?_, ?_⟩
  · rw [List.map_cons, List.map_cons, hv]
  · rw [List.length_append, ← Nat.add_assoc]
    exact hd

lemma after_readsAll (written : Bytes) (ws : List Writing) :
    ∃ b, after written ws = written ++ b ∧ ReadsAll ((kept ws).map reading) b ((kept ws).map value) := by
  induction ws generalizing written with
  | nil => exact ⟨[], (List.append_nil _).symm, fun offset rest => ⟨rfl, rfl⟩⟩
  | cons w ws ih =>
    cases hw : w.fits with
    | true =>
      obtain ⟨b, hb, ha⟩ := append_of_fits hw written
      obtain ⟨b', he, hr⟩ := ih (written ++ b)
      refine ⟨b ++ b', ?_, ?_⟩
      · rw [← List.append_assoc, ← he, after, List.foldl_cons, ha]
        rfl
      · rw [kept, List.filter_cons_of_pos hw]
        exact .cons (reader_reads hb) hr
    | false =>
      obtain ⟨e, ha⟩ := append_of_not_fits hw written
      obtain ⟨b, he, hr⟩ := ih written
      refine ⟨b, ?_, ?_⟩
      · rw [← he, after, List.foldl_cons, ha]
        rfl
      · rwa [kept, List.filter_cons_of_neg (by simp [hw])]

/-- A writing that does not fit is refused and leaves what is there as it was. All others are read back in order, up to
exactly the bytes that follow. -/
theorem writings_read_back (ws : List Writing) :
    (appendAll [] ws).length = ws.length ∧
    (∀ i w, ws[i]? = some w → ∃ result, (appendAll [] ws)[i]? = some (result, after [] (ws.take (i + 1))) ∧
      (result = .ok () ↔ w.fits = true) ∧
      (result ≠ .ok () → after [] (ws.take (i + 1)) = after [] (ws.take i))) ∧
    ∀ suffix, (Reading.readAll (.start (after [] ws ++ suffix)) ((kept ws).map reading)).map (·.1) =
        (kept ws).map (fun w => .ok (some w.value)) ∧
      Reading.stop (.start (after [] ws ++ suffix)) ((kept ws).map reading) = ⟨(after [] ws).length, suffix⟩ := by
  refine ⟨length_appendAll [] ws, fun i w hi => ?_, fun suffix => ?_⟩
  · have ha : after [] (ws.take (i + 1)) = _ := after_take_succ hi
    refine ⟨(w.append (after [] (ws.take i))).1, ?_, append_fst_eq_ok, fun hr => ?_⟩
    · rw [getElem?_appendAll hi, ha]
    · rw [Ne, append_fst_eq_ok, Bool.not_eq_true] at hr
      obtain ⟨e, he⟩ := append_of_not_fits hr (after [] (ws.take i))
      rw [ha, he]
  · obtain ⟨b, hb, hr⟩ := after_readsAll [] ws
    obtain ⟨hv, hd⟩ := hr 0 suffix
    rw [List.nil_append] at hb
    rw [hb, Cursor.start, hv, hd]
    simp

end Writing

end Countersign.Wire

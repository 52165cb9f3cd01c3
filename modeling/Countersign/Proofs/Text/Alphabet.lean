import Countersign.Text.Alphabet
import Mathlib.Data.List.Nodup

namespace Countersign.Text.Alphabet

variable {a : Alphabet} {c : Char} {n : Nat} {text : List Char} {ds : List Nat}

lemma value?_eq_some : a.value? c = some n ↔ n < a.size ∧ a.char n = c := by
  rw [value?, List.idxOf?_eq_some_iff]
  constructor
  · rintro ⟨hn, rfl, _⟩
    exact ⟨hn, congrArg a.chars.get (Fin.ext (Nat.mod_eq_of_lt hn))⟩
  · rintro ⟨hn, rfl⟩
    have hc : a.char n = a.chars[n] := congrArg a.chars.get (Fin.ext (Nat.mod_eq_of_lt hn))
    refine ⟨hn, hc.symm, fun j hj he => ?_⟩
    have heq := a.nodup.getElem_inj_iff.1 (he.trans hc)
    omega

lemma value?_char (h : n < a.size) : a.value? (a.char n) = some n := value?_eq_some.2 ⟨h, rfl⟩

lemma char_mem (n : Nat) : a.char n ∈ a.chars := List.get_mem _ _

lemma values_eq_ok : a.values text = .ok ds ↔ ds.map a.char = text ∧ ∀ d ∈ ds, d < a.size := by
  induction text generalizing ds with
  | nil =>
    rw [values, Except.ok.injEq, List.map_eq_nil_iff]
    constructor
    · rintro rfl
      exact ⟨rfl, nofun⟩
    · exact fun h => h.1.symm
  | cons c text ih =>
    rw [values]
    constructor
    · intro h
      cases hv : a.value? c with
      | none =>
        rw [hv] at h
        cases h
      | some d =>
        obtain ⟨hd, hc⟩ := value?_eq_some.1 hv
        rw [hv] at h
        cases hr : a.values text with
        | error e =>
          rw [hr] at h
          cases h
        | ok rest =>
          rw [hr] at h
          obtain rfl := Except.ok.inj h
          obtain ⟨ht, hl⟩ := ih.1 hr
          exact ⟨by rw [List.map_cons, hc, ht], List.forall_mem_cons.2 ⟨hd, hl⟩⟩
    · rintro ⟨hm, hl⟩
      obtain ⟨d, rest, rfl, hc, ht⟩ := List.map_eq_cons_iff.1 hm
      rw [List.forall_mem_cons] at hl
      rw [value?_eq_some.2 ⟨hl.1, hc⟩, ih.2 ⟨ht, hl.2⟩]
      rfl

end Countersign.Text.Alphabet

import Countersign.Ident
import Countersign.Proofs.Text.Base58
import Countersign.Proofs.Wire.Scalar

namespace Countersign.Ident

open Text Wire

variable {text : String} {data id : Bytes}

lemma decode_encode (data : Bytes) : decode (encode data) = .ok data := by
  rw [decode, encode, String.toList_ofList, Base58.decode_encode]
  simp only [List.length_append, length_checksum, Nat.add_sub_cancel, List.take_left, List.drop_left]
  rw [if_neg (by omega), if_pos trivial]

lemma eq_encode_of_decode (h : decode text = .ok data) : text = encode data := by
  rw [decode] at h
  cases hr : Base58.decode text.toList with
  | error c =>
    rw [hr] at h
    cases h
  | ok raw =>
    rw [hr] at h
    dsimp only at h
    split at h
    · cases h
    · split at h
      · rename_i hs
        obtain rfl := Except.ok.inj h
        rw [encode, hs, List.take_append_drop, ← Base58.decode_eq_ok.1 hr, String.ofList_toList]
      · cases h

lemma sized_eq_ok : sized data = .ok id ↔ data = id ∧ id.length = size := by
  rw [sized]
  split
  · rename_i h
    rw [Except.ok.injEq]
    constructor
    · rintro rfl
      exact ⟨rfl, h⟩
    · exact fun h => h.1
  · rename_i h
    refine ⟨nofun, ?_⟩
    rintro ⟨rfl, hl⟩
    exact absurd hl h

lemma toText_eq_ok : toText id = .ok text ↔ id.length = size ∧ encode id = text := by
  show encode <$> sized id = .ok text ↔ _
  rw [map_eq_ok]
  constructor
  · rintro ⟨id', hs, rfl⟩
    obtain ⟨rfl, hl⟩ := sized_eq_ok.1 hs
    exact ⟨hl, rfl⟩
  · rintro ⟨hl, rfl⟩
    exact ⟨id, sized_eq_ok.2 ⟨rfl, hl⟩, rfl⟩

/-- Reading accepts what writing produces, for bytes of any number and for identifiers, and nothing else. -/
theorem text_determined :
    (∀ data, decode (encode data) = .ok data) ∧
    (∀ text data, decode text = .ok data ↔ text = encode data) ∧
    (∀ text, (∀ data, text ≠ encode data) → ∃ f, decode text = .error f) ∧
    (∀ text id, ofText text = .ok id ↔ toText id = .ok text) ∧
    (∀ id, (∃ text, toText id = .ok text) ↔ id.length = size) ∧
    ∀ text text' id, ofText text = .ok id → ofText text' = .ok id → text = text' := by
  have hdecode (text : String) (data : Bytes) : decode text = .ok data ↔ text = encode data := by
    constructor
    · exact eq_encode_of_decode
    · rintro rfl
      exact decode_encode data
  have hid (text : String) (id : Bytes) : ofText text = .ok id ↔ toText id = .ok text := by
    rw [ofText, bind_eq_ok, toText_eq_ok]
    constructor
    · rintro ⟨data, hd, hs⟩
      obtain ⟨rfl, hl⟩ := sized_eq_ok.1 hs
      exact ⟨hl, (eq_encode_of_decode hd).symm⟩
    · rintro ⟨hl, rfl⟩
      exact ⟨id, decode_encode id, sized_eq_ok.2 ⟨rfl, hl⟩⟩
  refine ⟨decode_encode, hdecode, fun text hn => ?_, hid, fun id => ?_, fun text text' id h h' => ?_⟩
  · cases hd : decode text with
    | error f => exact ⟨f, rfl⟩
    | ok data => exact absurd ((hdecode text data).1 hd) (hn data)
  · constructor
    · rintro ⟨text, ht⟩
      exact (toText_eq_ok.1 ht).1
    · exact fun hl => ⟨encode id, toText_eq_ok.2 ⟨hl, rfl⟩⟩
  · rw [hid, toText_eq_ok] at h h'
    exact h.2.symm.trans h'.2

theorem empty_read :
    toText empty = .ok "11111111111111111111111111111111LpoYY" ∧
    ofText "11111111111111111111111111111111LpoYY" = .ok empty ∧
    ∀ text, ofText text = .ok empty → text = "11111111111111111111111111111111LpoYY" := by
  have ht : toText empty = .ok "11111111111111111111111111111111LpoYY" := by decide +kernel
  obtain ⟨_, _, _, hid, _, hunique⟩ := text_determined
  have hread := (hid _ _).2 ht
  exact ⟨ht, hread, fun text h => hunique _ _ _ h hread⟩

end Countersign.Ident

import Countersign.Address
import Countersign.Proofs.Text.Bech32

/-! Addresses and their texts. An address is read from its text and from no other, but for the case of the letters
behind the dash; a word that is too long is written and not read. -/

namespace Countersign.Address

open Text Bech32

variable {text : String} {a : Address} {front rest : List Char}

structure Presentable (a : Address) : Prop where
  named : a.chainAlias.toList ≠ []
  undashed : '-' ∉ a.chainAlias.toList
  word : IsWord a.word.toList
  sized : a.id.length = size

def encoded (a : Address) : List Char := Bech32.encode a.word.toList (symbols a.id)

lemma toText_of_sized (h : a.id.length = size) :
    a.toText = .ok (String.ofList (a.chainAlias.toList ++ '-' :: a.encoded)) := by
  rw [toText, if_pos h, Except.ok.injEq, ← String.toList_inj]
  simp only [String.toList_append, String.toList_ofList, List.append_assoc]
  rfl

def ofParts (text : String) (front rest : List Char) : Except Fault Address :=
  match Bech32.decode rest with
  | none => .error (.notBech32 text)
  | some (word, vs) =>
    match Bech32.bytes? vs with
    | none => .error (.badContent text)
    | some id =>
      if id.length = size then .ok ⟨String.ofList front, String.ofList word, id⟩
      else .error (.badContent text)

lemma ofText_of_dash (ht : text.toList = front ++ '-' :: rest) (hf : front ≠ []) (hn : '-' ∉ front) :
    ofText text = ofParts text front rest := by
  have hp : ∀ c ∈ front, (c != '-') = true := by
    intro c hc
    rw [bne_iff_ne]
    rintro rfl
    exact hn hc
  have htake : text.toList.takeWhile (· != '-') = front := by
    rw [ht, List.takeWhile_append_of_pos hp]
    exact List.append_nil front
  have hdrop : text.toList.dropWhile (· != '-') = '-' :: rest := by
    rw [ht, List.dropWhile_append_of_pos hp]
    rfl
  obtain ⟨c, front, rfl⟩ := List.exists_cons_of_ne_nil hf
  rw [ofText, htake, hdrop]
  rfl

lemma exists_dash (h : ofText text = .ok a) :
    ∃ front rest, text.toList = front ++ '-' :: rest ∧ front ≠ [] ∧ '-' ∉ front := by
  by_cases hm : '-' ∈ text.toList
  · obtain ⟨front, rest, ht, hn⟩ := List.eq_append_cons_of_mem hm
    refine ⟨front, rest, ht, ?_, hn⟩
    rintro rfl
    rw [ofText, ht] at h
    cases h
  · have hdrop : text.toList.dropWhile (· != '-') = [] := by
      rw [← List.append_nil text.toList, List.dropWhile_append_of_pos, List.dropWhile_nil]
      intro c hc
      rw [bne_iff_ne]
      rintro rfl
      exact hm hc
    rw [ofText, hdrop] at h
    cases ht : text.toList.takeWhile (· != '-') <;> rw [ht] at h <;> cases h

lemma ofText_eq_ok : ofText text = .ok a ↔ a.Presentable ∧ a.word.toList.length ≤ maxWord ∧
    ∃ rest, text.toList = a.chainAlias.toList ++ '-' :: rest ∧ isAdmissible rest = true ∧
      rest.map Char.toLower = a.encoded := by
  constructor
  · intro h
    obtain ⟨front, rest, ht, hf, hn⟩ := exists_dash h
    rw [ofText_of_dash ht hf hn, ofParts] at h
    cases hd : Bech32.decode rest with
    | none =>
      rw [hd] at h
      cases h
    | some x =>
      obtain ⟨word, vs⟩ := x
      obtain ⟨ha, hl, hw, hv, he⟩ := Bech32.decode_eq_some.1 hd
      rw [hd] at h
      dsimp only at h
      cases hb : Bech32.bytes? vs with
      | none =>
        rw [hb] at h
        cases h
      | some id =>
        obtain rfl := (bytes?_eq_some hv).1 hb
        rw [hb] at h
        dsimp only at h
        split at h
        · rename_i hs
          obtain rfl := Except.ok.inj h
          refine ⟨⟨?_, ?_, ?_, hs⟩, ?_, rest, ?_, ha, ?_⟩ <;> dsimp only [encoded] <;> rwa [String.toList_ofList]
        · cases h
  · rintro ⟨hp, hl, rest, ht, ha, he⟩
    have hd : Bech32.decode rest = some (a.word.toList, symbols a.id) :=
      Bech32.decode_eq_some.2 ⟨ha, hl, hp.word, symbols_lt, he⟩
    rw [ofText_of_dash ht hp.named hp.undashed, ofParts, hd]
    dsimp only
    rw [(bytes?_eq_some symbols_lt).2 rfl]
    dsimp only
    rw [if_pos hp.sized, String.ofList_toList, String.ofList_toList]

lemma encoded_plain (h : a.Presentable) : isAdmissible a.encoded = true ∧ a.encoded.map Char.toLower = a.encoded :=
  ⟨isAdmissible_of_plain (encode_plain h.word), map_toLower_of_plain (encode_plain h.word)⟩

lemma ofText_of_long (h : a.Presentable) (hl : maxWord < a.word.toList.length)
    (ht : text.toList = a.chainAlias.toList ++ '-' :: a.encoded) : ofText text = .error (.notBech32 text) := by
  have hd : Bech32.decode a.encoded = none := by
    rw [Option.eq_none_iff_forall_ne_some]
    rintro ⟨word, vs⟩ hd
    obtain ⟨_, hl', _, _, he⟩ := Bech32.decode_eq_some.1 hd
    rw [(encoded_plain h).2] at he
    rw [← word_eq_of_encode_eq he] at hl'
    exact Nat.not_le.2 hl hl'
  rw [ofText_of_dash ht h.named h.undashed, ofParts, hd]

/-- An address with a word that is short enough is read from the text that it is written to, and from every text that it
is read from it is written again, but for capitals behind the dash. -/
theorem texts_correspond :
    (∀ a : Address, a.Presentable → ∃ text, a.toText = .ok text ∧
      (a.word.toList.length ≤ maxWord → ofText text = .ok a) ∧
      (maxWord < a.word.toList.length → ofText text = .error (.notBech32 text))) ∧
    (∀ text a, ofText text = .ok a → a.Presentable ∧ a.word.toList.length ≤ maxWord ∧
      ∃ rest, text.toList = a.chainAlias.toList ++ '-' :: rest ∧
        a.toText = .ok (String.ofList (a.chainAlias.toList ++ '-' :: rest.map Char.toLower))) ∧
    ∀ text text' a, ofText text = .ok a → ofText text' = .ok a → ∃ front rest rest', '-' ∉ front ∧
      text.toList = front ++ '-' :: rest ∧ text'.toList = front ++ '-' :: rest' ∧
      rest.map Char.toLower = rest'.map Char.toLower := by
  refine ⟨fun a h => ⟨_, toText_of_sized h.sized, fun hl => ?_, fun hl => ?_⟩, fun text a h => ?_, ?_⟩
  · obtain ⟨ha, he⟩ := encoded_plain h
    exact ofText_eq_ok.2 ⟨h, hl, a.encoded, String.toList_ofList, ha, he⟩
  · exact ofText_of_long h hl String.toList_ofList
  · obtain ⟨hp, hl, rest, ht, _, he⟩ := ofText_eq_ok.1 h
    exact ⟨hp, hl, rest, ht, by rw [he, toText_of_sized hp.sized]⟩
  · intro text text' a h h'
    obtain ⟨hp, _, rest, ht, _, he⟩ := ofText_eq_ok.1 h
    obtain ⟨_, _, rest', ht', _, he'⟩ := ofText_eq_ok.1 h'
    exact ⟨_, rest, rest', hp.undashed, ht, ht', he.trans he'.symm⟩

theorem separators_read :
    let a : Address := ⟨"P", "1-1", empty⟩
    ∃ text, a.toText = .ok text ∧ ofText text = .ok a := by
  intro a
  have hp : a.Presentable := ⟨by decide, by decide, by decide, by decide⟩
  obtain ⟨text, ht, h, _⟩ := texts_correspond.1 a hp
  exact ⟨text, ht, h (by decide)⟩

theorem long_word_unread :
    let a : Address := ⟨"P", String.ofList (List.replicate 84 'a'), empty⟩
    a.Presentable ∧ ∃ text, a.toText = .ok text ∧ ofText text = .error (.notBech32 text) := by
  intro a
  have hp : a.Presentable := by
    refine ⟨by decide, by decide, ?_, by decide⟩
    show IsWord (String.ofList (List.replicate 84 'a')).toList
    rw [String.toList_ofList]
    exact ⟨by decide, fun c hc => by rw [List.eq_of_mem_replicate hc]; decide⟩
  have hl : maxWord < a.word.toList.length := by
    show maxWord < (String.ofList (List.replicate 84 'a')).toList.length
    rw [String.toList_ofList]
    decide
  exact ⟨hp, _, toText_of_sized hp.sized, ofText_of_long hp hl String.toList_ofList⟩

end Countersign.Address

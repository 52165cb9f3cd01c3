import Countersign.Draft.File
import Countersign.Proofs.Draft.Basic
import Countersign.Proofs.Text.Hex
import Mathlib.Data.List.Forall2

namespace Countersign

open Wire Text

namespace Ownership

variable {keys : List Bytes} {texts : List String} {threshold : Int} {l : Listing} {o : Ownership}

lemma mapM_toBytes? : texts.mapM Hex.toBytes? = some keys ↔
    List.Forall₂ (fun key text => Hex.Spells key text.toList) keys texts := by
  induction texts generalizing keys with
  | nil => cases keys <;> simp
  | cons text texts ih =>
    have hspells (key : Bytes) : Hex.Spells key text.toList ↔ Hex.toBytes? text = some key := Hex.decode_eq_some.symm
    rw [List.mapM_cons]
    cases h : Hex.toBytes? text with
    | none => cases keys <;> simp [hspells, h]
    | some key =>
      cases ht : texts.mapM Hex.toBytes? with
      | none => cases keys <;> simp [hspells, ← ih, h, ht]
      | some rest => cases keys <;> simp [hspells, ← ih, h, ht]

lemma ofKeys_eq_ok : ofKeys keys threshold = .ok o ↔ keys = o.controlKeys ∧ threshold = o.threshold := by
  obtain ⟨controlKeys, t, hs⟩ := o
  rw [ofKeys]
  split
  · rename_i key h
    have hne : key.length ≠ Address.size := by simpa using List.find?_some h
    refine iff_of_false nofun ?_
    rintro ⟨rfl, _⟩
    exact hne (hs key (List.mem_of_find?_eq_some h))
  · simp only [Except.ok.injEq, mk.injEq]

lemma ofListing_eq_ok : ofListing l = .ok o ↔ ∃ texts, l = ⟨some texts, some o.threshold⟩ ∧
    List.Forall₂ (fun key text => Hex.Spells key text.toList) o.controlKeys texts := by
  obtain ⟨_ | texts, t⟩ := l
  · simp [ofListing]
  · simp only [← mapM_toBytes?, Listing.mk.injEq, Option.some.injEq]
    cases hm : texts.mapM Hex.toBytes? with
    | none => cases t <;> simp [ofListing, hm]
    | some keys => cases t <;> simp [ofListing, hm, ofKeys_eq_ok, and_comm]

end Ownership

namespace Draft

variable {chain : Chain} {policy : RetryPolicy} {content data : Bytes} {text : String} {m : Draft} {f : Fault}

lemma utf8?_eq_some : utf8? content = some text ↔ utf8 text = content :=
  ⟨utf8_of_utf8?, by rintro rfl; exact utf8?_utf8 text⟩

lemma readFileContent_eq_ok : readFileContent content = .ok data ↔
    ∃ text : String, utf8 text = content ∧ Hex.Framed data text.toList := by
  simp only [← utf8?_eq_some, ← Hex.decode_strip_eq_some, readFileContent]
  cases utf8? content with
  | none => simp
  | some text => cases h : Hex.decode (strip text.toList) <;> simp [h]

lemma readFileContent_of_not_text (h : ¬ ∃ text, utf8 text = content) : readFileContent content = .error .notText := by
  cases hu : utf8? content with
  | none => rw [readFileContent, hu]
  | some text => exact (h ⟨text, utf8_of_utf8? hu⟩).elim

lemma readFileContent_eq_notHex :
    readFileContent (utf8 text) = .error (.malformed .notHex) ↔ Hex.Flawed (strip text.toList) := by
  rw [← Hex.decode_eq_none, readFileContent, utf8?_utf8]
  cases h : Hex.decode (strip text.toList) <;> simp [h]

inductive Unloadable (chain : Chain) (content : Bytes) : Fault → Prop
  | notText : (¬ ∃ text, utf8 text = content) → Unloadable chain content .notText
  | notHex {text : String} : utf8 text = content → Hex.Flawed (strip text.toList) →
      Unloadable chain content (.malformed .notHex)
  | undecodable {text : String} {data : Bytes} {e : Wire.Fault} : utf8 text = content → Hex.Framed data text.toList →
      SignedTx.ofBytes chain data = .error e → Unloadable chain content (.malformed (.undecodable chain e))

lemma Unloadable.ofFileContent (h : Unloadable chain content f) : ofFileContent chain content policy = .error f := by
  cases h with
  | notText h => rw [Draft.ofFileContent, readFileContent_of_not_text h]; rfl
  | notHex ht hf =>
    subst ht
    rw [Draft.ofFileContent, readFileContent_eq_notHex.2 hf]
    rfl
  | undecodable ht hd he =>
    rw [Draft.ofFileContent, readFileContent_eq_ok.2 ⟨_, ht, hd⟩]
    exact ofBytes_of_error he

lemma ofFileContent_eq_ok : ofFileContent chain content policy = .ok m ↔
    ∃ (text : String) (data : Bytes) (tx : SignedTx), utf8 text = content ∧ Hex.Framed data text.toList ∧
      tx.chain = chain ∧ tx.toBytes = .ok data ∧ m = .ofTx tx policy := by
  simp only [ofFileContent, bind_eq_ok, readFileContent_eq_ok, ofBytes_eq_ok, SignedTx.ofBytes_eq_ok]
  constructor
  · rintro ⟨data, ⟨text, ht, hd⟩, tx, ⟨hc, hw⟩, rfl⟩
    exact ⟨text, data, tx, ht, hd, hc, hw, rfl⟩
  · rintro ⟨text, data, tx, ht, hd, hc, hw, rfl⟩
    exact ⟨data, ⟨text, ht, hd⟩, tx, ⟨hc, hw⟩, rfl⟩

lemma exists_ofFileContent (chain : Chain) (content : Bytes) (policy : RetryPolicy) :
    (∃ m, ofFileContent chain content policy = .ok m) ∨ ∃ f, Unloadable chain content f := by
  by_cases ht : ∃ text, utf8 text = content
  · obtain ⟨text, rfl⟩ := ht
    cases hd : Hex.decode (strip text.toList) with
    | none => exact .inr ⟨_, .notHex rfl (Hex.decode_eq_none.1 hd)⟩
    | some data =>
      have hframed := Hex.decode_strip_eq_some.1 hd
      cases hb : SignedTx.ofBytes chain data with
      | error e => exact .inr ⟨_, .undecodable rfl hframed hb⟩
      | ok tx =>
        obtain ⟨hc, hw⟩ := SignedTx.ofBytes_eq_ok.1 hb
        exact .inl ⟨_, ofFileContent_eq_ok.2 ⟨text, data, tx, rfl, hframed, hc, hw, rfl⟩⟩
  · exact .inr ⟨_, .notText ht⟩

lemma ofFileContent_eq_error : ofFileContent chain content policy = .error f ↔ Unloadable chain content f := by
  refine ⟨fun h => ?_, Unloadable.ofFileContent⟩
  obtain ⟨m, hm⟩ | ⟨g, hg⟩ := exists_ofFileContent chain content policy
  · rw [hm] at h
    cases h
  · obtain rfl := Except.error.inj (h.symm.trans hg.ofFileContent)
    exact hg

lemma ofFileContentIn_reaches (chain : Chain) (content : Bytes) (policy : RetryPolicy) : ∃ depth,
    Reaches (.wire .noRoom) depth (ofFileContent chain content policy) (ofFileContentIn · chain content policy) := by
  simp only [ofFileContentIn, ofFileContent]
  cases readFileContent content with
  | error f =>
    simp only [error_bind]
    exact ⟨0, fun _ _ => rfl, fun _ hr => absurd hr (Nat.not_lt_zero _)⟩
  | ok data => exact ofBytesIn_reaches chain data policy

/-- A file of text gives a copy of a transaction, or is told to be malformed, unless its reading is given up. Only a file
without text is told apart. -/
theorem loading_decided (chain : Chain) (content : Bytes) (policy : RetryPolicy) :
    (∀ m, ofFileContent chain content policy = .ok m ↔
      ∃ (text : String) (data : Bytes) (tx : SignedTx), utf8 text = content ∧ Hex.Framed data text.toList ∧
        tx.chain = chain ∧ tx.toBytes = .ok data ∧ m = .ofTx tx policy) ∧
    (∀ f, ofFileContent chain content policy = .error f ↔ Unloadable chain content f) ∧
    ((∃ m, ofFileContent chain content policy = .ok m) ∨
      (∃ what, ofFileContent chain content policy = .error (.malformed what)) ∨
      (¬ ∃ text, utf8 text = content) ∧ ofFileContent chain content policy = .error .notText) ∧
    ∃ depth, Reaches (.wire .noRoom) depth (ofFileContent chain content policy)
      (ofFileContentIn · chain content policy) := by
  refine ⟨fun m => ofFileContent_eq_ok, fun f => ofFileContent_eq_error, ?_,
    ofFileContentIn_reaches chain content policy⟩
  obtain hm | ⟨f, hf⟩ := exists_ofFileContent chain content policy
  · exact .inl hm
  · refine .inr ?_
    have hload : ofFileContent chain content policy = .error f := hf.ofFileContent
    cases hf with
    | notText ht => exact .inr ⟨ht, hload⟩
    | notHex => exact .inl ⟨_, hload⟩
    | undecodable => exact .inl ⟨_, hload⟩

theorem textless_escapes : ofFileContent .platform [0xFF] .standard = .error .notText ∧
    ¬ ∀ chain content policy, (∃ m, ofFileContent chain content policy = .ok m) ∨
      ∃ what, ofFileContent chain content policy = .error (.malformed what) := by
  have hload : ofFileContent .platform [0xFF] .standard = .error .notText := by
    have hu : utf8? [0xFF] = none := by decide +kernel
    rw [ofFileContent, readFileContent, hu]
    rfl
  refine ⟨hload, fun h => ?_⟩
  obtain ⟨m, hm⟩ | ⟨what, hw⟩ := h .platform [0xFF] .standard
  · rw [hload] at hm
    cases hm
  · rw [hload] at hw
    cases hw

/-- The bytes that a file was written for are read from it, from every other text that spells them, and from no other
file. An ownership is the one that its listing was made from. -/
theorem hex_texts_read :
    (∀ data, readFileContent (fileContent data) = .ok data) ∧
    (∀ content data, readFileContent content = .ok data ↔
      ∃ text : String, utf8 text = content ∧ Hex.Framed data text.toList) ∧
    (∀ text, readFileContent (utf8 text) = .error (.malformed .notHex) ↔ Hex.Flawed (strip text.toList)) ∧
    (∀ o : Ownership, Ownership.ofListing o.toListing = .ok o) ∧
    ∀ l o, Ownership.ofListing l = .ok o ↔ ∃ texts, l = ⟨some texts, some o.threshold⟩ ∧
      List.Forall₂ (fun key text => Hex.Spells key text.toList) o.controlKeys texts := by
  have hspells (data : Bytes) : Hex.Spells data (Hex.ofBytes data).toList := by
    rw [Hex.ofBytes, String.toList_ofList]
    exact Hex.spells_encode data
  refine ⟨fun data => ?_, fun content data => readFileContent_eq_ok, fun text => readFileContent_eq_notHex, fun o => ?_,
    fun l o => Ownership.ofListing_eq_ok⟩
  · refine readFileContent_eq_ok.2 ⟨_, rfl, [], _, [], ?_, by simp, hspells data⟩
    rw [List.nil_append, List.append_nil]
  · refine Ownership.ofListing_eq_ok.2 ⟨_, rfl, ?_⟩
    rw [List.forall₂_map_right_iff]
    exact List.forall₂_same.2 fun key _ => hspells key

end Draft

end Countersign

import Countersign.Draft.Basic
import Countersign.Proofs.Chain.Platform
import Countersign.Proofs.Tx.Room

namespace Countersign

open Wire Draft

variable {positions : List Int} {keys : List Bytes} {data : Bytes} {o : Ownership} {tx : SignedTx}

lemma position?_of_nonneg {i : Int} (hi : 0 ≤ i) (n : Nat) :
    position? n i = if i.toNat < n then some i.toNat else none := by
  have h := position?_natCast n i.toNat
  rwa [Int.toNat_of_nonneg hi] at h

lemma Draft.keysAt_eq_ok (hp : ∀ p ∈ positions, 0 ≤ p) : keysAt o positions = .ok keys ↔
    positions.map (o.controlKeys[·.toNat]?) = keys.map some := by
  induction positions generalizing keys with
  | nil =>
    constructor
    · intro h
      rw [← Except.ok.inj h]
      rfl
    · intro h
      rw [List.map_eq_nil_iff.1 h.symm]
      rfl
  | cons p positions ih =>
    rw [List.forall_mem_cons] at hp
    have hk : (position? o.controlKeys.length p).bind (o.controlKeys[·]?) = o.controlKeys[p.toNat]? := by
      rw [position?_of_nonneg hp.1]
      split
      · rfl
      · rename_i h
        exact (List.getElem?_eq_none (Nat.not_lt.1 h)).symm
    rw [keysAt, hk, List.map_cons]
    cases h : o.controlKeys[p.toNat]? with
    | none =>
      refine ⟨nofun, fun h => ?_⟩
      cases keys <;> cases h
    | some key =>
      show (key :: ·) <$> keysAt o positions = .ok keys ↔ _
      rw [map_eq_ok]
      constructor
      · rintro ⟨rest, hr, rfl⟩
        rw [(ih hp.2).1 hr]
        rfl
      · intro hm
        obtain ⟨key', rest, rfl, hk', hr⟩ := List.map_eq_cons_iff.1 hm.symm
        obtain rfl := Option.some.inj hk'
        exact ⟨rest, (ih hp.2).2 hr.symm, rfl⟩

lemma Draft.length_of_keysAt (hp : ∀ p ∈ positions, 0 ≤ p) (hk : keysAt o positions = .ok keys) :
    keys.length = positions.length ∧ ∀ p ∈ positions, p < o.controlKeys.length := by
  have hm := (keysAt_eq_ok hp).1 hk
  constructor
  · have hl := congrArg List.length hm
    rw [List.length_map, List.length_map] at hl
    exact hl.symm
  · intro p hmem
    have hs : o.controlKeys[p.toNat]? ∈ keys.map some := hm ▸ List.mem_map_of_mem hmem
    obtain ⟨key, _, hs⟩ := List.mem_map.1 hs
    obtain ⟨hlt, _⟩ := List.getElem?_eq_some_iff.1 hs.symm
    have h0 := hp p hmem
    omega

lemma Draft.exists_keysAt (h0 : ∀ p ∈ positions, 0 ≤ p) (hp : ∀ p ∈ positions, p < o.controlKeys.length) :
    ∃ keys, keysAt o positions = .ok keys := by
  refine ⟨positions.map fun p => o.controlKeys[p.toNat]?.getD [], (keysAt_eq_ok h0).2 ?_⟩
  rw [List.map_map]
  refine List.map_congr_left fun p hm => ?_
  have h0 := h0 p hm
  have hp := hp p hm
  have hlt : p.toNat < o.controlKeys.length := by omega
  rw [Function.comp_apply, List.getElem?_eq_getElem hlt, Option.getD_some]

lemma Draft.merge_eq_ok {m m' other : Draft} {n : Nat} :
    m.merge other = .ok (m', n) ↔ ∃ tx, m.tx.merge other.tx = .ok (tx, n) ∧ { m with tx } = m' := by
  rw [Draft.merge]
  rcases m.tx.merge other.tx with f | ⟨tx, k⟩
  · exact ⟨nofun, fun ⟨_, h, _⟩ => nomatch h⟩
  · simp only [Except.ok.injEq, Prod.mk.injEq]
    constructor
    · rintro ⟨rfl, rfl⟩
      exact ⟨tx, ⟨rfl, rfl⟩, rfl⟩
    · rintro ⟨_, ⟨rfl, rfl⟩, rfl⟩
      exact ⟨rfl, rfl⟩

lemma Draft.ofDecoded_eq_ok {chain : Chain} {policy : RetryPolicy} {m : Draft} {r : Except Wire.Fault SignedTx} :
    ofDecoded chain policy r = .ok m ↔ ∃ tx, r = .ok tx ∧ ofTx tx policy = m := by
  rcases r with e | tx
  · cases e <;> simp [ofDecoded]
  · simp [ofDecoded]

lemma Draft.ofDecoded_of_error {chain : Chain} {policy : RetryPolicy} {e : Wire.Fault} (he : e ≠ .noRoom) :
    ofDecoded chain policy (.error e) = .error (.malformed (.undecodable chain e)) := by
  cases e <;> first | rfl | exact (he rfl).elim

lemma Draft.ofBytes_eq_ok {chain : Chain} {policy : RetryPolicy} {m : Draft} :
    Draft.ofBytes chain data policy = .ok m ↔ ∃ tx, SignedTx.ofBytes chain data = .ok tx ∧ ofTx tx policy = m :=
  ofDecoded_eq_ok

lemma Draft.ofBytes_of_error {chain : Chain} {policy : RetryPolicy} {e : Wire.Fault}
    (h : SignedTx.ofBytes chain data = .error e) :
    Draft.ofBytes chain data policy = .error (.malformed (.undecodable chain e)) := by
  rw [Draft.ofBytes, h]
  refine ofDecoded_of_error ?_
  rintro rfl
  exact SignedTx.ofBytes_ne_noRoom h

lemma Draft.ofBytesIn_reaches (chain : Chain) (data : Bytes) (policy : RetryPolicy) : ∃ depth,
    Reaches (.wire .noRoom) depth (ofBytes chain data policy) (ofBytesIn · chain data policy) := by
  obtain ⟨depth, _, hd⟩ := SignedTx.ofBytesIn_gauged chain data
  exact ⟨depth, hd.through (ofDecoded chain policy) rfl⟩

lemma Credential.emptySlots_eq_nil {c : Credential} : c.emptySlots = [] ↔ c.isFilled = true := by
  simp only [emptySlots, List.map_eq_nil_iff, List.filter_eq_nil_iff, isFilled, List.all_eq_true, decide_eq_true_eq,
    Prod.forall, List.mk_mem_zipIdx_iff_getElem?]
  constructor
  · intro h sig hm
    obtain ⟨i, hi⟩ := List.mem_iff_getElem?.1 hm
    exact h sig i hi
  · intro h sig i hi
    exact h sig (List.mem_of_getElem? hi)

namespace SignedTx

lemma exists_writeTagged (h : tx.toBytes = .ok data) :
    ∃ b, tx.chain.codec.writeTagged .unsignedTx tx.unsigned = .ok b := by
  obtain ⟨b, hb, _⟩ := bind_eq_ok.1 h
  exact ⟨b, hb⟩

lemma authorization_eq_ok : tx.authorization = .ok positions ↔
    tx.chain = .platform ∧ Chain.Platform.subnetAuth? tx.unsigned = some positions := by
  obtain ⟨chain, unsigned, creds⟩ := tx
  cases chain with
  | platform =>
    rw [authorization, Chain.subnetAuth?]
    cases Chain.Platform.subnetAuth? unsigned <;> simp
  | _ => exact ⟨nofun, fun h => nomatch h.1⟩

lemma type?_of_authorization (ha : tx.authorization = .ok positions) :
    ∃ t, tx.unsigned.type? = some t ∧ t ∈ Chain.Platform.governance :=
  Chain.Platform.type?_of_subnetAuth? (authorization_eq_ok.1 ha).2

lemma exists_authorization (h : tx.toBytes = .ok data) (hc : tx.chain = .platform) {t : RecordType}
    (ht : tx.unsigned.type? = some t) (hg : t ∈ Chain.Platform.governance) :
    ∃ positions, tx.authorization = .ok positions ∧ ∀ p ∈ positions, 0 ≤ p := by
  obtain ⟨b, hb⟩ := exists_writeTagged h
  rw [hc] at hb
  obtain ⟨positions, hs, hp⟩ := Chain.Platform.exists_subnetAuth? hb ht hg
  exact ⟨positions, authorization_eq_ok.2 ⟨hc, hs⟩, hp⟩

lemma nonneg_of_authorization (h : tx.toBytes = .ok data) (ha : tx.authorization = .ok positions) :
    ∀ p ∈ positions, 0 ≤ p := by
  obtain ⟨t, ht, hg⟩ := type?_of_authorization ha
  obtain ⟨positions', ha', hp⟩ := exists_authorization h (authorization_eq_ok.1 ha).1 ht hg
  obtain rfl : positions = positions' := Except.ok.inj (ha.symm.trans ha')
  exact hp

lemma exists_subnetId? (h : tx.toBytes = .ok data) (ha : tx.authorization = .ok positions) :
    ∃ id, tx.subnetId? = some id ∧ id.length = Ident.size := by
  obtain ⟨b, hb⟩ := exists_writeTagged h
  obtain ⟨t, ht, hg⟩ := type?_of_authorization ha
  have hc := (authorization_eq_ok.1 ha).1
  rw [hc] at hb
  obtain ⟨id, hi, hs⟩ := Chain.Platform.exists_subnetId? hb ht hg
  refine ⟨id, ?_, hs⟩
  rw [subnetId?, hc]
  exact hi

lemma needsAuthorization_of_authorization (ha : tx.authorization = .ok positions) : tx.needsAuthorization = true := by
  obtain ⟨t, ht, hg⟩ := type?_of_authorization ha
  have hn : t ≠ Chain.Platform.createSubnetTx := by
    rintro rfl
    exact absurd hg (by decide +kernel)
  rw [needsAuthorization, ht]
  exact decide_eq_true fun h => hn (Option.some.inj h)

lemma checkFunding_eq_ok :
    tx.checkFunding = .ok () ↔ 2 ≤ tx.creds.length ∧ ∀ c ∈ tx.creds.dropLast, c.isFilled = true := by
  rw [checkFunding]
  by_cases hl : tx.creds.length < 2
  · rw [if_pos hl]
    exact ⟨nofun, fun h => absurd h.1 (Nat.not_le.2 hl)⟩
  · rw [if_neg hl]
    split
    · rename_i c i hf
      refine ⟨nofun, fun h => ?_⟩
      have hi := List.mk_mem_zipIdx_iff_getElem?.1 (List.mem_of_find?_eq_some hf)
      have hc := h.2 c (List.mem_of_getElem? hi)
      have hn := List.find?_some hf
      simp only [hc, Bool.not_true, Bool.false_eq_true] at hn
    · rename_i hf
      refine ⟨fun _ => ⟨Nat.not_lt.1 hl, fun c hc => ?_⟩, fun _ => rfl⟩
      obtain ⟨i, hi⟩ := List.mem_iff_getElem?.1 hc
      have hn := List.find?_eq_none.1 hf (c, i) (List.mk_mem_zipIdx_iff_getElem?.2 hi)
      simpa using hn

lemma compare_eq_ok {s : Signers} : tx.compare keys = .ok s ↔ tx.trailingSigs.length = keys.length ∧
    ⟨keys, ((keys.zip tx.trailingSigs).filter fun (_, sig) => sig = emptySignature).map (·.1)⟩ = s := by
  rw [compare]
  split
  · rename_i h
    exact ⟨fun hs => ⟨h, Except.ok.inj hs⟩, fun hs => by rw [hs.2]⟩
  · rename_i h
    exact ⟨nofun, fun hs => absurd hs.1 h⟩

lemma mem_missing {s : Signers} {key : Bytes} (h : tx.compare keys = .ok s) :
    key ∈ s.missing ↔ (key, emptySignature) ∈ keys.zip tx.trailingSigs := by
  obtain ⟨_, rfl⟩ := compare_eq_ok.1 h
  simp only [List.mem_map, List.mem_filter, decide_eq_true_eq]
  constructor
  · rintro ⟨⟨k, sig⟩, ⟨hm, rfl⟩, rfl⟩
    exact hm
  · intro hm
    exact ⟨_, ⟨hm, rfl⟩, rfl⟩

lemma exists_trailing (h : tx.creds ≠ []) : ∃ c, tx.creds.dropLast ++ [c] = tx.creds ∧ tx.trailingSigs = c.sigs := by
  refine ⟨tx.creds.getLast h, List.dropLast_concat_getLast h, ?_⟩
  rw [trailingSigs, trailing?, List.getLast?_eq_some_getLast h]
  rfl

lemma missing_eq_nil {s : Signers} (h : tx.compare keys = .ok s) :
    s.missing = [] ↔ ∀ sig ∈ tx.trailingSigs, sig ≠ emptySignature := by
  constructor
  · rintro hs sig hm rfl
    obtain ⟨i, hi⟩ := List.mem_iff_getElem?.1 hm
    obtain ⟨hl, _⟩ := compare_eq_ok.1 h
    obtain ⟨hlt, _⟩ := List.getElem?_eq_some_iff.1 hi
    have hk := List.getElem?_eq_getElem (hl ▸ hlt)
    have hz : (keys[i], emptySignature) ∈ keys.zip tx.trailingSigs :=
      List.mem_of_getElem? (List.getElem?_zip_eq_some.2 ⟨hk, hi⟩)
    rw [← mem_missing h, hs] at hz
    cases hz
  · intro hf
    refine List.eq_nil_iff_forall_not_mem.2 fun key hm => ?_
    exact hf _ (List.of_mem_zip ((mem_missing h).1 hm)).2 rfl

variable {slot i : Nat} {sig : Bytes}

lemma setTrailing_concat {chain : Chain} {unsigned : Value} {creds : List Credential} {c : Credential} :
    (SignedTx.mk chain unsigned (creds ++ [c])).setTrailing slot sig =
      ⟨chain, unsigned, creds ++ [c.setSlot slot sig]⟩ := by
  have hm : (creds ++ [c]).modify creds.length (·.setSlot slot sig) = creds ++ [c.setSlot slot sig] := by
    induction creds with
    | nil => rfl
    | cons e creds ih => exact congrArg (e :: ·) ih
  rw [setTrailing, setSlot, List.length_append]
  exact congrArg (SignedTx.mk _ _) hm

lemma trailingSigs_setTrailing : (tx.setTrailing slot sig).trailingSigs = tx.trailingSigs.set slot sig := by
  obtain ⟨chain, unsigned, creds⟩ := tx
  rcases List.eq_nil_or_concat creds with rfl | ⟨front, c, rfl⟩
  · rfl
  · rw [List.concat_eq_append, setTrailing_concat, trailingSigs, trailingSigs, trailing?, trailing?,
      List.getLast?_concat, List.getLast?_concat]
    rfl

lemma dropLast_setTrailing : (tx.setTrailing slot sig).creds.dropLast = tx.creds.dropLast := by
  obtain ⟨chain, unsigned, creds⟩ := tx
  rcases List.eq_nil_or_concat creds with rfl | ⟨front, c, rfl⟩
  · rfl
  · rw [List.concat_eq_append, setTrailing_concat, List.dropLast_concat, List.dropLast_concat]

lemma exists_toBytes_concat {chain : Chain} {unsigned : Value} {creds : List Credential} {e : Extension}
    {sigs sigs' : List Bytes} (h : ∃ data, (SignedTx.mk chain unsigned (creds ++ [⟨e, sigs⟩])).toBytes = .ok data)
    (hl : sigs'.length = sigs.length) (hs : ∀ s ∈ sigs', s ∈ sigs ∨ s.length = signatureSize) :
    ∃ data, (SignedTx.mk chain unsigned (creds ++ [⟨e, sigs'⟩])).toBytes = .ok data := by
  obtain ⟨hu, hlen, hc⟩ := exists_toBytes.1 h
  refine exists_toBytes.2 ⟨hu, ?_, fun c hm => ?_⟩
  · rw [List.length_append] at hlen ⊢
    exact hlen
  · rcases List.mem_append.1 hm with hm | hm
    · exact hc c (List.mem_append_left _ hm)
    · obtain rfl := List.mem_singleton.1 hm
      obtain ⟨b, hb⟩ := hc _ (List.mem_append_right _ (List.mem_singleton_self _))
      obtain ⟨id, ht, hlt, hmax, hsized, _⟩ := Credential.write_toValue_eq_ok.1 hb
      refine ⟨_, Credential.write_toValue_eq_ok.2 ⟨id, ht, hlt, hl ▸ hmax, fun s hm => ?_, rfl⟩⟩
      exact (hs s hm).elim (hsized s) fun h => h

lemma exists_toBytes_setTrailing (h : ∃ data, tx.toBytes = .ok data) (hs : sig.length = signatureSize) :
    ∃ data, (tx.setTrailing slot sig).toBytes = .ok data := by
  obtain ⟨chain, unsigned, creds⟩ := tx
  rcases List.eq_nil_or_concat creds with rfl | ⟨front, c, rfl⟩
  · exact h
  · rw [List.concat_eq_append] at h ⊢
    rw [setTrailing_concat]
    refine exists_toBytes_concat h List.length_set fun s hm => ?_
    rcases List.mem_or_eq_of_mem_set hm with hm | rfl
    · exact .inl hm
    · exact .inr hs

lemma lacks_setTrailing (h : i ≠ slot) : (tx.setTrailing slot sig).lacks i = tx.lacks i := by
  rw [lacks, lacks, trailingSigs_setTrailing, List.getElem?_set_ne h.symm]

lemma missingFees_eq_nil : tx.missingFees = [] ↔ ∀ c ∈ tx.funding, c.isFilled = true := by
  simp only [missingFees, List.flatMap_eq_nil_iff, List.map_eq_nil_iff, Prod.forall, Credential.emptySlots_eq_nil,
    List.mk_mem_zipIdx_iff_getElem?]
  constructor
  · intro h c hc
    obtain ⟨i, hi⟩ := List.mem_iff_getElem?.1 hc
    exact h c i hi
  · intro h c i hi
    exact h c (List.mem_of_getElem? hi)

end SignedTx

end Countersign

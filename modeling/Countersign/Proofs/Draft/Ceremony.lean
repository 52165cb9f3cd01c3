import Countersign.Proofs.Draft.Session
import Countersign.Proofs.Tx.Merge

namespace Countersign.Draft

open Wire

def Signatory.keyed (holds : Bytes → Bool) (sig : Bytes → Bytes → Bytes) : Signatory where
  holds
  sign tx _ address := .ofResult ((sig address <$> tx.digest).mapError .wire)

def either (known known' : Bytes → Bool) (key : Bytes) : Bool := known key || known' key

/-- What no signature changes: a transaction that is paid for, the control keys that sign it, each with what its slot
holds at first, and the signatures that they make. -/
structure Ceremony where
  unsigned : Value
  funding : List Credential
  extension : Extension
  slots : List (Bytes × Bytes)
  owner : Ownership
  positions : List Int
  digest : Bytes
  sig : Bytes → Bytes → Bytes
  paid : funding ≠ []
  funded : ∀ c ∈ funding, c.isFilled = true
  authorized : Chain.Platform.subnetAuth? unsigned = some positions
  keys : keysAt owner positions = .ok (slots.map (·.1))
  subnet : ∃ id, Chain.Platform.subnetId? unsigned = some id ∧ id.length = Ident.size
  digested : (SignedTx.mk .platform unsigned []).digest = .ok digest
  filled : ∀ key, sig key digest ≠ emptySignature
  sized : ∀ key, (sig key digest).length = signatureSize
  written : ∃ data, (SignedTx.mk .platform unsigned (funding ++ [⟨extension, slots.map (·.2)⟩])).toBytes = .ok data

namespace Ceremony

variable {c : Ceremony} {known known' holds : Bytes → Bool} {sigs : List Bytes} {x : Bytes × Bytes}

def fill (c : Ceremony) (known : Bytes → Bool) (x : Bytes × Bytes) : Bytes :=
  if x.2 = emptySignature ∧ known x.1 = true then c.sig x.1 c.digest else x.2

def withSigs (c : Ceremony) (sigs : List Bytes) : SignedTx :=
  ⟨.platform, c.unsigned, c.funding ++ [⟨c.extension, sigs⟩]⟩

def tx (c : Ceremony) (known : Bytes → Bool) : SignedTx := c.withSigs (c.slots.map (c.fill known))

lemma fill_unknown : c.fill (fun _ => false) x = x.2 := if_neg fun h => nomatch h.2

lemma fill_eq_empty : c.fill known x = emptySignature ↔ x.2 = emptySignature ∧ known x.1 = false := by
  rw [fill]
  split
  · rename_i h
    refine ⟨fun he => absurd he (c.filled _), fun he => ?_⟩
    rw [h.2] at he
    cases he.2
  · rename_i h
    refine ⟨fun he => ⟨he, ?_⟩, fun he => he.1⟩
    cases hk : known x.1 with
    | false => rfl
    | true => exact absurd ⟨he, hk⟩ h

lemma fill_either : c.fill (either known holds) x =
    if c.fill known x = emptySignature ∧ holds x.1 = true then c.sig x.1 c.digest else c.fill known x := by
  simp only [fill_eq_empty]
  rw [fill, fill, either]
  cases known x.1 <;> cases holds x.1 <;> by_cases he : x.2 = emptySignature <;> simp [he]

lemma joinSlot_fill : joinSlot (c.fill known x) (c.fill known' x) = some (c.fill (either known known') x) := by
  have hf := c.filled x.1
  by_cases he : x.2 = emptySignature
  · cases hk : known x.1 <;> cases hk' : known' x.1 <;> simp [joinSlot, fill, either, he, hk, hk', hf]
  · have hx (known : Bytes → Bool) : c.fill known x = x.2 := if_neg fun h => he h.1
    rw [hx, hx, hx]
    exact joinSlot_self x.2

lemma trailingSigs_withSigs : (c.withSigs sigs).trailingSigs = sigs := by
  rw [SignedTx.trailingSigs, SignedTx.trailing?, withSigs, List.getLast?_concat]
  rfl

lemma setTrailing_withSigs {slot : Nat} {sig : Bytes} :
    (c.withSigs sigs).setTrailing slot sig = c.withSigs (sigs.set slot sig) := SignedTx.setTrailing_concat

lemma authorization_withSigs : (c.withSigs sigs).authorization = .ok c.positions :=
  SignedTx.authorization_eq_ok.2 ⟨rfl, c.authorized⟩

lemma checkFunding_withSigs : (c.withSigs sigs).checkFunding = .ok () := by
  rw [SignedTx.checkFunding_eq_ok, withSigs, List.length_append, List.dropLast_concat]
  have hp := List.length_pos_iff.2 c.paid
  exact ⟨Nat.succ_le_succ hp, c.funded⟩

lemma exists_toBytes (c : Ceremony) (known : Bytes → Bool) : ∃ data, (c.tx known).toBytes = .ok data := by
  refine SignedTx.exists_toBytes_concat c.written (by rw [List.length_map, List.length_map]) fun s hm => ?_
  obtain ⟨x, hx, rfl⟩ := List.mem_map.1 hm
  rw [fill]
  split
  · exact .inr (c.sized x.1)
  · exact .inl (List.mem_map_of_mem hx)

lemma merge_tx (c : Ceremony) (known known' : Bytes → Bool) :
    ∃ n, (c.tx known).merge (c.tx known') = .ok (c.tx (either known known'), n) := by
  obtain ⟨b, hb, _⟩ := map_eq_ok.1 c.digested
  refine SignedTx.merge_trailing hb ?_ fun cred => joinSlots_map fun x _ => joinSlot_fill
  rw [Credential.sameShape, List.length_map, List.length_map, beq_self_eq_true, beq_self_eq_true, Bool.and_self]

section Session

open Session

variable {σ : Type} {r : Resolver σ} {snapshot : Option Ownership} (policy : RetryPolicy) (book : σ) (log : List Moment)

lemma runOn_owners (sigs : List Bytes) (hr : ∀ subnet s, (r subnet s).1 = .ok c.owner)
    (hs : ∀ o, snapshot = some o → o = c.owner) :
    ∃ book', (owners r).runOn ⟨⟨c.withSigs sigs, policy, snapshot, none⟩, book, log⟩ =
      (.ok c.owner, ⟨⟨c.withSigs sigs, policy, some c.owner, none⟩, book', log⟩) := by
  rw [Session.runOn_owners]
  cases snapshot with
  | some o =>
    obtain rfl := hs o rfl
    exact ⟨book, rfl⟩
  | none =>
    obtain ⟨id, hi, hl⟩ := c.subnet
    have hi' : (c.withSigs sigs).subnetId? = some id := hi
    have hid : Ident.sized id = .ok id := if_pos hl
    have ho := hr id book
    dsimp only
    rw [hi']
    dsimp only
    generalize r id book = p at ho ⊢
    obtain ⟨answer, book'⟩ := p
    obtain rfl : answer = .ok c.owner := ho
    dsimp only
    rw [hid]
    exact ⟨book', rfl⟩

lemma runOn_signers (known : Bytes → Bool) (hr : ∀ subnet s, (r subnet s).1 = .ok c.owner)
    (hs : ∀ o, snapshot = some o → o = c.owner) :
    ∃ missing book', (signers r).runOn ⟨⟨c.tx known, policy, snapshot, none⟩, book, log⟩ =
        (.ok ⟨c.slots.map (·.1), missing⟩, ⟨⟨c.tx known, policy, some c.owner, none⟩, book', log⟩) ∧
      ∀ x ∈ c.slots, c.fill known x = emptySignature → x.1 ∈ missing := by
  obtain ⟨book', ho⟩ := runOn_owners policy book log (c.slots.map (c.fill known)) hr hs
  have hl : (c.tx known).trailingSigs = c.slots.map (c.fill known) := trailingSigs_withSigs
  have hc : ∃ missing, (c.tx known).compare (c.slots.map (·.1)) = .ok ⟨c.slots.map (·.1), missing⟩ :=
    ⟨_, SignedTx.compare_eq_ok.2 ⟨by rw [hl, List.length_map, List.length_map], rfl⟩⟩
  obtain ⟨missing, hc⟩ := hc
  have ha : (authSigners r).runOn ⟨⟨c.tx known, policy, snapshot, none⟩, book, log⟩ =
      (.ok (c.slots.map (·.1)), ⟨⟨c.tx known, policy, some c.owner, none⟩, book', log⟩) := by
    refine runOn_bind_ok.2 ⟨_, _, rfl, ?_⟩
    refine runOn_bind_ok.2 ⟨_, _, runOn_lift_ok.2 ⟨authorization_withSigs, rfl⟩, ?_⟩
    exact runOn_bind_ok.2 ⟨_, _, ho, runOn_lift_ok.2 ⟨c.keys, rfl⟩⟩
  refine ⟨missing, book', ?_, fun x hx he => ?_⟩
  · refine runOn_bind_ok.2 ⟨_, _, rfl, ?_⟩
    refine runOn_bind_ok.2 ⟨(), _, runOn_lift_ok.2 ⟨checkFunding_withSigs, rfl⟩, ?_⟩
    refine runOn_bind_ok.2 ⟨_, _, ha, ?_⟩
    exact runOn_bind_ok.2 ⟨_, _, rfl, runOn_lift_ok.2 ⟨hc, rfl⟩⟩
  · refine (SignedTx.mem_missing hc).2 ?_
    rw [hl, List.zip_map', List.mem_map]
    exact ⟨x, hx, by rw [he]⟩

lemma sign_keyed {slot : Nat} {key : Bytes} :
    (Signatory.keyed holds c.sig).sign (c.withSigs sigs) slot key = ⟨some (c.sig key c.digest), none⟩ := by
  have hd : (c.withSigs sigs).digest = .ok c.digest := c.digested
  show Signing.ofResult ((c.sig key <$> (c.withSigs sigs).digest).mapError .wire) = _
  rw [hd]
  rfl

lemma runOn_signSlots (known holds : Bytes → Bool) (snapshot : Option Ownership) (done todo : List (Bytes × Bytes)) :
    ∃ log', (signSlots (.keyed holds c.sig) done.length (todo.map (·.1))).runOn
        ⟨⟨c.withSigs (done.map (c.fill (either known holds)) ++ todo.map (c.fill known)), policy, snapshot, none⟩,
          book, log⟩ =
      (.ok (), ⟨⟨c.withSigs ((done ++ todo).map (c.fill (either known holds))), policy, snapshot, none⟩,
        book, log'⟩) := by
  -- The slots that are done grow at their end, so they are general in the induction on the others.
  induction todo generalizing done log with
  | nil =>
    simp only [List.map_nil, List.append_nil]
    exact ⟨log, rfl⟩
  | cons x todo ih =>
    have hlacks : (c.withSigs (done.map (c.fill (either known holds)) ++
        c.fill known x :: todo.map (c.fill known))).lacks done.length = decide (c.fill known x = emptySignature) := by
      rw [SignedTx.lacks, trailingSigs_withSigs, List.getElem?_append_right (by simp)]
      simp
    have hset : (done.map (c.fill (either known holds)) ++ c.fill known x :: todo.map (c.fill known)).set
        done.length (c.sig x.1 c.digest) =
        done.map (c.fill (either known holds)) ++ c.sig x.1 c.digest :: todo.map (c.fill known) := by
      rw [List.set_append_right _ _ (by simp)]
      simp
    have hnext (log : List Moment) := ih log (done ++ [x])
    simp only [List.length_append, List.length_singleton, List.map_append, List.map_singleton, List.append_assoc,
      List.singleton_append] at hnext
    rw [List.map_cons, List.map_cons, runOn_signSlots_cons, hlacks, List.map_append, List.map_cons]
    split
    · rename_i hb
      have hx : c.fill (either known holds) x = c.sig x.1 c.digest := by
        rw [fill_either]
        exact if_pos (by simpa [Signatory.keyed] using hb)
      rw [runOn_bind, runOn_signSlot, sign_keyed]
      dsimp only [Option.map_some, Option.getD_some]
      rw [setTrailing_withSigs, hset, ← hx]
      exact hnext _
    · rename_i hb
      have hx : c.fill (either known holds) x = c.fill known x := by
        rw [fill_either]
        exact if_neg (by simpa [Signatory.keyed] using hb)
      rw [← hx]
      exact hnext log

lemma runOn_sign (known holds : Bytes → Bool) (checkFirst wait : Bool) (s : Option Submitter)
    (hr : ∀ subnet s, (r subnet s).1 = .ok c.owner) (hs : ∀ o, snapshot = some o → o = c.owner) :
    ∃ x book' log', (sign r (.keyed holds c.sig) ⟨checkFirst, false, wait⟩ s).runOn
        ⟨⟨c.tx known, policy, snapshot, none⟩, book, log⟩ =
        (x, ⟨⟨c.tx (either known holds), policy, some c.owner, none⟩, book', log'⟩) ∧
      ((∃ y, x = .ok y) ∨ checkFirst = true ∧ ∃ n, x = .error (.noSigner n)) := by
  obtain ⟨missing, book₁, h₁, hm⟩ := runOn_signers policy book log known hr hs
  have hn : (c.tx known).needsAuthorization = true :=
    SignedTx.needsAuthorization_of_authorization authorization_withSigs
  rw [sign, runOn_bind, runOn_copy]
  dsimp only
  rw [if_neg (by simp), runOn_bind, runOn_tx]
  dsimp only
  rw [if_pos hn, runOn_bind, h₁]
  dsimp only
  split
  -- Nobody can be signed for: every slot that could be signed is filled, so nothing new is known.
  · rename_i hno
    obtain ⟨⟨hfirst, _⟩, hany⟩ : (checkFirst = true ∧ missing ≠ []) ∧ ∀ key ∈ missing, holds key = false := by
      simpa [Signatory.keyed] using hno
    have he : c.tx (either known holds) = c.tx known := by
      refine congrArg c.withSigs (List.map_congr_left fun x hx => ?_)
      rw [fill_either, if_neg]
      rintro ⟨hf, hk⟩
      rw [hany x.1 (hm x hx hf)] at hk
      cases hk
    rw [he]
    exact ⟨_, book₁, log, rfl, .inr ⟨hfirst, _, rfl⟩⟩
  · obtain ⟨log', h₂⟩ := c.runOn_signSlots policy book₁ log known holds (some c.owner) [] c.slots
    obtain ⟨missing', book₂, h₃, _⟩ := c.runOn_signers policy book₁ log' (either known holds) hr
      fun o ho => (Option.some.inj ho).symm
    obtain ⟨data, hw⟩ := c.exists_toBytes (either known holds)
    have hid := SignedTx.idText_eq_ok hw
    have h₄ : (signSlots (.keyed holds c.sig) 0 (c.slots.map (·.1))).runOn
        ⟨⟨c.tx known, policy, some c.owner, none⟩, book₁, log⟩ =
        (.ok (), ⟨⟨c.tx (either known holds), policy, some c.owner, none⟩, book₁, log'⟩) := h₂
    rw [runOn_bind, h₄]
    dsimp only
    rw [runOn_bind, h₃]
    dsimp only
    split
    · have h₅ : (finish r ⟨checkFirst, false, wait⟩ s).runOn
          ⟨⟨c.tx (either known holds), policy, some c.owner, none⟩, book₂, log'⟩ =
          (.ok ⟨true, false, Ident.encode (Digest.sha256 data)⟩,
            ⟨⟨c.tx (either known holds), policy, some c.owner, none⟩, book₂, log'⟩) :=
        runOn_bind_ok.2 ⟨_, _, rfl, runOn_bind_ok.2 ⟨_, _, runOn_lift_ok.2 ⟨mapError_eq_ok.2 hid, rfl⟩, rfl⟩⟩
      exact ⟨_, book₂, log', h₅, .inl ⟨_, rfl⟩⟩
    · exact ⟨_, book₂, log', rfl, .inl ⟨_, rfl⟩⟩

end Session

end Ceremony

end Countersign.Draft

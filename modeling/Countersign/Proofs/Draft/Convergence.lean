import Mathlib.Logic.Function.Basic
import Countersign.Proofs.Draft.Ceremony

/-! Parties that sign copies of one transaction, join them and pass them on, in any order. What a copy holds in the
end is told by the keys whose signatures have come to it, so copies that the same signatures have come to are equal. -/

namespace Countersign.Draft

open Wire

variable {ι σ : Type}

structure Circle (ι σ : Type) where
  copies : ι → Draft
  known : ι → Bytes → Bool
  book : σ

inductive Move (ι : Type)
  | sign (i : ι) (holds : Bytes → Bool) (checkFirst wait : Bool) (submitter : Option Submitter)
  | merge (i j : ι)
  | reload (i j : ι) (policy : RetryPolicy)

namespace Circle

variable [DecidableEq ι] (r : Resolver σ) (sig : Bytes → Bytes → Bytes)

def put (s : Circle ι σ) (i : ι) (m : Draft) (known : Bytes → Bool) (book : σ) : Circle ι σ :=
  ⟨Function.update s.copies i m, Function.update s.known i known, book⟩

def move (s : Circle ι σ) : Move ι → Except Fault Unit × Circle ι σ
  | .sign i holds checkFirst wait submitter =>
    let (x, d) := (Session.sign r (.keyed holds sig) ⟨checkFirst, false, wait⟩ submitter).runOn ⟨s.copies i, s.book, []⟩
    (x.map fun _ => (), s.put i d.copy (either (s.known i) holds) d.book)
  | .merge i j =>
    match (s.copies i).merge (s.copies j) with
    | .ok (m, _) => (.ok (), s.put i m (either (s.known i) (s.known j)) s.book)
    | .error f => (.error f, s)
  | .reload i j policy =>
    match (s.copies j).toBytes >>= fun data => Draft.ofBytes .platform data policy with
    | .ok m => (.ok (), s.put i m (s.known j) s.book)
    | .error f => (.error f, s)

def run (moves : List (Move ι)) (s : Circle ι σ) : Circle ι σ := moves.foldl (fun s m => (s.move r sig m).2) s

end Circle

/-- What has become of a transaction that some keys have signed: a slot that was filled is as it was, and an empty one
has the signature of its control key if that is among the keys. -/
structure Countersigned (base : SignedTx) (positions : List Int) (o : Ownership) (sign : Bytes → Bytes)
    (known : Bytes → Bool) (tx : SignedTx) : Prop where
  chain : tx.chain = base.chain
  unsigned : tx.unsigned = base.unsigned
  funding : tx.creds.dropLast = base.creds.dropLast
  extension : tx.trailing?.map (·.extension) = base.trailing?.map (·.extension)
  size : tx.trailingSigs.length = base.trailingSigs.length
  slot : ∀ (slot : Nat) p held, positions[slot]? = some p → base.trailingSigs[slot]? = some held →
    ∃ key, 0 ≤ p ∧ o.controlKeys[p.toNat]? = some key ∧ tx.trailingSigs[slot]? = some
      (if held ≠ emptySignature then held else if known key = true then sign key else emptySignature)

namespace Ceremony

variable {c : Ceremony} {known known' : Bytes → Bool} {m m' : Draft}

structure Has (c : Ceremony) (known : Bytes → Bool) (m : Draft) : Prop where
  tx : m.tx = c.tx known
  pending : m.committed = none
  snapshot : ∀ o, m.snapshot = some o → o = c.owner

lemma Has.ofTx (known : Bytes → Bool) (policy : RetryPolicy) : c.Has known (.ofTx (c.tx known) policy) :=
  ⟨rfl, rfl, nofun⟩

lemma Has.merge (h : c.Has known m) (h' : c.Has known' m') :
    ∃ m'' n, m.merge m' = .ok (m'', n) ∧ c.Has (either known known') m'' := by
  obtain ⟨n, hm⟩ := c.merge_tx known known'
  rw [← h.tx, ← h'.tx] at hm
  exact ⟨_, n, merge_eq_ok.2 ⟨_, hm, rfl⟩, rfl, h.pending, h.snapshot⟩

lemma Has.toBytes (h : c.Has known m) : ∃ data, m.toBytes = .ok data := by
  obtain ⟨data, hd⟩ := c.exists_toBytes known
  rw [← h.tx] at hd
  exact ⟨data, mapError_eq_ok.2 hd⟩

lemma Has.reload (h : c.Has known m) (policy : RetryPolicy) :
    ∃ m', (m.toBytes >>= fun data => Draft.ofBytes .platform data policy) = .ok m' ∧ c.Has known m' := by
  obtain ⟨data, hd⟩ := h.toBytes
  have ht := mapError_eq_ok.1 hd
  rw [h.tx] at ht
  refine ⟨.ofTx (c.tx known) policy, bind_eq_ok.2 ⟨data, hd, ?_⟩, .ofTx known policy⟩
  exact ofBytes_eq_ok.2 ⟨_, SignedTx.ofBytes_eq_ok.2 ⟨rfl, ht⟩, rfl⟩

variable {s : Circle ι σ} {r : Resolver σ}

lemma Has.sign (h : c.Has known m) (book : σ) (log : List Moment) (holds : Bytes → Bool) (checkFirst wait : Bool)
    (submitter : Option Submitter) (hr : ∀ subnet b, (r subnet b).1 = .ok c.owner) :
    ∃ x d, (Session.sign r (.keyed holds c.sig) ⟨checkFirst, false, wait⟩ submitter).runOn ⟨m, book, log⟩ = (x, d) ∧
      c.Has (either known holds) d.copy ∧
      ((∃ y, x = .ok y) ∨ checkFirst = true ∧ ∃ n, x = .error (.noSigner n)) := by
  obtain ⟨tx, policy, snapshot, committed⟩ := m
  obtain ⟨rfl, rfl, hs⟩ := h
  obtain ⟨x, book', log', hx, hres⟩ := c.runOn_sign policy book log known holds checkFirst wait submitter hr hs
  exact ⟨x, _, hx, ⟨rfl, rfl, fun o ho => (Option.some.inj ho).symm⟩, hres⟩

variable [DecidableEq ι]

def Agrees (c : Ceremony) (s : Circle ι σ) : Prop := ∀ i, c.Has (s.known i) (s.copies i)

lemma Agrees.put {i : ι} {book : σ} (h : c.Agrees s) (hm : c.Has known m) : c.Agrees (s.put i m known book) := by
  intro j
  show c.Has (Function.update s.known i known j) (Function.update s.copies i m j)
  by_cases hj : j = i
  · subst hj
    rwa [Function.update_self, Function.update_self]
  · rw [Function.update_of_ne hj, Function.update_of_ne hj]
    exact h j

lemma Agrees.move (h : c.Agrees s) (hr : ∀ subnet b, (r subnet b).1 = .ok c.owner) (move : Move ι) :
    c.Agrees (s.move r c.sig move).2 ∧ ((s.move r c.sig move).1 = .ok () ∨
      ∃ i holds wait submitter n, move = .sign i holds true wait submitter ∧
        (s.move r c.sig move).1 = .error (.noSigner n)) := by
  cases move with
  | sign i holds checkFirst wait submitter =>
    obtain ⟨x, d, hx, hh, hres⟩ := (h i).sign s.book [] holds checkFirst wait submitter hr
    simp only [Circle.move, hx]
    refine ⟨h.put hh, ?_⟩
    obtain ⟨y, rfl⟩ | ⟨rfl, n, rfl⟩ := hres
    · exact .inl rfl
    · exact .inr ⟨i, holds, wait, submitter, n, rfl, rfl⟩
  | merge i j =>
    obtain ⟨m, n, hm, hh⟩ := (h i).merge (h j)
    simp only [Circle.move, hm]
    exact ⟨h.put hh, .inl trivial⟩
  | reload i j policy =>
    obtain ⟨m, hm, hh⟩ := (h j).reload policy
    simp only [Circle.move, hm]
    exact ⟨h.put hh, .inl trivial⟩

lemma Agrees.run (h : c.Agrees s) (hr : ∀ subnet b, (r subnet b).1 = .ok c.owner) (moves : List (Move ι)) :
    c.Agrees (s.run r c.sig moves) := by
  induction moves generalizing s with
  | nil => exact h
  | cons move moves ih => exact ih (h.move hr move).1

variable {base : SignedTx} {positions : List Int} {o : Ownership} {sig : Bytes → Bytes → Bytes} {data : Bytes}

lemma exists_ceremony (hw : base.toBytes = .ok data) (ha : base.authorization = .ok positions)
    (h2 : 2 ≤ base.creds.length) (hf : ∀ e ∈ base.creds.dropLast, e.isFilled = true)
    (hp : ∀ p ∈ positions, p < o.controlKeys.length) (hl : base.trailingSigs.length = positions.length)
    (hs : ∀ address digest, (sig address digest).length = signatureSize ∧ sig address digest ≠ emptySignature) :
    ∃ c : Ceremony, base = c.tx (fun _ => false) ∧ c.sig = sig ∧ c.owner = o ∧ c.positions = positions := by
  have h0 := SignedTx.nonneg_of_authorization hw ha
  obtain ⟨keys, hk⟩ := exists_keysAt h0 hp
  obtain ⟨hlk, _⟩ := length_of_keysAt h0 hk
  have hsubnet := SignedTx.exists_subnetId? hw ha
  obtain ⟨front, hd, _⟩ := SignedTx.unsignedBytes_prefix hw
  obtain ⟨hc, hauth⟩ := SignedTx.authorization_eq_ok.1 ha
  obtain ⟨last, he, hsigs⟩ := SignedTx.exists_trailing (List.ne_nil_of_length_pos (Nat.lt_of_succ_lt h2))
  obtain ⟨chain, unsigned, creds⟩ := base
  obtain ⟨funding, rfl⟩ : ∃ funding, creds = funding ++ [last] := ⟨_, he.symm⟩
  obtain ⟨extension, sigs⟩ := last
  obtain rfl : chain = .platform := hc
  rw [List.dropLast_concat] at hf
  rw [List.length_append] at h2
  rw [hsigs, ← hlk] at hl
  have hfst : (keys.zip sigs).map (·.1) = keys := List.map_fst_zip (Nat.le_of_eq hl.symm)
  have hsnd : (keys.zip sigs).map (·.2) = sigs := List.map_snd_zip (Nat.le_of_eq hl)
  let c : Ceremony :=
    { unsigned, funding, extension, owner := o, positions, sig
      slots := keys.zip sigs
      digest := Digest.sha256 front
      paid := List.ne_nil_of_length_pos (Nat.lt_of_succ_le (Nat.le_of_succ_le_succ h2))
      funded := hf
      authorized := hauth
      keys := by rwa [hfst]
      subnet := hsubnet
      digested := map_eq_ok.2 ⟨front, hd, rfl⟩
      filled := fun key => (hs key _).2
      sized := fun key => (hs key _).1
      written := by
        rw [hsnd]
        exact ⟨data, hw⟩ }
  have hfill : c.slots.map (c.fill fun _ => false) = c.slots.map (·.2) := List.map_congr_left fun _ _ => fill_unknown
  refine ⟨c, ?_, rfl, rfl, rfl⟩
  rw [Ceremony.tx, hfill]
  show _ = SignedTx.mk .platform unsigned (funding ++ [⟨extension, (keys.zip sigs).map (·.2)⟩])
  rw [hsnd]

lemma nonneg (c : Ceremony) : ∀ p ∈ c.positions, 0 ≤ p := by
  obtain ⟨data, hw⟩ := c.written
  exact SignedTx.nonneg_of_authorization hw (authorization_withSigs (c := c))

lemma tx_congr (h : ∀ key ∈ c.owner.controlKeys, known key = known' key) : c.tx known = c.tx known' := by
  refine congrArg c.withSigs (List.map_congr_left fun x hx => ?_)
  have hm : some x.1 ∈ c.positions.map (c.owner.controlKeys[·.toNat]?) := by
    rw [(keysAt_eq_ok c.nonneg).1 c.keys]
    exact List.mem_map_of_mem (List.mem_map_of_mem hx)
  obtain ⟨p, _, hp⟩ := List.mem_map.1 hm
  rw [fill, fill, h x.1 (List.mem_of_getElem? hp)]

lemma countersigned (c : Ceremony) (known : Bytes → Bool) :
    Countersigned (c.tx fun _ => false) c.positions c.owner (c.sig · c.digest) known (c.tx known) where
  chain := rfl
  unsigned := rfl
  funding := by rw [tx, tx, withSigs, withSigs, List.dropLast_concat, List.dropLast_concat]
  extension := by
    rw [SignedTx.trailing?, SignedTx.trailing?, tx, tx, withSigs, withSigs, List.getLast?_concat, List.getLast?_concat]
    rfl
  size := by rw [tx, tx, trailingSigs_withSigs, trailingSigs_withSigs, List.length_map, List.length_map]
  slot := by
    intro slot p held hp hheld
    rw [tx, trailingSigs_withSigs, List.getElem?_map] at hheld
    obtain ⟨x, hx, rfl⟩ := Option.map_eq_some_iff.1 hheld
    have hk := congrArg (·[slot]?) ((keysAt_eq_ok c.nonneg).1 c.keys)
    simp only [List.getElem?_map, hp, hx, Option.map_some, Option.some.injEq] at hk
    refine ⟨x.1, c.nonneg p (List.mem_of_getElem? hp), hk, ?_⟩
    rw [tx, trailingSigs_withSigs, List.getElem?_map, hx, Option.map_some, fill_unknown, fill]
    by_cases he : x.2 = emptySignature
    · cases hkx : known x.1 <;> simp [he]
    · rw [if_neg fun h => he h.1, if_pos he]

end Ceremony

/-- However the parties sign, join and pass on the copies that they read from the bytes of one transaction, every copy
is what the keys make of it that it has come to know. So nothing but the want of a signer can fail, and copies that
know the same control keys are written in the same bytes. -/
theorem signing_converges [DecidableEq ι] {r : Resolver σ} {sig : Bytes → Bytes → Bytes} {base : SignedTx}
    {data : Bytes} {t : RecordType} {o : Ownership} (hw : base.toBytes = .ok data) (hc : base.chain = .platform)
    (ht : base.unsigned.type? = some t) (hg : t ∈ Chain.Platform.governance) (h2 : 2 ≤ base.creds.length)
    (hf : ∀ c ∈ base.creds.dropLast, c.isFilled = true)
    (hp : ∀ positions, base.authorization = .ok positions →
      base.trailingSigs.length = positions.length ∧ ∀ p ∈ positions, p < o.controlKeys.length)
    (hr : ∀ subnet b, (r subnet b).1 = .ok o)
    (hs : ∀ address digest, (sig address digest).length = signatureSize ∧ sig address digest ≠ emptySignature) :
    ∃ positions digest, base.authorization = .ok positions ∧ base.digest = .ok digest ∧
      (∀ policy, Draft.ofBytes .platform data policy = .ok (.ofTx base policy)) ∧
      ∀ (start : Circle ι σ) (moves : List (Move ι)),
        (∀ i, ∃ policy, Draft.ofBytes .platform data policy = .ok (start.copies i)) →
        (∀ i key, start.known i key = false) →
        let s := start.run r sig moves
        (∀ i, Countersigned base positions o (sig · digest) (s.known i) (s.copies i).tx) ∧
        (∀ i j, (∀ key ∈ o.controlKeys, s.known i key = s.known j key) →
          ∃ data', (s.copies i).toBytes = .ok data' ∧ (s.copies j).toBytes = .ok data') ∧
        ∀ move, (s.move r sig move).1 = .ok () ∨ ∃ i holds wait submitter n,
          move = .sign i holds true wait submitter ∧ (s.move r sig move).1 = .error (.noSigner n) := by
  obtain ⟨positions, ha, _⟩ := SignedTx.exists_authorization hw hc ht hg
  obtain ⟨hl, hlt⟩ := hp positions ha
  obtain ⟨c, rfl, rfl, rfl, rfl⟩ := Ceremony.exists_ceremony hw ha h2 hf hlt hl hs
  have hread := SignedTx.ofBytes_eq_ok.2 ⟨rfl, hw⟩
  refine ⟨c.positions, c.digest, ha, c.digested, fun policy => ofBytes_eq_ok.2 ⟨_, hread, rfl⟩, ?_⟩
  intro start moves hstart hknown s
  have hs : c.Agrees s := by
    refine Ceremony.Agrees.run (fun i => ?_) hr moves
    obtain ⟨policy, hi⟩ := hstart i
    obtain ⟨tx, ht, hi⟩ := ofBytes_eq_ok.1 hi
    obtain rfl := Except.ok.inj (hread.symm.trans ht)
    rw [← hi, funext (hknown i)]
    exact .ofTx _ policy
  refine ⟨fun i => ?_, fun i j hk => ?_, fun move => (hs.move hr move).2⟩
  · rw [(hs i).tx]
    exact c.countersigned (s.known i)
  · obtain ⟨data', hd⟩ := (hs i).toBytes
    refine ⟨data', hd, ?_⟩
    have he : (s.copies j).tx = (s.copies i).tx := by rw [(hs i).tx, (hs j).tx, Ceremony.tx_congr hk]
    rw [Draft.toBytes, he]
    exact hd

def removal : SignedTx where
  chain := .platform
  unsigned := .record Chain.Platform.removeSubnetValidatorTx
    [.record Chain.Component.baseTx [.int 1, .bytes (Bytes.zeros 32), .list [], .list [], .bytes []],
      .bytes (Bytes.zeros 20), .bytes (Bytes.zeros 32), .record Chain.Secp.input [.list [.int 1, .int 0]]]
  creds := [⟨.secp, [List.replicate signatureSize 1]⟩, .blank 2]

def twoKeys : Ownership := ⟨[List.replicate 20 1, List.replicate 20 2], 2, by decide⟩

def stamp (address _ : Bytes) : Bytes := 1 :: List.replicate 64 (address.headD 0)

theorem removal_converges : ∃ data digest, removal.toBytes = .ok data ∧ removal.digest = .ok digest ∧
    ∀ moves : List (Move Bool),
      let s := Circle.run (fun _ b => (.ok twoKeys, b)) stamp moves
        ⟨fun _ => .ofTx removal .standard, fun _ _ => false, ()⟩
      (∀ i, Countersigned removal [1, 0] twoKeys (stamp · digest) (s.known i) (s.copies i).tx) ∧
      (s.known false = s.known true → (s.copies false).toBytes = (s.copies true).toBytes) := by
  have ha : removal.authorization = .ok [1, 0] := rfl
  have hne (address digest : Bytes) : stamp address digest ≠ emptySignature := by
    intro h
    exact absurd (List.cons.inj h).1 (by decide)
  have hw : removal.toBytes.toOption.isSome = true := by decide +kernel
  obtain ⟨data, hw⟩ : ∃ data, removal.toBytes = .ok data := by
    cases h : removal.toBytes with
    | error f =>
      rw [h] at hw
      cases hw
    | ok data => exact ⟨data, rfl⟩
  have hp (positions : List Int) (hp : removal.authorization = .ok positions) :
      removal.trailingSigs.length = positions.length ∧ ∀ p ∈ positions, p < twoKeys.controlKeys.length := by
    obtain rfl := Except.ok.inj (ha.symm.trans hp)
    decide +kernel
  obtain ⟨positions, digest, ha', hd, hread, h⟩ := @signing_converges Bool Unit _ (fun _ b => (.ok twoKeys, b)) stamp
    removal data _ twoKeys hw rfl rfl (by decide +kernel) (by decide) (by decide +kernel) hp (fun _ _ => rfl)
    fun address digest => ⟨by simp [stamp, signatureSize], hne address digest⟩
  obtain rfl := Except.ok.inj (ha.symm.trans ha')
  refine ⟨data, digest, hw, hd, fun moves => ?_⟩
  obtain ⟨hc, he, _⟩ := h ⟨fun _ => .ofTx removal .standard, fun _ _ => false, ()⟩ moves
    (fun _ => ⟨.standard, hread .standard⟩) fun _ _ => rfl
  refine ⟨hc, fun hk => ?_⟩
  obtain ⟨data', h₁, h₂⟩ := he false true fun key _ => congrFun hk key
  exact h₁.trans h₂.symm

end Countersign.Draft

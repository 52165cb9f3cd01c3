import Countersign.Proofs.Chain.Room

/-! Where a transaction is sent: to which chain and which network. All chains find the network of the same bytes at the
same place. Credentials can hide the chain of a transaction, since another chain may read them as fields of its own,
but they never make it pass for one of another chain. -/

namespace Countersign.Chain

open Wire

variable {form : TxForm} {c c' : Chain} {tx tx' : Value} {data : Bytes}

lemma reading_network (h : reading? form data c = some tx) :
    10 ≤ data.length ∧ c.networkId? tx = some (networkNumber data : Int) := by
  obtain ⟨creds, hw⟩ := reading?_eq_some.1 h
  exact networkId?_of_write hw

lemma networkOf_of_classify (h : classify form data = some (c, tx)) : networkOf form data = networkNumber data := by
  have hr := (classify_eq_some.1 h).1
  simp [networkOf, networkTold, h, (reading_network hr).2]

lemma networkOf_of_detect (h : detect form data = some c) : networkOf form data = networkNumber data := by
  obtain ⟨⟨_, tx⟩, hc, rfl⟩ := Option.map_eq_some_iff.1 h
  exact networkOf_of_classify hc

lemma networkOf_of_undetected (h : detect form data = none) : networkOf form data = 0 := by
  have hc : classify form data = none := Option.map_eq_none_iff.1 h
  simp [networkOf, networkTold, hc]

lemma detect_eq_some : detect form data = some c ↔
    (∃ tx, reading? form data c = some tx) ∧ ∀ c' ≠ c, reading? form data c' = none := by
  simp only [detect, Option.map_eq_some_iff, Prod.exists, exists_and_right, exists_eq_right, classify_eq_some]

lemma detect_isSome : (detect form data).isSome = true ↔ ∃! c, (reading? form data c).isSome = true := by
  simp only [Option.isSome_iff_exists, detect_eq_some]
  constructor
  · rintro ⟨c, hr, hc⟩
    refine ⟨c, hr, fun c' ⟨tx, hr'⟩ => ?_⟩
    by_contra hne
    simp [hc c' hne] at hr'
  · rintro ⟨c, hr, hc⟩
    refine ⟨c, hr, fun c' hne => ?_⟩
    by_contra hr'
    exact hne (hc c' (Option.ne_none_iff_exists'.1 hr'))

/-- Every chain that reads a transaction finds its network in the same four bytes, and has one for each of its
transactions. So chains that read the same bytes agree on it, and it is told exactly where a single chain reads them,
unless one of the readings is given up for want of room. -/
theorem networks_agree (room : Nat) (form : TxForm) (data : Bytes) :
    (∀ c tx, reading? form data c = some tx →
      10 ≤ data.length ∧ c.networkId? tx = some (networkNumber data : Int)) ∧
    (∀ c c' tx tx', reading? form data c = some tx → reading? form data c' = some tx' →
      c.networkId? tx = c'.networkId? tx') ∧
    (∀ c tx, classify form data = some (c, tx) → c.networkId? tx = some (networkOf form data)) ∧
    ((∃! c, (reading? form data c).isSome = true) → networkOf form data = networkNumber data) ∧
    ((¬ ∃! c, (reading? form data c).isSome = true) → networkOf form data = 0) ∧
    (networkIn room form data = .ok (networkOf form data) ↔ ∀ c, readingIn room form data c ≠ .error .noRoom) ∧
    (∀ c, Gauged data (.ok (reading? form data c)) (readingIn · form data c)) ∧
    Gauged data (.ok (networkOf form data)) (networkIn · form data) := by
  refine ⟨fun c tx => reading_network, ?_, ?_, ?_, ?_, networkIn_eq_ok, readingIn_gauged form data,
    networkIn_gauged form data⟩
  · intro c c' tx tx' h h'
    rw [(reading_network h).2, (reading_network h').2]
  · intro c tx h
    rw [(reading_network (classify_eq_some.1 h).1).2, networkOf_of_classify h]
  · intro h
    obtain ⟨c, hc⟩ := Option.isSome_iff_exists.1 (detect_isSome.2 h)
    exact networkOf_of_detect hc
  · intro h
    apply networkOf_of_undetected
    simpa [← detect_isSome] using h

theorem locked_network_untold : ∃ data, write .unsigned .platform (Platform.lockedTx 400) [] = .ok data ∧
    detect .unsigned data = some .platform ∧ networkOf .unsigned data = 1 ∧
    ∀ room ≤ 400, networkIn room .unsigned data = .error .noRoom := by
  obtain ⟨data, hw⟩ := Platform.exists_write_lockedTx 400
  have hr := reading?_eq_some.2 ⟨[], hw⟩
  obtain ⟨t, _, ht⟩ := reading?_type hr
  have hd : detect .unsigned data = some .platform := by
    refine detect_eq_some.2 ⟨⟨_, hr⟩, ?_⟩
    rintro (_ | _ | _) hne
    · exact absurd rfl hne
    · exact reading?_eq_none (platform_apart ht).1
    · exact reading?_eq_none (platform_apart ht).2
  have hn : networkId? .platform (Platform.lockedTx 400) = some 1 := rfl
  refine ⟨data, hw, hd, ?_, fun room hroom => networkIn_lockedTx hw (by omega)⟩
  rw [networkOf_of_detect hd]
  exact Option.some.inj ((reading_network hr).2.symm.trans hn)

/-! ### Credentials -/

def collisions : List (RecordType × RecordType) :=
  [(Exchange.plainTx, Contract.importTx), (Exchange.createAssetTx, Contract.exportTx)]

def Collide (tx tx' : Value) : Prop :=
  ∃ t u, (t, u) ∈ collisions ∧
    (tx.type? = some t ∧ tx'.type? = some u ∨ tx.type? = some u ∧ tx'.type? = some t)

lemma collide (hne : c' ≠ c) (h : reading? form data c = some tx) (h' : reading? form data c' = some tx') :
    Collide tx tx' := by
  obtain ⟨t, ht, hid⟩ := reading?_type h
  obtain ⟨u, hu, hid'⟩ := reading?_type h'
  have hxc {t u : RecordType} (ht : txType? .exchange (txNumber data) = some t)
      (hu : txType? .contract (txNumber data) = some u) : (t, u) ∈ collisions := by
    have := exchange_contract ht hu
    simpa [collisions]
  cases c <;> cases c'
  case platform.platform => exact absurd rfl hne
  case platform.exchange => simp [(platform_apart hid).1] at hid'
  case platform.contract => simp [(platform_apart hid).2] at hid'
  case exchange.platform => simp [(platform_apart hid').1] at hid
  case exchange.exchange => exact absurd rfl hne
  case exchange.contract => exact ⟨t, u, hxc hid hid', .inl ⟨ht, hu⟩⟩
  case contract.platform => simp [(platform_apart hid').2] at hid
  case contract.exchange => exact ⟨u, t, hxc hid' hid, .inr ⟨ht, hu⟩⟩
  case contract.contract => exact absurd rfl hne

lemma Collide.exists_collision (h : Collide tx tx') :
    ∃ t u, (t, u) ∈ collisions ∧ (tx.type? = some t ∨ tx.type? = some u) := by
  obtain ⟨t, u, hm, ⟨ht, _⟩ | ⟨hu, _⟩⟩ := h
  · exact ⟨t, u, hm, .inl ht⟩
  · exact ⟨t, u, hm, .inr hu⟩

/-- A transaction that is detected without its credentials is so with them, and for the same network, unless another
chain reads them as a part of its own transaction. Then none is detected, and only two pairs of types can meet so. -/
theorem credentials_never_mislead {tx : SignedTx} {front data : Bytes} (hf : tx.unsignedBytes = .ok front)
    (hd : detect .unsigned front = some tx.chain) (hw : tx.toBytes = .ok data) :
    (detect .signed data = some tx.chain ∧ networkOf .signed data = networkOf .unsigned front ∨
      detect .signed data = none ∧ networkOf .signed data = 0) ∧
    (detect .signed data = some tx.chain ↔ ∀ c ≠ tx.chain, reading? .signed data c = none) ∧
    (∀ c ≠ tx.chain, ∀ tx', reading? .signed data c = some tx' → Collide tx.unsigned tx') ∧
    ((∀ t u, (t, u) ∈ collisions → tx.unsigned.type? ≠ some t ∧ tx.unsigned.type? ≠ some u) →
      detect .signed data = some tx.chain) := by
  have hfront : tx.chain.write .unsigned tx.unsigned [] = .ok front := hf
  have hdata : tx.chain.write .signed tx.unsigned (tx.creds.map (·.toValue)) = .ok data := hw
  have hown : reading? .signed data tx.chain = some tx.unsigned := reading?_eq_some.2 ⟨_, hdata⟩
  have hiff : detect .signed data = some tx.chain ↔ ∀ c ≠ tx.chain, reading? .signed data c = none := by
    rw [detect_eq_some, and_iff_right ⟨_, hown⟩]
  have hcollide : ∀ c ≠ tx.chain, ∀ tx', reading? .signed data c = some tx' → Collide tx.unsigned tx' :=
    fun c hne tx' h => collide hne hown h
  refine ⟨?_, hiff, hcollide, fun h => hiff.2 fun c hne => ?_⟩
  · cases hs : detect .signed data with
    | none => exact .inr ⟨rfl, networkOf_of_undetected hs⟩
    | some c =>
      have hc : c = tx.chain := by
        by_contra hne
        have hr := (detect_eq_some.1 hs).2 tx.chain (Ne.symm hne)
        simp [hown] at hr
      have hn : some (networkNumber data : Int) = some (networkNumber front : Int) :=
        (networkId?_of_write hdata).2.symm.trans (networkId?_of_write hfront).2
      refine .inl ⟨by rw [hc], ?_⟩
      rw [networkOf_of_detect hs, networkOf_of_detect hd, Option.some.inj hn]
  · by_contra hr
    obtain ⟨tx', hr⟩ := Option.ne_none_iff_exists'.1 hr
    obtain ⟨t, u, hm, ht⟩ := (hcollide c hne tx' hr).exists_collision
    exact ht.elim (h t u hm).1 (h t u hm).2

/-- A plain transaction with one slot to sign. The contract chain takes its memo for the start of an import that sends
two outputs, and the second of them would end within the slot. -/
def disguise : SignedTx where
  chain := .exchange
  unsigned := .record Exchange.plainTx
    [.record Component.baseTx [.int 12345, .bytes (Bytes.zeros 32), .list [], .list [],
      .bytes (Bytes.zeros 24 ++ [0, 0, 0, 2] ++ Bytes.zeros 47)]]
  creds := [.blank 1]

theorem disguise_undetected : ∃ front data, disguise.unsignedBytes = .ok front ∧
    detect .unsigned front = some disguise.chain ∧ networkOf .unsigned front = 12345 ∧
    disguise.toBytes = .ok data ∧ detect .signed data ≠ some disguise.chain ∧ networkOf .signed data = 0 := by
  have hfront : disguise.unsignedBytes.toOption.map (fun b => (detect .unsigned b, networkOf .unsigned b)) =
      some (some .exchange, 12345) := by decide +kernel
  have hdata : disguise.toBytes.toOption.map (fun b => (detect .signed b, networkOf .signed b)) = some (none, 0) := by
    decide +kernel
  obtain ⟨front, hf, hd⟩ := exists_eq_ok_and hfront
  obtain ⟨data, hw, hs⟩ := exists_eq_ok_and hdata
  obtain ⟨hchain, hnetwork⟩ := Prod.mk.inj hd
  obtain ⟨hnone, hzero⟩ := Prod.mk.inj hs
  refine ⟨front, data, hf, hchain, hnetwork, hw, ?_, hzero⟩
  simp [hnone]

theorem disguise_ends : let signed := disguise.setSlot 0 0 (List.replicate signatureSize 1)
    ∃ front data, signed.unsignedBytes = .ok front ∧ detect .unsigned front = some .exchange ∧
      signed.toBytes = .ok data ∧ detect .signed data = some .exchange ∧
      networkOf .signed data = networkOf .unsigned front := by
  intro signed
  have hfront : signed.unsignedBytes.toOption.map (detect .unsigned) = some (some .exchange) := by decide +kernel
  have hdata : signed.toBytes.toOption.map (fun b => all.map fun c => (reading? .signed b c).isSome) =
      some [false, true, false] := by decide +kernel
  obtain ⟨front, hf, hd⟩ := exists_eq_ok_and hfront
  obtain ⟨data, hw, hr⟩ := exists_eq_ok_and hdata
  obtain ⟨hnetwork, hiff, _⟩ := credentials_never_mislead hf hd hw
  have hs : detect .signed data = some .exchange := by
    apply hiff.2
    simp only [all, List.map_cons, List.map_nil, List.cons.injEq, Option.isSome_eq_false_iff, Option.isNone_iff_eq_none] at hr
    rintro (_ | _ | _) hne
    · exact hr.1
    · exact absurd rfl hne
    · exact hr.2.2.1
  rcases hnetwork with ⟨_, hn⟩ | ⟨hnone, _⟩
  · exact ⟨front, data, hf, hd, hw, hs, hn⟩
  · simp [hs] at hnone

-- The other transactions of the two pairs can be hidden in the same way.
example :
    let base memo := Value.record Component.baseTx [.int 1, .bytes (Bytes.zeros 32), .list [], .list [], .bytes memo]
    let atomic t length := Value.record t [.int 1, .bytes (Bytes.zeros 32),
      .bytes (Bytes.zeros 8 ++ Bytes.ofNat 4 length ++ Bytes.zeros 20), .list [], .list []]
    let asset := Value.record Exchange.createAssetTx
      [base (Bytes.zeros 20 ++ [0, 0, 0, 2] ++ Bytes.zeros 58), .text "", .text "", .int 0, .list []]
    [SignedTx.mk .exchange asset [.blank 1], .mk .contract (atomic Contract.importTx 101) [.blank 1],
      .mk .contract (atomic Contract.exportTx 92) [.blank 1]].map (fun tx =>
        (tx.unsignedBytes.toOption.map (detect .unsigned), tx.toBytes.toOption.map (detect .signed))) =
      [(some (some .exchange), some none), (some (some .contract), some none), (some (some .contract), some none)] := by
  decide +kernel

end Countersign.Chain

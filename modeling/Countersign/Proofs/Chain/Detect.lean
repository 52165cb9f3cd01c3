import Countersign.Chain.Detect
import Countersign.Proofs.Chain.Platform

namespace Countersign.Chain

open Wire

variable {form : TxForm} {c : Chain} {tx : Value} {creds : List Value} {data : Bytes} {t : RecordType}

def write (form : TxForm) (c : Chain) (tx : Value) (creds : List Value) : Except Wire.Fault Bytes :=
  match form with
  | .unsigned => c.codec.marshal tx .unsignedTx
  | .signed => c.codec.marshalSigned tx creds

lemma reading?_eq_some : reading? form data c = some tx ↔ ∃ creds, c.write form tx creds = .ok data := by
  have hopt {α : Type} (x : Except Wire.Fault α) (y : α) : x.toOption = some y ↔ x = .ok y := by
    cases x <;> simp [Except.toOption]
  cases form with
  | unsigned =>
    rw [reading?, hopt]
    constructor
    · intro h
      exact ⟨[], Codec.unmarshal_canonical h⟩
    · rintro ⟨_, h⟩
      exact Codec.unmarshal_marshal c.spacious_codec h
  | signed =>
    simp only [reading?, Option.map_eq_some_iff, hopt]
    constructor
    · rintro ⟨⟨tx, creds⟩, h, rfl⟩
      exact ⟨creds, (Codec.unmarshalSigned_canonical h).1⟩
    · rintro ⟨creds, h⟩
      exact ⟨(tx, creds), Codec.unmarshalSigned_marshalSigned c.spacious_codec h, rfl⟩

/-! ### Numbers -/

def txNumber (data : Bytes) : Nat := Bytes.toNat ((data.drop versionBytes.length).take 4)

def txType? (c : Chain) (id : Nat) : Option RecordType := (c.codec.typeFor .unsignedTx id).toOption

lemma txType?_eq_some {id : Nat} : c.txType? id = some t ↔ c.codec.typeAt? id = some t ∧ t.implements .unsignedTx = true := by
  rw [txType?, ← Codec.typeFor_eq_ok]
  cases c.codec.typeFor .unsignedTx id <;> simp [Except.toOption]

lemma lt_of_typeAt? {id : Nat} (h : c.codec.typeAt? id = some t) : id < 40 := by
  obtain ⟨hl, _⟩ := List.getElem?_eq_some_iff.1 (Codec.typeAt?_eq_some.1 h)
  have hle : c.codec.entries.length ≤ 40 := by cases c <;> decide
  omega

lemma lt_of_txType? {id : Nat} (h : c.txType? id = some t) : id < 40 :=
  lt_of_typeAt? (txType?_eq_some.1 h).1

lemma exists_writeTagged (h : c.write form tx creds = .ok data) :
    ∃ b rest, c.codec.writeTagged .unsignedTx tx = .ok b ∧ versionBytes ++ (b ++ rest) = data := by
  cases form with
  | unsigned =>
    obtain ⟨b, hb, h⟩ := bind_eq_ok.1 h
    exact ⟨b, [], hb, by rw [List.append_nil]; exact pure_eq_ok.1 h⟩
  | signed =>
    obtain ⟨b, hb, h⟩ := bind_eq_ok.1 h
    obtain ⟨b', _, h⟩ := bind_eq_ok.1 h
    exact ⟨b, b', hb, by rw [← List.append_assoc]; exact pure_eq_ok.1 h⟩

lemma txType?_txNumber (h : c.write form tx creds = .ok data) :
    ∃ t, tx.type? = some t ∧ c.txType? (txNumber data) = some t := by
  obtain ⟨b, rest, hb, rfl⟩ := exists_writeTagged h
  obtain ⟨t, vs, id, b', rfl, ht, hk, hlt, _, rfl⟩ := Value.write_interface_eq_ok.1 hb
  have hid : txNumber (versionBytes ++ (Bytes.ofNat 4 id ++ b' ++ rest)) = id := by
    have htake : (Bytes.ofNat 4 id ++ (b' ++ rest)).take 4 = Bytes.ofNat 4 id :=
      List.take_left' (Bytes.length_ofNat 4 id)
    rw [txNumber, List.drop_left, List.append_assoc, htake, Bytes.toNat_ofNat 4 id hlt]
  exact ⟨t, rfl, by rw [hid, txType?_eq_some]; exact ⟨ht, hk⟩⟩

lemma platform_apart {id : Nat} (h : txType? .platform id = some t) :
    txType? .exchange id = none ∧ txType? .contract id = none := by
  have hall : ∀ id < 40, (txType? .platform id).isSome = true →
      (txType? .exchange id).isNone = true ∧ (txType? .contract id).isNone = true := by
    decide +kernel
  simpa using hall id (lt_of_txType? h) (by rw [h]; rfl)

lemma exchange_contract {id : Nat} {u : RecordType} (h : txType? .exchange id = some t)
    (h' : txType? .contract id = some u) :
    t = Exchange.plainTx ∧ u = Contract.importTx ∨ t = Exchange.createAssetTx ∧ u = Contract.exportTx := by
  have hall : ∀ id < 40, ∀ t ∈ txType? .exchange id, ∀ u ∈ txType? .contract id,
      t = Exchange.plainTx ∧ u = Contract.importTx ∨ t = Exchange.createAssetTx ∧ u = Contract.exportTx := by
    decide +kernel
  exact hall id (lt_of_txType? h) t h u h'

/-! ### Networks -/

lemma mem_typesOf {id : Nat} (h : c.txType? id = some t) : t ∈ c.codec.typesOf .unsignedTx := by
  obtain ⟨ht, hk⟩ := txType?_eq_some.1 h
  exact List.mem_filter.2 ⟨Codec.mem_types ht, hk⟩

def networkNumber (data : Bytes) : Nat := Bytes.toNat ((data.drop 6).take 4)

lemma network_first (ht : t ∈ c.codec.typesOf .unsignedTx) :
    (Layout.struct t).first? (c.header ++ ["network_id"]) = some .u32 := by
  have h : ∀ t ∈ c.codec.typesOf .unsignedTx, (Layout.struct t).first? (c.header ++ ["network_id"]) = some .u32 := by
    cases c <;> decide +kernel
  exact h t ht

lemma networkNumber_append {id n : Nat} (hn : n < Bytes.capacity 4) (more : Bytes) :
    networkNumber (versionBytes ++ (Bytes.ofNat 4 id ++ (Bytes.ofNat 4 n ++ more))) = n := by
  have hdrop : (Bytes.ofNat 4 id ++ (Bytes.ofNat 4 n ++ more)).drop 4 = Bytes.ofNat 4 n ++ more :=
    List.drop_left' (Bytes.length_ofNat 4 id)
  have htake : (Bytes.ofNat 4 n ++ more).take 4 = Bytes.ofNat 4 n := List.take_left' (Bytes.length_ofNat 4 n)
  rw [networkNumber, show 6 = versionBytes.length + 4 from rfl, ← List.drop_drop, List.drop_left, hdrop, htake]
  exact Bytes.toNat_ofNat 4 n hn

lemma networkId?_of_write (h : c.write form tx creds = .ok data) :
    10 ≤ data.length ∧ c.networkId? tx = some (networkNumber data : Int) := by
  obtain ⟨t, ht, hid⟩ := txType?_txNumber h
  have hm := mem_typesOf hid
  obtain ⟨b, rest, hb, rfl⟩ := exists_writeTagged h
  obtain ⟨u, vs, id, b', rfl, _, _, _, hf, rfl⟩ := Value.write_interface_eq_ok.1 hb
  obtain rfl := Option.some.inj ht
  obtain ⟨v, n, more, hv, hw, rfl⟩ := Value.write_first? (Value.write_struct_eq_ok.2 ⟨vs, rfl, hf⟩) (network_first hm)
  obtain ⟨s, rfl, hs⟩ := Value.write_scalar_eq_ok.1 hw
  cases s with
  | int m =>
    have hs : writeNumber 4 m = .ok n := hs
    obtain ⟨h0, hlt, rfl⟩ := writeNumber_eq_ok.1 hs
    have hn : m.toNat < Bytes.capacity 4 := (Int.toNat_lt h0).2 hlt
    have hx : c.isTxType u = true := decide_eq_true hm
    refine ⟨?_, ?_⟩
    · simp only [List.length_append, Bytes.length_ofNat, show versionBytes.length = 2 from rfl]
      omega
    · rw [List.append_assoc, List.append_assoc, networkNumber_append hn, Int.toNat_of_nonneg h0]
      simp only [networkId?, Value.type?, Option.bind_eq_bind, Option.bind_some, hx, if_true, hv]
      rfl
  | _ => cases hs

/-! ### Detection -/

structure Detected (form : TxForm) (data : Bytes) (c : Chain) (tx : Value) : Prop where
  chain : detect form data = some c
  network : ∃ n, c.networkId? tx = some n ∧ networkOf form data = n

lemma classify_eq_some : classify form data = some (c, tx) ↔
    reading? form data c = some tx ∧ ∀ c' ≠ c, reading? form data c' = none := by
  have hall (p : Chain → Prop) : (∀ c, p c) ↔ p .platform ∧ p .exchange ∧ p .contract :=
    ⟨fun h => ⟨h _, h _, h _⟩, fun ⟨hp, hx, hc⟩ c => by cases c <;> assumption⟩
  rw [hall, classify, readings, all]
  simp only [List.filterMap_cons, List.filterMap_nil]
  cases hp : reading? form data .platform <;> cases hx : reading? form data .exchange <;>
    cases hc : reading? form data .contract <;> cases c <;> simp [only?, hp, hx, hc]

lemma detected (h : c.write form tx creds = .ok data) (hc : ∀ c' ≠ c, reading? form data c' = none) :
    Detected form data c tx := by
  have hcl := classify_eq_some.2 ⟨reading?_eq_some.2 ⟨creds, h⟩, hc⟩
  have hn := (networkId?_of_write h).2
  refine ⟨by rw [detect, hcl]; rfl, _, hn, ?_⟩
  rw [networkOf, hcl]
  show (c.networkId? tx).getD 0 = _
  rw [hn, Option.getD_some]

lemma reading?_type (h : reading? form data c = some tx) :
    ∃ t, tx.type? = some t ∧ c.txType? (txNumber data) = some t := by
  obtain ⟨creds, hw⟩ := reading?_eq_some.1 h
  exact txType?_txNumber hw

lemma reading?_eq_none (h : c.txType? (txNumber data) = none) : reading? form data c = none := by
  cases hr : reading? form data c with
  | none => rfl
  | some tx =>
    obtain ⟨t, _, ht⟩ := reading?_type hr
    rw [h] at ht
    cases ht

/-- No bytes are read by the platform chain and another one. The other two read the same bytes only as the plain
transaction of the one and the import of the other, or as the creation of an asset and the export. So all other
transactions are detected, and nothing that a chain writes is taken for a transaction of another chain. -/
theorem detection_exact :
    (∀ form data tx, reading? form data .platform = some tx →
      reading? form data .exchange = none ∧ reading? form data .contract = none) ∧
    (∀ form data tx tx', reading? form data .exchange = some tx → reading? form data .contract = some tx' →
      tx.type? = some Exchange.plainTx ∧ tx'.type? = some Contract.importTx ∨
      tx.type? = some Exchange.createAssetTx ∧ tx'.type? = some Contract.exportTx) ∧
    (∀ form tx creds data, write form .platform tx creds = .ok data → Detected form data .platform tx) ∧
    (∀ form tx creds data, write form .exchange tx creds = .ok data →
      tx.type? ∈ [some Exchange.operationTx, some Exchange.importTx, some Exchange.exportTx] →
      Detected form data .exchange tx) ∧
    ∀ form c c' tx creds data, write form c tx creds = .ok data → detect form data = some c' → c' = c := by
  have hplatform : ∀ form data tx, reading? form data .platform = some tx →
      reading? form data .exchange = none ∧ reading? form data .contract = none := by
    intro form data tx h
    obtain ⟨t, _, ht⟩ := reading?_type h
    exact ⟨reading?_eq_none (platform_apart ht).1, reading?_eq_none (platform_apart ht).2⟩
  have hcollide : ∀ form data tx tx', reading? form data .exchange = some tx → reading? form data .contract = some tx' →
      tx.type? = some Exchange.plainTx ∧ tx'.type? = some Contract.importTx ∨
      tx.type? = some Exchange.createAssetTx ∧ tx'.type? = some Contract.exportTx := by
    intro form data tx tx' h h'
    obtain ⟨t, ht, hid⟩ := reading?_type h
    obtain ⟨u, hu, hid'⟩ := reading?_type h'
    rw [ht, hu]
    simpa using exchange_contract hid hid'
  refine ⟨hplatform, hcollide, ?_, ?_, ?_⟩
  · intro form tx creds data h
    obtain ⟨hx, hc⟩ := hplatform form data tx (reading?_eq_some.2 ⟨creds, h⟩)
    apply detected h
    rintro (_ | _ | _) hne
    · exact (hne rfl).elim
    · exact hx
    · exact hc
  · intro form tx creds data h ht
    have hx := reading?_eq_some.2 ⟨creds, h⟩
    apply detected h
    rintro (_ | _ | _) hne
    · cases hp : reading? form data .platform with
      | none => rfl
      | some tx' =>
        rw [(hplatform form data tx' hp).1] at hx
        cases hx
    · exact (hne rfl).elim
    · cases hc : reading? form data .contract with
      | none => rfl
      | some tx' =>
        rcases hcollide form data tx tx' hx hc with ⟨he, _⟩ | ⟨he, _⟩
        · rw [he] at ht
          exact absurd ht (by decide +kernel)
        · rw [he] at ht
          exact absurd ht (by decide +kernel)
  · intro form c c' tx creds data h hd
    obtain ⟨⟨_, tx'⟩, hcl, rfl⟩ := Option.map_eq_some_iff.1 hd
    by_contra hne
    have hr := (classify_eq_some.1 hcl).2 c (Ne.symm hne)
    rw [reading?_eq_some.2 ⟨creds, h⟩] at hr
    cases hr

def emptyImport : Value :=
  .record Exchange.importTx
    [.record Component.baseTx [.int 5, .bytes (Bytes.zeros 32), .list [], .list [], .bytes []],
      .bytes (Bytes.zeros 32), .list []]

theorem emptyImport_detected : ∃ data, write .signed .exchange emptyImport [] = .ok data ∧
    Detected .signed data .exchange emptyImport := by
  obtain ⟨data, h⟩ := exists_eq_ok (by decide +kernel : (write .signed .exchange emptyImport []).toOption.isSome = true)
  exact ⟨data, h, detection_exact.2.2.2.1 .signed emptyImport [] data h (by decide +kernel)⟩

-- Both collisions happen: the length of a memo hides in the chain that the other transaction names.
example :
    let base memo := Value.record Component.baseTx
      [.int 1, .bytes (Bytes.zeros 32), .list [], .list [], .bytes (Bytes.zeros memo)]
    let asset := Value.record Exchange.createAssetTx [base 19, .text "", .text "", .int 0, .list []]
    [Value.record Exchange.plainTx [base 28], asset].map (fun tx =>
      (write .unsigned .exchange tx []).toOption.bind fun data =>
        (reading? .unsigned data .contract).map fun tx' => (tx'.typeName, detect .unsigned data)) =
      [some ("ImportTx", none), some ("ExportTx", none)] := by
  decide +kernel

end Countersign.Chain

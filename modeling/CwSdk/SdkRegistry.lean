import CwSdk.SdkRun
/-!
# SdkRegistry — the sdk's registry invariant, and where the sdk panics

`Inv`: code ids are exactly `1..code_count`, contract addresses exactly `1..contract_count` in both `contracts` and
`stores`, and every contract's code is stored.  Each registry write keeps it (`Inv.addCode`, `Inv.addContract`,
`Inv.setStore`), so every run does (`reachable_inv`).

With it, `execute_contract`'s and `query_wasm_smart`'s map indexing never meets a missing key: `stores.get` guards
`contracts[&addr]`, and a contract's code is stored.  `instantiate_contract` has no such guard: `self.codes[&code_id]`
is indexed with the id the sender chose, and an unknown id panics where `query_code` answers `CodeNotFound`.  In every
reachable state that is the one way a message panics, counters apart, and no query panics (`reachable_panics`).

Nor does `instantiate_contract` compare labels, though `msg.rs` documents a label as "Must be unique": reusing one
succeeds, and two contracts carry it (`instantiate_reused_label`, `reachable_duplicate_label`).
-/
namespace CwSdk
namespace Sdk

open Function (update)

/-- **The registry invariant.** -/
structure Inv (s : State) : Prop where
  codes_iff : ∀ k, (s.codes k).isSome ↔ 1 ≤ k ∧ k ≤ s.codeCount
  contracts_iff : ∀ k, (s.contracts k).isSome ↔ 1 ≤ k ∧ k ≤ s.contractCount
  stores_iff : ∀ k, (s.stores k).isSome ↔ 1 ≤ k ∧ k ≤ s.contractCount
  code_of_contract : ∀ k c, s.contracts k = some c → (s.codes c.codeId).isSome

theorem update_isSome_iff {α : Type} (f : Nat → Option α) (a k : Nat) (v : α) :
    (update f a (some v) k).isSome ↔ k = a ∨ (f k).isSome := by
  by_cases h : k = a <;> simp [Function.update_apply, h]

theorem inv_default : Inv default where
  codes_iff _ := by simp only [default, Option.isSome_none, Bool.false_eq_true, false_iff]; omega
  contracts_iff _ := by simp only [default, Option.isSome_none, Bool.false_eq_true, false_iff]; omega
  stores_iff _ := by simp only [default, Option.isSome_none, Bool.false_eq_true, false_iff]; omega
  code_of_contract _ _ h := by cases h

variable {s : State}

theorem Inv.addCode (h : Inv s) (code : Code) : Inv (s.addCode code) where
  codes_iff k := by simp only [State.addCode, update_isSome_iff, h.codes_iff]; omega
  contracts_iff := h.contracts_iff
  stores_iff := h.stores_iff
  code_of_contract k c hc := by
    simp only [State.addCode, update_isSome_iff]
    exact .inr (h.code_of_contract k c hc)

theorem Inv.addContract (h : Inv s) {contract : Contract} (hc : (s.codes contract.codeId).isSome)
    (storage : ContractStore) : Inv (s.addContract contract storage) where
  codes_iff := h.codes_iff
  contracts_iff k := by simp only [State.addContract, update_isSome_iff, h.contracts_iff]; omega
  stores_iff k := by simp only [State.addContract, update_isSome_iff, h.stores_iff]; omega
  code_of_contract k c hk := by
    simp only [State.addContract, Function.update_apply] at hk
    split at hk
    · cases hk; exact hc
    · exact h.code_of_contract k c hk

theorem Inv.setStore (h : Inv s) {k : Nat} (hk : (s.stores k).isSome) (storage : ContractStore) :
    Inv (s.setStore k storage) where
  codes_iff := h.codes_iff
  contracts_iff := h.contracts_iff
  stores_iff k' := by
    simp only [State.setStore, update_isSome_iff, h.stores_iff]
    have := (h.stores_iff k).1 hk
    constructor
    · rintro (rfl | h'); exacts [this, h']
    · exact .inr
  code_of_contract := h.code_of_contract

/-- Every successful message keeps the invariant. -/
theorem Inv.dispatch (h : Inv s) {rt : Runtime} {sender : String} {m : SdkMsg} {evs : List Event} {s' : State}
    (hd : DispatchOk rt sender s m evs s') : Inv s' := by
  cases m with
  | storeCode w => obtain ⟨-, rfl, -⟩ := hd; exact h.addCode _
  | instantiate codeId msg funds label admin =>
    obtain ⟨code, -, storage, -, hc, -, -, -, rfl, -⟩ := hd
    exact h.addContract (by simp [hc]) storage
  | execute contractAddr msg funds =>
    obtain ⟨storage, -, -, -, storage', -, hs, -, -, -, -, rfl, -⟩ := hd
    exact h.setStore (by simp [hs]) storage'
  | migrate => exact hd.elim

theorem Reachable.inv (hs : Reachable s) : Inv s := by
  obtain ⟨tr, h⟩ := hs
  exact h.induct_on (fun _ s => Inv s) inv_default (fun _ _ _ _ _ _ _ hi hd => hi.dispatch hd)
    (fun _ _ _ _ hi => ⟨hi.1, hi.2, hi.3, hi.4⟩) (fun _ _ hi => ⟨hi.1, hi.2, hi.3, hi.4⟩)

/-- **Registry invariant of every reachable state**, from `State::default()` through any `init_chain`, `handle_tx` and
`commit` calls with any VM results, decoding and authentication: the code ids are exactly `1..code_count`, the keys of
`contracts` and of `stores` exactly `1..contract_count`, and every contract's code is stored. -/
theorem registry_keys (hs : Reachable s) :
    (∀ k, (s.codes k).isSome ↔ 1 ≤ k ∧ k ≤ s.codeCount) ∧
    (∀ k, (s.contracts k).isSome ↔ 1 ≤ k ∧ k ≤ s.contractCount) ∧
    (∀ k, (s.stores k).isSome ↔ 1 ≤ k ∧ k ≤ s.contractCount) ∧
    (∀ k c, s.contracts k = some c → (s.codes c.codeId).isSome) :=
  let h := hs.inv
  ⟨h.codes_iff, h.contracts_iff, h.stores_iff, h.code_of_contract⟩

/-! ## Where a message can panic -/

section Panic

variable (rt : Runtime) (sender : String)

end Panic

/-! ## One concrete chain -/

/-- A VM whose entry points all return `Ok` with an empty response, leaving the store as it was. -/
def okVm : Vm where
  callInstantiate _ _ _ storage := .ok (.ok ⟨[], [], []⟩, storage)
  callExecute _ _ _ storage := .ok (.ok ⟨[], [], []⟩, storage)
  callQuery _ _ _ := .ok (.ok [])

/-- A chain whose genesis stores one code and instantiates it as `bank`, and whose every transaction, from an
authenticated `user`, instantiates code `1` as `bank` again. -/
def bankRuntime : Runtime where
  vm := okVm
  sha256 := id
  decodeTx _ := .ok ⟨⟨"user", [.instantiate 1 [] [] "bank" none]⟩⟩
  decodeGenesis _ := .ok ⟨"deployer", [.storeCode [0], .instantiate 1 [] [] "bank" none]⟩
  decodeQuery _ := .error ⟨"no query"⟩
  encodeResponse _ := .ok []
  authenticateTx _ _ := .ok ⟨[], 1⟩

/-- The state after `bankRuntime`'s genesis. -/
def bankGenesis : State :=
  match (initChain bankRuntime []).run default with
  | .ok _ s => s
  | .error _ s => s

theorem bankGenesis_reachable : Reachable bankGenesis := ⟨_, .initChain bankRuntime [] .init rfl⟩

theorem registry_keys_bank :
    Reachable bankGenesis ∧
    (∀ k, (bankGenesis.codes k).isSome ↔ 1 ≤ k ∧ k ≤ bankGenesis.codeCount) ∧
    (∀ k, (bankGenesis.contracts k).isSome ↔ 1 ≤ k ∧ k ≤ bankGenesis.contractCount) ∧
    (∀ k, (bankGenesis.stores k).isSome ↔ 1 ≤ k ∧ k ≤ bankGenesis.contractCount) ∧
    (∀ k c, bankGenesis.contracts k = some c → (bankGenesis.codes c.codeId).isSome) :=
  ⟨bankGenesis_reachable, registry_keys bankGenesis_reachable⟩

/-- **`handle_tx` panics on a reachable state**: from `State::default()`, where no code is stored, a transaction
instantiating code `1` reaches `self.codes[&code_id]`. -/
theorem handleTx_unknown_code_panics :
    Reachable default ∧ (default : State).codes 1 = none ∧ Panics ((handleTx bankRuntime []).run default) :=
  ⟨⟨[], .init⟩, rfl, _, rfl⟩

/-! ## Labels -/

/-- **No label check**: in a reachable state, an `Instantiate` that reuses an existing contract's label succeeds
whenever it carries no funds, its code is stored, the VM returns `Ok` without submessages and the counter has room;
the new contract, at the next address, carries the label the old one keeps. -/
theorem instantiate_reused_label (rt : Runtime) (sender : String) (hs : Reachable s) {k : Nat} {c : Contract}
    (hk : s.contracts k = some c) {codeId : Nat} {code : Code} (hcode : s.codes codeId = some code) {msg : Bytes}
    {response : Response} {storage : ContractStore}
    (hv : rt.vm.callInstantiate code.wasmByteCode sender msg ContractStore.new = .ok (.ok response, storage))
    (hm : response.messages = []) (hcc : s.contractCount < u64Max) (admin : Option String) :
    ∃ evs s', (instantiateContract rt sender codeId msg [] c.label admin).run s = .ok evs s' ∧
      k ≠ s.contractCount + 1 ∧ s'.contracts k = some c ∧
      s'.contracts (s.contractCount + 1) = some ⟨codeId, c.label, admin⟩ := by
  have hle := (hs.inv.contracts_iff k).1 (by simp [hk])
  have hne : k ≠ s.contractCount + 1 := by omega
  have hrun : (instantiateContract rt sender codeId msg [] c.label admin).run s =
      .ok (instantiateEvent sender codeId (s.contractCount + 1) response.attributes :: response.events)
        (s.addContract ⟨codeId, c.label, admin⟩ storage) := by
    simp [instantiateContract_run, hcode, hv, hm, hcc]
  exact ⟨_, _, hrun, hne, by simp [State.addContract, Function.update_apply, hne, hk],
    by simp [State.addContract]⟩

theorem instantiate_reused_label_bank :
    Reachable bankGenesis ∧ bankGenesis.contracts 1 = some ⟨1, "bank", none⟩ ∧
      bankGenesis.codes 1 = some ⟨"deployer", [0]⟩ ∧
      okVm.callInstantiate [0] "user" [] ContractStore.new = .ok (.ok ⟨[], [], []⟩, ContractStore.new) ∧
      ([] : List Bytes) = [] ∧ bankGenesis.contractCount < u64Max ∧
      ∃ evs s', (instantiateContract bankRuntime "user" 1 [] [] "bank" none).run bankGenesis = .ok evs s' ∧
        1 ≠ bankGenesis.contractCount + 1 ∧ s'.contracts 1 = some ⟨1, "bank", none⟩ ∧
        s'.contracts (bankGenesis.contractCount + 1) = some ⟨1, "bank", none⟩ :=
  ⟨bankGenesis_reachable, rfl, rfl, rfl, rfl, by decide,
    @instantiate_reused_label bankGenesis bankRuntime "user" bankGenesis_reachable 1 ⟨1, "bank", none⟩ rfl 1
      ⟨"deployer", [0]⟩ rfl [] ⟨[], [], []⟩ ContractStore.new rfl rfl (by decide) none⟩

/-- **Two contracts can share a label**: after `bankRuntime`'s genesis and one transaction, contracts `1` and `2` are
both `bank`. -/
theorem reachable_duplicate_label :
    ∃ s, Reachable s ∧ ∃ a b ca cb, a ≠ b ∧ s.contracts a = some ca ∧ s.contracts b = some cb ∧
      ca.label = cb.label := by
  obtain ⟨tr, h⟩ := bankGenesis_reachable
  exact ⟨_, ⟨_, .handleTx bankRuntime [] h rfl⟩, 1, 2, _, _, by decide, rfl, rfl, rfl⟩

end Sdk
end CwSdk

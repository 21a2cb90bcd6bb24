import CwSdk.SdkRegistry
/-!
# SdkHistory — what a run's messages wrote is what the registry holds

Along a run, the `StoreCode` messages that succeeded got the ids `1, 2, 3, …` in the order they ran, and `codes[k]`
is the `k`-th one's creator and bytes; likewise the `Instantiate`s and `contracts`.  A contract's store is the one the
VM handed back at the last message that wrote it, its `instantiate` or one of its own `execute`s; nothing else ever
writes it.  Since a run's trace only grows, each of these reads holds from the step that made the write on.

The invariant is `History`; `History.dispatch` is its step, with `Inv` to know that the next id is fresh.
-/
namespace CwSdk
namespace Sdk

open Function (update)

def Effect.codeId? : Effect → Option Nat
  | .storeCode k _ => some k
  | _ => none

def Effect.contractAddr? : Effect → Option Nat
  | .instantiate k _ _ => some k
  | _ => none

/-- The store an effect leaves for contract `k`, when it writes it. -/
def Effect.storeOf? (k : Nat) : Effect → Option (Option ContractStore)
  | .instantiate k' _ storage => if k' = k then some storage else none
  | .execute k' storage => if k' = k then some storage else none
  | _ => none

/-- The store the last write to contract `k` left. -/
def lastStore (k : Nat) (tr : List Effect) : Option ContractStore :=
  tr.foldl (fun acc e => (e.storeOf? k).getD acc) none

theorem lastStore_append (k : Nat) (tr : List Effect) (e : Effect) :
    lastStore k (tr ++ [e]) = (e.storeOf? k).getD (lastStore k tr) := by
  simp [lastStore, List.foldl_append]

/-- **The run's history is the registry.** -/
structure History (tr : List Effect) (s : State) : Prop where
  code_ids : tr.filterMap Effect.codeId? = List.range' 1 s.codeCount
  codes : ∀ k c, Effect.storeCode k c ∈ tr → s.codes k = some c
  contract_addrs : tr.filterMap Effect.contractAddr? = List.range' 1 s.contractCount
  contracts : ∀ k c st, Effect.instantiate k c st ∈ tr → s.contracts k = some c
  stores : ∀ k, s.stores k = lastStore k tr

theorem history_default : History [] default where
  code_ids := rfl
  codes _ _ h := by cases h
  contract_addrs := rfl
  contracts _ _ _ h := by cases h
  stores _ := rfl

variable {tr : List Effect} {s : State}

theorem History.addCode (h : History tr s) (hi : Inv s) (code : Code) :
    History (tr ++ [.storeCode (s.codeCount + 1) code]) (s.addCode code) where
  code_ids := by simp [State.addCode, h.code_ids, Effect.codeId?, List.range'_concat, Nat.add_comm]
  codes k c hk := by
    simp only [List.mem_append, List.mem_singleton, Effect.storeCode.injEq] at hk
    rcases hk with hk | ⟨rfl, rfl⟩
    · have hc := h.codes k c hk
      have : k ≠ s.codeCount + 1 := by have := (hi.codes_iff k).1 (by simp [hc]); omega
      simp [State.addCode, Function.update_apply, this, hc]
    · simp [State.addCode]
  contract_addrs := by simp [State.addCode, h.contract_addrs, Effect.contractAddr?]
  contracts k c st hk := by
    simp only [List.mem_append, List.mem_singleton, reduceCtorEq, or_false] at hk
    exact h.contracts k c st hk
  stores k := by simp [State.addCode, lastStore_append, Effect.storeOf?, h.stores k]

theorem History.addContract (h : History tr s) (hi : Inv s) (contract : Contract) (storage : ContractStore) :
    History (tr ++ [.instantiate (s.contractCount + 1) contract (some storage)]) (s.addContract contract storage) where
  code_ids := by simp [State.addContract, h.code_ids, Effect.codeId?]
  codes k c hk := by
    simp only [List.mem_append, List.mem_singleton, reduceCtorEq, or_false] at hk
    exact h.codes k c hk
  contract_addrs := by
    simp [State.addContract, h.contract_addrs, Effect.contractAddr?, List.range'_concat, Nat.add_comm]
  contracts k c st hk := by
    simp only [List.mem_append, List.mem_singleton, Effect.instantiate.injEq] at hk
    rcases hk with hk | ⟨rfl, rfl, -⟩
    · have hc := h.contracts k c st hk
      have : k ≠ s.contractCount + 1 := by have := (hi.contracts_iff k).1 (by simp [hc]); omega
      simp [State.addContract, Function.update_apply, this, hc]
    · simp [State.addContract]
  stores k := by
    by_cases hk : k = s.contractCount + 1
    · subst hk; simp [State.addContract, lastStore_append, Effect.storeOf?]
    · simp [State.addContract, Function.update_apply, hk, lastStore_append, Effect.storeOf?, Ne.symm hk,
        h.stores k]

theorem History.setStore (h : History tr s) (k : Nat) (storage : ContractStore) :
    History (tr ++ [.execute k (some storage)]) (s.setStore k storage) where
  code_ids := by simp [State.setStore, h.code_ids, Effect.codeId?]
  codes k c hk := by
    simp only [List.mem_append, List.mem_singleton, reduceCtorEq, or_false] at hk
    exact h.codes k c hk
  contract_addrs := by simp [State.setStore, h.contract_addrs, Effect.contractAddr?]
  contracts k c st hk := by
    simp only [List.mem_append, List.mem_singleton, reduceCtorEq, or_false] at hk
    exact h.contracts k c st hk
  stores k' := by
    by_cases hk : k' = k
    · subst hk; simp [State.setStore, lastStore_append, Effect.storeOf?]
    · simp [State.setStore, Function.update_apply, hk, lastStore_append, Effect.storeOf?, Ne.symm hk,
        h.stores k']

/-- Every successful message writes the history's next entry. -/
theorem History.dispatch (h : History tr s) (hi : Inv s) {rt : Runtime} {sender : String} {m : SdkMsg}
    {evs : List Event} {s' : State} (hd : DispatchOk rt sender s m evs s') :
    History (tr ++ (effectOf rt sender s m).toList) s' := by
  cases m with
  | storeCode w => obtain ⟨-, rfl, -⟩ := hd; exact h.addCode hi _
  | instantiate codeId msg funds label admin =>
    obtain ⟨code, _, storage, -, hc, hv, -, -, rfl, -⟩ := hd
    simpa [effectOf, hc, hv, returnedStore] using h.addContract hi ⟨codeId, label, admin⟩ storage
  | execute contractAddr msg funds =>
    obtain ⟨storage, contract, code, _, storage', -, hs, hk, hc, hv, -, rfl, -⟩ := hd
    simpa [effectOf, hs, hk, hc, hv, returnedStore] using h.setStore contractAddr storage'
  | migrate => exact hd.elim

theorem Run.history (h : Run tr s) : Inv s ∧ History tr s :=
  h.induct_on (fun tr s => Inv s ∧ History tr s) ⟨inv_default, history_default⟩
    (fun _ _ _ _ _ _ _ hq hd => ⟨hq.1.dispatch hd, hq.2.dispatch hq.1 hd⟩)
    (fun _ _ _ _ hq => ⟨⟨hq.1.1, hq.1.2, hq.1.3, hq.1.4⟩, ⟨hq.2.1, hq.2.2, hq.2.3, hq.2.4, hq.2.5⟩⟩)
    (fun _ _ hq => ⟨⟨hq.1.1, hq.1.2, hq.1.3, hq.1.4⟩, ⟨hq.2.1, hq.2.2, hq.2.3, hq.2.4, hq.2.5⟩⟩)

/-- **Write-once registry and per-contract isolation along every run.**  The `k`-th `StoreCode` that succeeded
(genesis and transactions alike) got code id `k`, and `codes[k]` holds its creator and bytes; the `k`-th
`Instantiate` got address `k`, and `contracts[k]` holds it; and `stores[k]` is the store the VM returned at the last
message that wrote contract `k`: its `instantiate`, over an empty store, or one of its own `execute`s. -/
theorem registry_history (h : Run tr s) :
    tr.filterMap Effect.codeId? = List.range' 1 s.codeCount ∧
    (∀ k c, Effect.storeCode k c ∈ tr → s.codes k = some c) ∧
    tr.filterMap Effect.contractAddr? = List.range' 1 s.contractCount ∧
    (∀ k c st, Effect.instantiate k c st ∈ tr → s.contracts k = some c) ∧
    (∀ k, s.stores k = lastStore k tr) :=
  let h := h.history.2
  ⟨h.code_ids, h.codes, h.contract_addrs, h.contracts, h.stores⟩

theorem registry_history_bank :
    Run (initTrace bankRuntime default []) bankGenesis ∧
    (initTrace bankRuntime default []).filterMap Effect.codeId? = List.range' 1 bankGenesis.codeCount ∧
    (∀ k c, Effect.storeCode k c ∈ initTrace bankRuntime default [] → bankGenesis.codes k = some c) ∧
    (initTrace bankRuntime default []).filterMap Effect.contractAddr? = List.range' 1 bankGenesis.contractCount ∧
    (∀ k c st, Effect.instantiate k c st ∈ initTrace bankRuntime default [] → bankGenesis.contracts k = some c) ∧
    (∀ k, bankGenesis.stores k = lastStore k (initTrace bankRuntime default [])) :=
  have h : Run (initTrace bankRuntime default []) bankGenesis := .initChain bankRuntime [] .init rfl
  ⟨h, registry_history h⟩

end Sdk
end CwSdk

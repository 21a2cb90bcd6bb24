import CwSdk.SdkState
/-!
# SdkHandlers — `store_code`, `instantiate_contract`, `execute_contract`, `migrate_contract`

The four message handlers of `state_machine.rs`, and the closure `handle_tx` maps over a transaction's messages
(`dispatch`).  Each handler gets one `_run` lemma: its whole outcome, every check in the order the code makes it, with
the state it leaves written as one registry write (`State.addCode`, `State.addContract`, `State.setStore`).  Later
modules cite these and never unfold a handler.

Every check of a handler comes before its first write, so an `Err` leaves the state as it was
(`dispatch_error_state`): that includes `SubmessagesUnsupported`, raised after the VM has already produced a new store.
The one check that is not an `Err` is `self.codes[&code_id]`: an unknown code id panics.
-/
namespace CwSdk
namespace Sdk

open Function (update)

/-- Insert an event to the front of an array of events. -/
def prepend (event : Event) (events : List Event) : List Event := event :: events

def storeCodeEvent (codeId : Nat) (sender hashStr : String) : Event :=
  (((Event.new "store_code").addAttribute "code_id" (toString codeId)).addAttribute "sender" sender).addAttribute
    "hash" hashStr

def instantiateEvent (sender : String) (codeId contractAddr : Nat) (attrs : List Attribute) : Event :=
  ((((Event.new "instantiate_contract").addAttribute "sender" sender).addAttribute "code_id"
    (toString codeId)).addAttribute "contract_address" (toString contractAddr)).addAttributes attrs

def executeEvent (sender : String) (contractAddr : Nat) (attrs : List Attribute) : Event :=
  (((Event.new "execute_contract").addAttribute "sender" sender).addAttribute "contract_address"
    (toString contractAddr)).addAttributes attrs

section Handlers

variable (rt : Runtime)

def storeCode (sender : String) (wasmByteCode : Bytes) : EStateM Fault State Event := do
  let hash := rt.sha256 wasmByteCode
  let hashStr := hexEncode hash
  -- increment code count
  let codeCount ← incU64 (← get).codeCount
  modify fun s => { s with codeCount }
  -- insert code into the map
  let codeId := (← get).codeCount
  modify fun s => { s with codes := update s.codes codeId (some ⟨sender, wasmByteCode⟩) }
  pure (storeCodeEvent codeId sender hashStr)

def instantiateContract (sender : String) (codeId : Nat) (msg : Bytes) (funds : List Coin) (label : String)
    (admin : Option String) : EStateM Fault State (List Event) := do
  if !funds.isEmpty then throw (.error .fundsUnsupported)
  let code ← index (← get).codes codeId
  let (result, storage) ←
    liftResult ((rt.vm.callInstantiate code.wasmByteCode sender msg ContractStore.new).mapError .vm)
  match result with
  | .ok response =>
    if !response.messages.isEmpty then throw (.error .submessagesUnsupported)
    -- increment contract count
    let contractCount ← incU64 (← get).contractCount
    modify fun s => { s with contractCount }
    -- for now, we just use a number as contract address
    let contractAddr := (← get).contractCount
    modify fun s => { s with contracts := update s.contracts contractAddr (some ⟨codeId, label, admin⟩) }
    modify fun s => { s with stores := update s.stores contractAddr (some storage) }
    pure (prepend (instantiateEvent sender codeId contractAddr response.attributes) response.events)
  | .err err => throw (.error (.contract err))

def executeContract (sender : String) (contractAddr : Nat) (msg : Bytes) (funds : List Coin) :
    EStateM Fault State (List Event) := do
  if !funds.isEmpty then throw (.error .fundsUnsupported)
  let storage ← match (← get).stores contractAddr with
    | some storage => pure storage
    | none => throw (.error (.contractNotFound contractAddr))
  let contract ← index (← get).contracts contractAddr
  let code ← index (← get).codes contract.codeId
  let (result, storage) ← liftResult ((rt.vm.callExecute code.wasmByteCode sender msg storage).mapError .vm)
  match result with
  | .ok response =>
    if !response.messages.isEmpty then throw (.error .submessagesUnsupported)
    modify fun s => { s with stores := update s.stores contractAddr (some storage) }
    pure (prepend (executeEvent sender contractAddr response.attributes) response.events)
  | .err err => throw (.error (.contract err))

def migrateContract (_sender : String) (_contractAddr _codeId : Nat) (_msg : Bytes) :
    EStateM Fault State (List Event) :=
  throw (.error .migrationUnsupported)

/-- The closure `handle_tx` maps over the messages; `init_chain` runs the same match for each genesis message. -/
def dispatch (sender : String) : SdkMsg → EStateM Fault State (List Event)
  | .storeCode wasmByteCode => do
    let event ← storeCode rt sender wasmByteCode
    pure [event]
  | .instantiate codeId msg funds label admin => instantiateContract rt sender codeId msg funds label admin
  | .execute contract msg funds => executeContract rt sender contract msg funds
  | .migrate contract codeId msg => migrateContract sender contract codeId msg

end Handlers

/-! ## The registry writes -/

/-- What a successful `store_code` writes. -/
def State.addCode (s : State) (code : Code) : State :=
  { s with codeCount := s.codeCount + 1, codes := update s.codes (s.codeCount + 1) (some code) }

/-- What a successful `instantiate_contract` writes. -/
def State.addContract (s : State) (contract : Contract) (storage : ContractStore) : State :=
  { s with contractCount := s.contractCount + 1,
           contracts := update s.contracts (s.contractCount + 1) (some contract),
           stores := update s.stores (s.contractCount + 1) (some storage) }

/-- What a successful `execute_contract` writes. -/
def State.setStore (s : State) (contractAddr : Nat) (storage : ContractStore) : State :=
  { s with stores := update s.stores contractAddr (some storage) }

/-! ## What each handler does -/

section Run

variable (rt : Runtime) (sender : String)

theorem storeCode_run (wasmByteCode : Bytes) (s : State) :
    (storeCode rt sender wasmByteCode).run s =
      if s.codeCount < u64Max then
        .ok (storeCodeEvent (s.codeCount + 1) sender (hexEncode (rt.sha256 wasmByteCode)))
          (s.addCode ⟨sender, wasmByteCode⟩)
      else .error .panic s := by
  by_cases h : s.codeCount < u64Max <;> simp [storeCode, h, State.addCode]

theorem instantiateContract_run (codeId : Nat) (msg : Bytes) (funds : List Coin) (label : String)
    (admin : Option String) (s : State) :
    (instantiateContract rt sender codeId msg funds label admin).run s =
      if funds ≠ [] then .error (.error .fundsUnsupported) s else
      match s.codes codeId with
      | none => .error .panic s
      | some code =>
        match rt.vm.callInstantiate code.wasmByteCode sender msg ContractStore.new with
        | .error e => .error (.error (.vm e)) s
        | .ok (.err err, _) => .error (.error (.contract err)) s
        | .ok (.ok response, storage) =>
          if response.messages ≠ [] then .error (.error .submessagesUnsupported) s
          else if s.contractCount < u64Max then
            .ok (instantiateEvent sender codeId (s.contractCount + 1) response.attributes :: response.events)
              (s.addContract ⟨codeId, label, admin⟩ storage)
          else .error .panic s := by
  by_cases hf : funds = [] <;> simp [instantiateContract, hf]
  cases s.codes codeId <;> simp
  rcases rt.vm.callInstantiate _ sender msg ContractStore.new with e | ⟨_ | err, storage⟩ <;>
    simp [Except.mapError]
  split_ifs <;> simp [*, State.addContract, prepend]

theorem executeContract_run (contractAddr : Nat) (msg : Bytes) (funds : List Coin) (s : State) :
    (executeContract rt sender contractAddr msg funds).run s =
      if funds ≠ [] then .error (.error .fundsUnsupported) s else
      match s.stores contractAddr with
      | none => .error (.error (.contractNotFound contractAddr)) s
      | some storage =>
        match s.contracts contractAddr with
        | none => .error .panic s
        | some contract =>
          match s.codes contract.codeId with
          | none => .error .panic s
          | some code =>
            match rt.vm.callExecute code.wasmByteCode sender msg storage with
            | .error e => .error (.error (.vm e)) s
            | .ok (.err err, _) => .error (.error (.contract err)) s
            | .ok (.ok response, storage') =>
              if response.messages ≠ [] then .error (.error .submessagesUnsupported) s
              else .ok (executeEvent sender contractAddr response.attributes :: response.events)
                (s.setStore contractAddr storage') := by
  by_cases hf : funds = [] <;> simp [executeContract, hf]
  cases s.stores contractAddr <;> simp
  cases hk : s.contracts contractAddr <;> simp
  cases s.codes _ <;> simp
  rcases rt.vm.callExecute _ sender msg _ with e | ⟨_ | err, storage⟩ <;> simp [Except.mapError]
  split_ifs <;> simp [*, State.setStore, prepend]

/-- **What a message that succeeded did**: every check its handler makes passed, it made its one registry write, and
it returned its primary event followed by the contract's own events. -/
def DispatchOk (s : State) : SdkMsg → List Event → State → Prop
  | .storeCode wasmByteCode, evs, s' =>
    s.codeCount < u64Max ∧ s' = s.addCode ⟨sender, wasmByteCode⟩ ∧
      evs = [storeCodeEvent (s.codeCount + 1) sender (hexEncode (rt.sha256 wasmByteCode))]
  | .instantiate codeId msg funds label admin, evs, s' =>
    ∃ code response storage, funds = [] ∧ s.codes codeId = some code ∧
      rt.vm.callInstantiate code.wasmByteCode sender msg ContractStore.new = .ok (.ok response, storage) ∧
      response.messages = [] ∧ s.contractCount < u64Max ∧ s' = s.addContract ⟨codeId, label, admin⟩ storage ∧
      evs = instantiateEvent sender codeId (s.contractCount + 1) response.attributes :: response.events
  | .execute contractAddr msg funds, evs, s' =>
    ∃ storage contract code response storage', funds = [] ∧ s.stores contractAddr = some storage ∧
      s.contracts contractAddr = some contract ∧ s.codes contract.codeId = some code ∧
      rt.vm.callExecute code.wasmByteCode sender msg storage = .ok (.ok response, storage') ∧
      response.messages = [] ∧ s' = s.setStore contractAddr storage' ∧
      evs = executeEvent sender contractAddr response.attributes :: response.events
  | .migrate .., _, _ => False

theorem dispatch_ok {m : SdkMsg} {s s' : State} {evs : List Event}
    (h : (dispatch rt sender m).run s = .ok evs s') : DispatchOk rt sender s m evs s' := by
  cases m with
  | storeCode w =>
    by_cases hc : s.codeCount < u64Max <;> simp [dispatch, storeCode_run, hc] at h
    exact ⟨hc, h.2.symm, h.1.symm⟩
  | instantiate codeId msg funds label admin =>
    rw [dispatch, instantiateContract_run] at h
    by_cases hf : funds = []
    · simp only [hf, ne_eq, not_true_eq_false, if_false] at h
      cases hc : s.codes codeId with
      | none => simp [hc] at h
      | some code =>
        rcases hv : rt.vm.callInstantiate code.wasmByteCode sender msg ContractStore.new with
          e | ⟨_ | err, storage⟩ <;> simp [hc, hv] at h
        split_ifs at h with hm hcc
        cases h
        exact ⟨code, _, storage, hf, hc, hv, hm, hcc, rfl, rfl⟩
    · simp [hf] at h
  | execute contractAddr msg funds =>
    rw [dispatch, executeContract_run] at h
    by_cases hf : funds = []
    · simp only [hf, ne_eq, not_true_eq_false, if_false] at h
      cases hs : s.stores contractAddr with
      | none => simp [hs] at h
      | some storage =>
        cases hk : s.contracts contractAddr with
        | none => simp [hs, hk] at h
        | some contract =>
          cases hc : s.codes contract.codeId with
          | none => simp [hs, hk, hc] at h
          | some code =>
            rcases hv : rt.vm.callExecute code.wasmByteCode sender msg storage with
              e | ⟨_ | err, storage'⟩ <;> simp [hs, hk, hc, hv] at h
            split_ifs at h with hm
            cases h
            exact ⟨storage, contract, code, _, storage', hf, hs, hk, hc, hv, hm, rfl, rfl⟩
    · simp [hf] at h
  | migrate => simp [dispatch, migrateContract] at h

/-- **An `Err` leaves the state as it was**, whichever handler raised it. -/
theorem dispatch_error_state (m : SdkMsg) {s s' : State} {e : StateError}
    (h : (dispatch rt sender m).run s = .error (.error e) s') : s' = s := by
  cases m with
  | storeCode w => by_cases hc : s.codeCount < u64Max <;> simp [dispatch, storeCode_run, hc] at h
  | instantiate codeId msg funds label admin =>
    rw [dispatch, instantiateContract_run] at h
    repeat' split at h
    all_goals (cases h; try rfl)
  | execute contractAddr msg funds =>
    rw [dispatch, executeContract_run] at h
    repeat' split at h
    all_goals (cases h; try rfl)
  | migrate => simp only [dispatch, migrateContract, run_throw, EStateM.Result.error.injEq] at h; exact h.2.symm

end Run

end Sdk
end CwSdk

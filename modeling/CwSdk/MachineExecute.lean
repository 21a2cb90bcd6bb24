import CwSdk.MachineStore
/-!
# MachineExecute — the state-machine package's handlers (`execute.rs`)

`store_code` takes the store by `&mut`; `instantiate_contract` and `execute_contract` take it by value and return only
the contract's result, so what they leave is what the caller's handle on the same storage sees afterwards.  All three
are computations over the store, whose final state is that.  `sudo_contract` and `transfer_funds` hand their store
back, and are functions.

A contract run is `Vm`: from the code, the call's arguments and what the contract reads in its substore, the
contract's result and the writes it made through the host ABI, or a VM error.  Every contract behaviour is one such
function.  `Host` holds what the package takes from `cw_sdk` and `cosmwasm_std`.

One spec lemma per handler: `sudoContract_eq`, `transferFunds_ok`, `executeContract_ok_ok` with
`executeContract_unchanged`, and `instantiateContract_ok_ok` with `instantiateContract_cases`.
-/
namespace CwSdk
namespace Machine

open Sdk (u64Max hexEncode)

/-- How a call ends other than by returning: a panic, or an `Err`. -/
inductive Fault where
  | panic
  | error (e : Error)
  deriving DecidableEq, Repr

/-- `?` on a `Result` of the package. -/
def liftExcept {σ α : Type} : Except Error α → EStateM Fault σ α
  | .ok a => pure a
  | .error e => throw (.error e)

@[simp] theorem liftExcept_ok {σ α : Type} (a : α) : (liftExcept (.ok a) : EStateM Fault σ α) = pure a := rfl

@[simp] theorem liftExcept_error {σ α : Type} (e : Error) :
    (liftExcept (.error e) : EStateM Fault σ α) = throw (.error e) := rfl

@[simp] theorem except_pure {ε α : Type} (a : α) : (pure a : Except ε α) = .ok a := rfl

@[simp] theorem except_bind_ok {ε α β : Type} (a : α) (f : α → Except ε β) : (Except.ok a >>= f) = f a := rfl

@[simp] theorem except_bind_error {ε α β : Type} (e : ε) (f : α → Except ε β) :
    (Except.error e >>= f) = Except.error e := rfl

@[simp] theorem except_map_ok {ε α β : Type} (a : α) (f : α → β) :
    (f <$> Except.ok a : Except ε β) = .ok (f a) := rfl

@[simp] theorem except_map_error {ε α β : Type} (e : ε) (f : α → β) :
    (f <$> Except.error e : Except ε β) = .error e := rfl

/-- `bank::SudoMsg`, what the bank contract's `sudo` entry point takes. -/
inductive BankSudoMsg where
  | transfer («from» «to» : String) (coins : List Coin)
  deriving DecidableEq, Repr

/-- What the package takes from `cw_sdk` and `cosmwasm_std`: `address::derive_from_label`, `to_binary` of a bank sudo
message, and `hash::sha256`. -/
structure Host where
  deriveFromLabel : String → Except Error String
  toBinary : BankSudoMsg → Except Error Bytes
  sha256 : Bytes → Bytes

/-- What a contract call returns: the contract's result and the writes it made, or a VM error. -/
abbrev VmResult := Except VmError (ContractResult Response × List Write)

/-- `cosmwasm_vm`'s `Instance::from_code` with `call_instantiate`, `call_execute` or `call_sudo`: each reads the
contract's substore through the function it is given. -/
structure Vm where
  callInstantiate : Bytes → Env → MessageInfo → Bytes → (Bytes → Option Bytes) → VmResult
  callExecute : Bytes → Env → MessageInfo → Bytes → (Bytes → Option Bytes) → VmResult
  callSudo : Bytes → Env → Bytes → (Bytes → Option Bytes) → VmResult

/-- Modelled from the spec: `address::ADDRESS_PREFIX`, not in the source (§6: default `cw`). -/
def addressPrefix : String := "cw"

/-- `str::starts_with`, on characters. -/
def startsWith (s pre : String) : Bool := pre.toList.isPrefixOf s.toList

/-- `Instance::from_code` over `ContractSubstore::new(cache, address)`, the entry point `call`, then
`instance.recycle().storage.recycle()`: the contract's result and the overlay holding its writes. -/
def runInstance {C : Type} [Storage C] (cache : C) (address : String) (call : (Bytes → Option Bytes) → VmResult) :
    Except Error (ContractResult Response × C) :=
  let substore := ContractSubstore.new cache address
  match call substore.read with
  | .ok (result, writes) => .ok (result, (substore.applyWrites writes).recycle)
  | .error e => .error (.vm e)

section Handlers

variable {S : Type} [Storage S] (host : Host)

/-- `CODE_COUNT.update(store, |count| Ok(count + 1))`; `count + 1` panics at `u64::MAX`. -/
def codeCountUpdate : EStateM Fault S Nat := do
  let count ← liftExcept (codeCountLoad (← get))
  if count < u64Max then
    modify (Storage.set · .codeCount (.count (count + 1)))
    pure (count + 1)
  else throw .panic

def storeCodeEvent (senderAddr : String) (codeId : Nat) (codeHash : String) : Event :=
  (((Event.new "store_code").addAttribute "sender" senderAddr).addAttribute "code_id" (toString codeId)).addAttribute
    "code_hash" codeHash

def storeCode (senderAddr : String) (wasmByteCode : Bytes) : EStateM Fault S Event := do
  -- increment the code count
  let codeId ← codeCountUpdate
  -- save code to the store
  modify (codesSave · codeId wasmByteCode)
  let codeHash := hexEncode (host.sha256 wasmByteCode)
  pure (storeCodeEvent senderAddr codeId codeHash)

def instantiateContract (vm : Vm) (block : BlockInfo) (transaction : Option TransactionInfo) (info : MessageInfo)
    (codeId : Nat) (msg : Bytes) (label : String) (admin : Option String) :
    EStateM Fault S (ContractResult Response) := do
  let cache := Cached.new (← get)
  -- the label must not start with the prefix `cw1`, so that it is not confused with contract addresses
  if startsWith label (addressPrefix ++ "1") then throw (.error .illegalLabel)
  -- now we know the label is valid, derive contract address from it
  let contractAddr ← liftExcept (host.deriveFromLabel label)
  let env : Env := ⟨block, transaction, ⟨contractAddr⟩⟩
  -- load wasm binary code
  let code ← liftExcept (codesLoad cache codeId)
  let (result, cache) ← liftExcept (runInstance cache contractAddr (vm.callInstantiate code env info msg))
  -- if the contract execution is successful, we flush the state changes occurred during the instantiation call to
  -- the underlying store, and save the contract account
  match result with
  | .ok _ =>
    set cache.flush.recycle
    let (_, store) ← liftExcept (accountsUpdate (← get) contractAddr fun opt =>
      -- do not save the account if one of the same address already exists
      if opt.isSome then .error (.accountFound contractAddr) else .ok (.contract codeId label admin))
    set store
  | .err _ => pure ()
  pure result

def sudoContract (vm : Vm) (store : S) (env : Env) (msg : Bytes) : Except Error (ContractResult Response × S) := do
  let cache := Cached.new store
  -- load wasm binary code
  let code ← codeByAddress cache env.contract.address
  let (result, cache) ← runInstance cache env.contract.address (vm.callSudo code env msg)
  -- if the execution is successful, flush the state changes to the underlying store
  let cache := match result with
    | .ok _ => cache.flush
    | .err _ => cache
  pure (result, cache.recycle)

def transferFunds (vm : Vm) (store : S) (env : Env) (info : MessageInfo) : Except Error (List Event × S) := do
  let sudoEnv : Env := ⟨env.block, none, ⟨← host.deriveFromLabel "bank"⟩⟩
  let sudoMsg ← host.toBinary (.transfer info.sender env.contract.address info.funds)
  let (result, store) ← sudoContract vm store sudoEnv sudoMsg
  match result with
  | .ok resp => pure (resp.events, store)
  | .err err => throw (.fundTransferFailed err)

def executeContract (vm : Vm) (env : Env) (info : MessageInfo) (msg : Bytes) :
    EStateM Fault S (ContractResult Response) := do
  let cache := Cached.new (← get)
  -- if the message has coins attached to it, we first invoke bank contract to transfer the coins
  let (fundEvents, cache) ← liftExcept <|
    if !info.funds.isEmpty then transferFunds host vm cache env info else pure ([], cache)
  -- load wasm binary code
  let code ← liftExcept (codeByAddress cache env.contract.address)
  let (result, cache) ← liftExcept (runInstance cache env.contract.address (vm.callExecute code env info msg))
  match result with
  | .ok resp =>
    -- flush the state changes
    set cache.flush.recycle
    -- prepend fund transfer events
    pure (.ok { resp with events := fundEvents ++ resp.events })
  | .err err => pure (.err err)

theorem storeCode_run (senderAddr : String) (wasmByteCode : Bytes) (s : S) :
    (storeCode host senderAddr wasmByteCode).run s =
      match codeCountLoad s with
      | .error e => .error (.error e) s
      | .ok n =>
        if n < u64Max then
          .ok (storeCodeEvent senderAddr (n + 1) (hexEncode (host.sha256 wasmByteCode)))
            (codesSave (Storage.set s .codeCount (.count (n + 1))) (n + 1) wasmByteCode)
        else .error .panic s := by
  rcases hc : codeCountLoad s with e | n
  · simp [storeCode, codeCountUpdate, hc]
  · by_cases hn : n < u64Max <;> simp [storeCode, codeCountUpdate, hc, hn]

theorem sudoContract_eq (vm : Vm) (store : S) (env : Env) (msg : Bytes) :
    sudoContract vm store env msg =
      match codeByAddress store env.contract.address with
      | .error e => .error e
      | .ok code =>
        match vm.callSudo code env msg (ContractSubstore.new store env.contract.address).read with
        | .error e => .error (.vm e)
        | .ok (.ok r, ws) => .ok (.ok r, applyOps store (substoreOps env.contract.address ws))
        | .ok (.err e, _) => .ok (.err e, store) := by
  rcases hc : codeByAddress store env.contract.address with e | code
  · simp [sudoContract, hc]
  · rcases hv : vm.callSudo code env msg (ContractSubstore.new store env.contract.address).read
      with e | ⟨r | e, ws⟩
    all_goals simp [sudoContract, hc, runInstance, hv, Cached.flush_applyOps]

/-- The bank's `sudo` `Transfer{from: info.sender, to: env.contract.address, coins: info.funds}` ran on `store` and
returned `Ok` with `events`, having made the writes `ops`, in its own substore. -/
def BankTransferred (vm : Vm) (store : S) (env : Env) (info : MessageInfo) (events : List Event)
    (ops : List (Key × Op)) : Prop :=
  ∃ bank sudoMsg code resp ws, host.deriveFromLabel "bank" = .ok bank ∧
    host.toBinary (.transfer info.sender env.contract.address info.funds) = .ok sudoMsg ∧
    codeByAddress store bank = .ok code ∧
    vm.callSudo code ⟨env.block, none, ⟨bank⟩⟩ sudoMsg (ContractSubstore.new store bank).read =
      .ok (.ok resp, ws) ∧
    events = resp.events ∧ ops = substoreOps bank ws

/-- The store a call leaves, whatever it returned. -/
def leftStore {ε σ α : Type} : EStateM.Result ε σ α → σ
  | .ok _ s => s
  | .error _ s => s

variable {host} {vm : Vm} {env : Env} {info : MessageInfo} {msg : Bytes} {s : S}

theorem transferFunds_ok {store store' : S} {events : List Event}
    (h : transferFunds host vm store env info = .ok (events, store')) :
    ∃ ops, BankTransferred host vm store env info events ops ∧ store' = applyOps store ops := by
  rcases hb : host.deriveFromLabel "bank" with e | bank <;> simp [transferFunds, hb] at h
  rcases hm : host.toBinary (.transfer info.sender env.contract.address info.funds) with e | sudoMsg <;>
    simp [hm, sudoContract_eq] at h
  rcases hc : codeByAddress store bank with e | code <;> simp [hc] at h
  rcases hv : vm.callSudo code ⟨env.block, none, ⟨bank⟩⟩ sudoMsg (ContractSubstore.new store bank).read
    with e | ⟨r | e, ws⟩ <;> simp [hv] at h
  obtain ⟨rfl, rfl⟩ := h
  exact ⟨_, ⟨bank, sudoMsg, code, r, ws, hb, hm, hc, hv, rfl, rfl⟩, rfl⟩

/-- A contract result `Err` drops the overlay. -/
theorem sudoContract_err {store store' : S} {e : String} (h : sudoContract vm store env msg = .ok (.err e, store')) :
    store' = store := by
  rw [sudoContract_eq] at h
  rcases hc : codeByAddress store env.contract.address with e' | code <;> simp [hc] at h
  rcases hv : vm.callSudo code env msg (ContractSubstore.new store env.contract.address).read
    with e' | ⟨r | e', ws⟩ <;> simp [hv] at h
  exact h.2.symm

/-- What the fund transfer in `execute_contract` leaves: nothing without funds; with funds, the bank's transfer,
made in the overlay. -/
theorem fundTransfer_ok {fundEvents : List Event} {cache : Cached S}
    (h : (if info.funds = [] then .ok ([], Cached.new s) else transferFunds host vm (Cached.new s) env info) =
      .ok (fundEvents, cache)) :
    ∃ bankOps, (info.funds = [] → fundEvents = [] ∧ bankOps = []) ∧
      (info.funds ≠ [] → BankTransferred host vm s env info fundEvents bankOps) ∧
      cache = applyOps (Cached.new s) bankOps := by
  by_cases hf : info.funds = []
  · simp only [hf, if_true, Except.ok.injEq, Prod.mk.injEq] at h
    obtain ⟨rfl, rfl⟩ := h
    exact ⟨[], fun _ => ⟨rfl, rfl⟩, fun h => (h hf).elim, rfl⟩
  · rw [if_neg hf] at h
    obtain ⟨ops, hb, rfl⟩ := transferFunds_ok h
    exact ⟨ops, fun h => (hf h).elim, fun _ => hb, rfl⟩

theorem executeContract_ok_ok {resp : Response} {s' : S}
    (h : (executeContract host vm env info msg).run s = .ok (.ok resp) s') :
    ∃ fundEvents bankOps code resp' ws,
      (info.funds = [] → fundEvents = [] ∧ bankOps = []) ∧
      (info.funds ≠ [] → BankTransferred host vm s env info fundEvents bankOps) ∧
      codeByAddress (applyOps s bankOps) env.contract.address = .ok code ∧
      vm.callExecute code env info msg (ContractSubstore.new (applyOps s bankOps) env.contract.address).read =
        .ok (.ok resp', ws) ∧
      resp = { resp' with events := fundEvents ++ resp'.events } ∧
      s' = applyOps s (bankOps ++ substoreOps env.contract.address ws) := by
  simp [executeContract] at h
  rcases ht : (if info.funds = [] then .ok ([], Cached.new s) else transferFunds host vm (Cached.new s) env info)
    with e | ⟨fundEvents, cache⟩ <;> simp [ht] at h
  obtain ⟨bankOps, hnil, hbank, rfl⟩ := fundTransfer_ok ht
  have hget := Cached.get_applyOps_new s bankOps
  rw [codeByAddress_congr hget] at h
  rcases hc : codeByAddress (applyOps s bankOps) env.contract.address with e | code <;> simp [hc] at h
  rw [runInstance, read_congr hget] at h
  rcases hv : vm.callExecute code env info msg (ContractSubstore.new (applyOps s bankOps) env.contract.address).read
    with e | ⟨r | e, ws⟩ <;> simp [hv] at h
  obtain ⟨rfl, rfl⟩ := h
  refine ⟨fundEvents, bankOps, code, r, ws, hnil, hbank, hc, hv, rfl, ?_⟩
  simp [applyOps_append, Cached.flush_applyOps]

theorem executeContract_cases :
    (∃ resp s', (executeContract host vm env info msg).run s = .ok (.ok resp) s') ∨
      leftStore ((executeContract host vm env info msg).run s) = s := by
  simp only [executeContract, Sdk.run_bind, Sdk.run_get]
  rcases ht : (if info.funds = [] then .ok ([], Cached.new s) else transferFunds host vm (Cached.new s) env info)
    with e | ⟨fundEvents, cache⟩ <;> simp [ht, leftStore]
  rcases hc : codeByAddress cache env.contract.address with e | code <;> simp [hc, leftStore]
  rcases hv : vm.callExecute code env info msg (ContractSubstore.new cache env.contract.address).read
    with e | ⟨r | e, ws⟩ <;> simp [hv, runInstance, leftStore]

variable {block : BlockInfo} {transaction : Option TransactionInfo} {codeId : Nat} {label : String}
  {admin : Option String}

/-- **`instantiate_contract`, step by step.**  Every failure before the contract's result, and a contract result
`Err`, leave the store as it was; a result `Ok` flushes the contract's writes, and then the account is saved unless
one is already there. -/
theorem instantiateContract_run :
    (instantiateContract host vm block transaction info codeId msg label admin).run s =
      if startsWith label (addressPrefix ++ "1") then .error (.error .illegalLabel) s else
      match host.deriveFromLabel label with
      | .error e => .error (.error e) s
      | .ok a =>
        match codesLoad s codeId with
        | .error e => .error (.error e) s
        | .ok code =>
          match vm.callInstantiate code ⟨block, transaction, ⟨a⟩⟩ info msg (ContractSubstore.new s a).read with
          | .error e => .error (.error (.vm e)) s
          | .ok (.err e, _) => .ok (.err e) s
          | .ok (.ok resp, ws) =>
            match accountsMayLoad (applyOps s (substoreOps a ws)) a with
            | .ok none => .ok (.ok resp)
                (Storage.set (applyOps s (substoreOps a ws)) (.account a) (.account (.contract codeId label admin)))
            | .ok (some _) => .error (.error (.accountFound a)) (applyOps s (substoreOps a ws))
            | .error e => .error (.error e) (applyOps s (substoreOps a ws)) := by
  simp only [instantiateContract, Sdk.run_bind, Sdk.run_get]
  by_cases hl : startsWith label (addressPrefix ++ "1") <;> simp [hl]
  rcases hd : host.deriveFromLabel label with e | a <;> simp [hd]
  rcases hc : codesLoad s codeId with e | code <;> simp [hc]
  rcases hv : vm.callInstantiate code ⟨block, transaction, ⟨a⟩⟩ info msg (ContractSubstore.new s a).read
    with e | ⟨r | e, ws⟩ <;> simp [hv, runInstance]
  rcases hm : accountsMayLoad (applyOps s (substoreOps a ws)) a with e | _ | acc <;>
    simp [hm, accountsUpdate, Cached.flush_applyOps]

/-- `todo!()`. -/
def migrateContract (_env : Env) (_codeId : Nat) (_msg : Bytes) : EStateM Fault S (ContractResult Response) :=
  throw .panic

end Handlers

end Machine
end CwSdk

import CwSdk.MachineAtomic
/-!
# MachineLifecycle — one contract's store, account and code along any sequence of calls

What the package's handlers do to a contract over a whole run.  Its namespace changes only under the calls that hand
it to a contract (`Call.touches`): its own `execute` and `sudo`, an instantiation whose label derives its address, and,
for the bank, an `execute` with funds (`contract_store_untouched`).  From a store whose contracts' namespaces hold
nothing, every namespace with data belongs to an address with an account (`contract_data_owned`); so an instantiation
that returns `Ok` ran its contract over an empty substore (`instantiate_over_empty_store`).

From a store with `CODE_COUNT = 0` and no code or account, the codes are the bytes of the `store_code` calls that
returned `Ok`, in order, under `1, 2, …` (`codes_in_store_order`), and a contract loads, for as long as the run goes on,
the code it was instantiated with (`contract_code_fixed`).
-/
namespace CwSdk
namespace Machine

open Sdk (u64Max)

section Lifecycle

variable {S : Type} [Storage S] (host : Host)

/-! ## Isolation along a run -/

/-- **A call leaves every namespace it does not touch as it was**, whatever it returns. -/
theorem Call.run_untouched (c : Call) (s : S) {b : String} (hb : c.touches host b = false) (key : Bytes) :
    Storage.get (c.run host s) (.contract b key) = Storage.get s (.contract b key) := by
  rcases c.run_cases host s with e | ⟨ops, ho, e⟩ | ⟨a, ws, _, _, _, _, ht, -, -, -, e⟩ |
    ⟨_, n, wasmByteCode, -, -, e⟩ <;> rw [e]
  · exact get_applyOps_opsWithin_contract s ho (fun h => by simp [hb] at h) key
  · have hab : ∀ key', Key.contract b key ≠ .contract a key' := by
      rintro _ ⟨⟩
      simp [hb] at ht
    simp [get_substoreOps s a ws _ hab]
  · simp [codesSave]

/-- **Substore isolation along a run** (§8, property 7).  After any calls none of which touches the namespace of `b`,
every key of `b` holds what it held before. -/
theorem contract_store_untouched (s : S) {b : String} (calls : List Call)
    (h : ∀ c ∈ calls, c.touches host b = false) (key : Bytes) :
    Storage.get (runCalls host s calls) (.contract b key) = Storage.get s (.contract b key) := by
  induction calls generalizing s with
  | nil => rfl
  | cons c calls ih =>
    calc Storage.get (runCalls host s (c :: calls)) (.contract b key)
        = Storage.get (c.run host s) (.contract b key) := ih _ fun c' hc' => h c' (.tail _ hc')
      _ = Storage.get s (.contract b key) := c.run_untouched host s (h c (.head _)) key

/-- After `bankCalls`: a second code stored, and `token` instantiated from the first. -/
def tokenCalls : List Call :=
  [.storeCode "deployer" [1], .instantiateContract bankVm bankBlock none ⟨"deployer", []⟩ 1 [5] "token" none]

theorem contract_store_untouched_bank :
    (∀ c ∈ tokenCalls, c.touches labelHost "cw1bank" = false) ∧
      Storage.get bankStore (.contract "cw1bank" [1]) = some (.raw [100]) ∧
      Storage.get (runCalls labelHost bankStore tokenCalls) (.contract "cw1bank" [1]) =
        Storage.get bankStore (.contract "cw1bank" [1]) :=
  have h : ∀ c ∈ tokenCalls, c.touches labelHost "cw1bank" = false := by decide
  ⟨h, by decide, contract_store_untouched labelHost bankStore tokenCalls h [1]⟩

/-! ## A contract's store is born with its account -/

/-- A store whose contracts' namespaces hold nothing. -/
theorem Owned.of_empty {s₀ : S} (h₀ : ∀ a key, Storage.get s₀ (.contract a key) = none) : Owned s₀ :=
  fun a key hk => by simp [h₀] at hk

/-- **Contract data lives under accounts** (§3, invariant 4, one way).  From a store whose contracts' namespaces hold
nothing, after any sequence of calls, a contract's namespace holds data only under an address that holds an
account. -/
theorem contract_data_owned {s₀ : S} (h₀ : ∀ a key, Storage.get s₀ (.contract a key) = none) (calls : List Call) :
    Owned (runCalls host s₀ calls) :=
  (Owned.of_empty h₀).runCalls host calls

theorem genesisStore_contract (a : String) (key : Bytes) : Storage.get genesisStore (.contract a key) = none := rfl

theorem contract_data_owned_bank :
    (∀ a key, Storage.get genesisStore (.contract a key) = none) ∧ Owned (runCalls labelHost genesisStore bankCalls) :=
  ⟨genesisStore_contract, contract_data_owned labelHost genesisStore_contract bankCalls⟩

variable {vm : Vm} {block : BlockInfo} {transaction : Option TransactionInfo} {info : MessageInfo} {codeId : Nat}
  {msg : Bytes} {label : String} {admin : Option String} {resp : Response} {s' : S}

/-- **A contract's store is born empty.**  From a store whose contracts' namespaces hold nothing, after any calls, an
instantiation that returns `Ok` found the namespace of the label's address empty, ran the contract's `instantiate`
over an empty substore, and left the contract's writes there followed by its account. -/
theorem instantiate_over_empty_store {s₀ : S} (h₀ : ∀ a key, Storage.get s₀ (.contract a key) = none)
    (calls : List Call)
    (h : (instantiateContract host vm block transaction info codeId msg label admin).run (runCalls host s₀ calls) =
      .ok (.ok resp) s') :
    ∃ a code ws, host.deriveFromLabel label = .ok a ∧ codesLoad (runCalls host s₀ calls) codeId = .ok code ∧
      (∀ key, Storage.get (runCalls host s₀ calls) (.contract a key) = none) ∧
      vm.callInstantiate code ⟨block, transaction, ⟨a⟩⟩ info msg (fun _ => none) = .ok (.ok resp, ws) ∧
      s' = Storage.set (applyOps (runCalls host s₀ calls) (substoreOps a ws)) (.account a)
        (.account (.contract codeId label admin)) := by
  obtain ⟨a, code, ws, hd, hc, hv, ha, rfl, -⟩ := instantiateContract_ok h
  have hown := (Owned.of_empty h₀).runCalls host calls
  have hempty (key : Bytes) : Storage.get (runCalls host s₀ calls) (.contract a key) = none := by
    rw [← Option.not_isSome_iff_eq_none]
    intro hk
    simpa [ha] using hown a key hk
  have hread : (ContractSubstore.new (runCalls host s₀ calls) a).read = fun _ => none := by
    funext key
    simp [ContractSubstore.read, ContractSubstore.new, hempty]
  exact ⟨a, code, ws, hd, hc, hempty, hread ▸ hv, rfl⟩

theorem instantiate_over_empty_store_bank :
    (∀ a key, Storage.get genesisStore (.contract a key) = none) ∧
      (instantiateContract labelHost bankVm bankBlock none ⟨"deployer", []⟩ 1 [100] "bank" none).run
        (runCalls labelHost genesisStore [.storeCode "deployer" [0]]) = .ok (.ok ⟨[], [], []⟩) bankStore ∧
      ∃ a code ws, labelHost.deriveFromLabel "bank" = .ok a ∧
        codesLoad (runCalls labelHost genesisStore [.storeCode "deployer" [0]]) 1 = .ok code ∧
        (∀ key, Storage.get (runCalls labelHost genesisStore [.storeCode "deployer" [0]]) (.contract a key) = none) ∧
        bankVm.callInstantiate code ⟨bankBlock, none, ⟨a⟩⟩ ⟨"deployer", []⟩ [100] (fun _ => none) =
          .ok (.ok ⟨[], [], []⟩, ws) ∧
        bankStore = Storage.set (applyOps (runCalls labelHost genesisStore [.storeCode "deployer" [0]])
          (substoreOps a ws)) (.account a) (.account (.contract 1 "bank" none)) :=
  ⟨genesisStore_contract, bank_instantiated,
    instantiate_over_empty_store labelHost genesisStore_contract [.storeCode "deployer" [0]] bank_instantiated⟩

/-! ## Codes, in the order they were stored -/

/-- The bytes a call stored: those of a `store_code` that returned `Ok`. -/
def Call.storedCode (s : S) : Call → Option Bytes
  | .storeCode senderAddr wasmByteCode =>
    match (Machine.storeCode host senderAddr wasmByteCode).run s with
    | .ok _ _ => some wasmByteCode
    | .error _ _ => none
  | _ => none

/-- The bytes a sequence of calls stored, in order. -/
def storedCodes : S → List Call → List Bytes
  | _, [] => []
  | s, c :: calls => (c.storedCode host s).toList ++ storedCodes (c.run host s) calls

/-- `CODE_COUNT` is the number of codes stored, no code has id `0`, and code `k + 1` holds `codes[k]`. -/
structure CodesStored (s : S) (codes : List Bytes) : Prop where
  code_count : codeCountLoad s = .ok codes.length
  code_zero : Storage.get s (.code 0) = none
  code_succ : ∀ k, Storage.get s (.code (k + 1)) = codes[k]?.map Val.code

variable {host} {s : S} {codes : List Bytes}

/-- A store that agrees with `s` on `CODE_COUNT` and `CODES` stores the same codes. -/
theorem CodesStored.frame (h : CodesStored s codes) {s' : S}
    (hcount : Storage.get s' .codeCount = Storage.get s .codeCount)
    (hcode : ∀ k, Storage.get s' (.code k) = Storage.get s (.code k)) : CodesStored s' codes where
  code_count := by rw [← h.code_count]; simp [codeCountLoad, hcount]
  code_zero := (hcode 0).trans h.code_zero
  code_succ k := (hcode (k + 1)).trans (h.code_succ k)

/-- Saving the next code under `CODE_COUNT + 1`. -/
theorem CodesStored.addCode (h : CodesStored s codes) (wasmByteCode : Bytes) :
    CodesStored (codesSave (Storage.set s .codeCount (.count (codes.length + 1))) (codes.length + 1) wasmByteCode)
      (codes ++ [wasmByteCode]) where
  code_count := by simp [codeCountLoad, codesSave]
  code_zero := by simpa [codesSave] using h.code_zero
  code_succ k := by
    rcases Nat.lt_trichotomy k codes.length with hk | rfl | hk
    · have hne : k ≠ codes.length := by omega
      simp [codesSave, hne, h.code_succ, List.getElem?_append_left hk]
    · simp [codesSave]
    · have hne : k ≠ codes.length := by omega
      have hlen : (codes ++ [wasmByteCode]).length ≤ k := by simpa using hk
      simp [codesSave, hne, h.code_succ, List.getElem?_eq_none (Nat.le_of_lt hk), List.getElem?_eq_none hlen]

variable (host)

/-- A call other than `store_code` leaves `CODE_COUNT` and `CODES` as they were. -/
theorem CodesStored.run_of_ne (h : CodesStored s codes) (c : Call)
    (hc : ∀ senderAddr wasmByteCode, c ≠ .storeCode senderAddr wasmByteCode) : CodesStored (c.run host s) codes := by
  rcases c.run_cases host s with e | ⟨ops, ho, e⟩ | ⟨a, ws, _, _, _, _, -, -, -, -, e⟩ |
    ⟨senderAddr, _, wasmByteCode, rfl, -, -⟩
  · rwa [e]
  · exact e ▸ h.frame (get_applyOps_opsWithin s ho (by simp)) fun _ => get_applyOps_opsWithin s ho (by simp)
  · exact e ▸ h.frame (by simp [get_substoreOps]) fun _ => by simp [get_substoreOps]
  · exact (hc senderAddr wasmByteCode rfl).elim

/-- **Step.**  A call appends to the codes what it stored. -/
theorem CodesStored.run (h : CodesStored s codes) (c : Call) :
    CodesStored (c.run host s) (codes ++ (c.storedCode host s).toList) := by
  cases c with
  | storeCode senderAddr wasmByteCode =>
    generalize hr : Call.run host s (.storeCode senderAddr wasmByteCode) = r
    simp only [Call.run, Call.storedCode, storeCode_run, h.code_count] at hr ⊢
    split_ifs at hr ⊢
    · subst hr
      exact h.addCode wasmByteCode
    · subst hr
      simpa using h
  | _ =>
    simp only [Call.storedCode, Option.toList_none, List.append_nil]
    exact h.run_of_ne host _ (by nofun)

/-- **Run.**  A sequence of calls appends what each stored, in order. -/
theorem CodesStored.runCalls (h : CodesStored s codes) (calls : List Call) :
    CodesStored (runCalls host s calls) (codes ++ storedCodes host s calls) := by
  induction calls generalizing s codes with
  | nil => simpa [storedCodes] using h
  | cons c calls ih => simpa [storedCodes] using ih (h.run host c)

/-- **Codes, in the order they were stored** (§8, property 1).  From a store with `CODE_COUNT = 0` and no code or
account, after any sequence of calls, `CODE_COUNT` is the number of `store_code` calls that returned `Ok`, code `k`
holds the bytes of the `k`-th of them, counting from one, and no code has id `0`. -/
theorem codes_in_store_order {s₀ : S} (h₀ : Genesis s₀) (calls : List Call) :
    CodesStored (runCalls host s₀ calls) (storedCodes host s₀ calls) := by
  have h : CodesStored s₀ [] := ⟨by simp [codeCountLoad, h₀.code_count], h₀.no_codes 0, fun k => by simp [h₀.no_codes]⟩
  simpa using h.runCalls host calls

theorem codes_in_store_order_bank :
    Genesis genesisStore ∧
      CodesStored (runCalls labelHost genesisStore bankCalls) (storedCodes labelHost genesisStore bankCalls) :=
  ⟨genesis_genesisStore, codes_in_store_order labelHost genesis_genesisStore bankCalls⟩

example : storedCodes labelHost genesisStore bankCalls = [[0]] := rfl

/-! ## A contract's code -/

/-- **A contract runs the code it was instantiated with.**  From a store with `CODE_COUNT = 0` and no code or account,
after an instantiation that returns `Ok` and any calls after it, the contract's account and the code the instantiation
loaded are still in the store as it saved and found them, so the code that `execute_contract` and `sudo_contract` load
for the contract is that code. -/
theorem contract_code_fixed {s₀ : S} (h₀ : Genesis s₀) (calls : List Call)
    (h : (instantiateContract host vm block transaction info codeId msg label admin).run (runCalls host s₀ calls) =
      .ok (.ok resp) s')
    (calls' : List Call) :
    ∃ a code, host.deriveFromLabel label = .ok a ∧ codesLoad (runCalls host s₀ calls) codeId = .ok code ∧
      Storage.get (runCalls host s' calls') (.account a) = some (.account (.contract codeId label admin)) ∧
      Storage.get (runCalls host s' calls') (.code codeId) = some (.code code) ∧
      codeByAddress (runCalls host s' calls') a = .ok code := by
  have hrun : (Call.instantiateContract vm block transaction info codeId msg label admin).run host
      (runCalls host s₀ calls) = s' := by
    simp [Call.run, h, leftStore]
  have hreg : Registry host s' := hrun ▸ (((registry_genesis host h₀).runCalls host calls).1.run host _).1
  obtain ⟨a, code, ws, hd, hc, -, -, e, -⟩ := instantiateContract_ok h
  have hacc : Storage.get s' (.account a) = some (.account (.contract codeId label admin)) := by rw [e]; simp
  have hcode : Storage.get s' (.code codeId) = some (.code code) := by
    rw [e]
    simp [get_substoreOps, codesLoad_ok hc]
  have hacc' := runCalls_account host hacc calls'
  have hcode' := (hreg.runCalls host calls').2.codes codeId _ hcode
  exact ⟨a, code, hd, hc, hacc', hcode', by simp [codeByAddress, accountsMayLoad, hacc', codesLoad, hcode']⟩

theorem contract_code_fixed_bank :
    Genesis genesisStore ∧
      (instantiateContract labelHost bankVm bankBlock none ⟨"deployer", []⟩ 1 [100] "bank" none).run
        (runCalls labelHost genesisStore [.storeCode "deployer" [0]]) = .ok (.ok ⟨[], [], []⟩) bankStore ∧
      ∃ a code, labelHost.deriveFromLabel "bank" = .ok a ∧
        codesLoad (runCalls labelHost genesisStore [.storeCode "deployer" [0]]) 1 = .ok code ∧
        Storage.get (runCalls labelHost bankStore []) (.account a) = some (.account (.contract 1 "bank" none)) ∧
        Storage.get (runCalls labelHost bankStore []) (.code 1) = some (.code code) ∧
        codeByAddress (runCalls labelHost bankStore []) a = .ok code :=
  ⟨genesis_genesisStore, bank_instantiated,
    contract_code_fixed labelHost genesis_genesisStore [.storeCode "deployer" [0]] bank_instantiated []⟩

end Lifecycle

end Machine
end CwSdk

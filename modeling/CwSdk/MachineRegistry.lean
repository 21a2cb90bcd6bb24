import CwSdk.MachineExecute
/-!
# MachineRegistry — the package's codes and accounts along any sequence of calls

From a store whose code counter is `0` and which holds no code and no account (`Genesis`), any sequence of
`store_code`, `instantiate_contract`, `execute_contract` and `sudo_contract` calls keeps `Registry`: the codes are
exactly `1..CODE_COUNT`, and each contract account sits at the address its label derives, with its code stored.  No
call overwrites a code or an account (`Keeps`), and two contract accounts with one label are one account.

A call does one of four things to the store (`Call.run_cases`): nothing; writes in the namespaces it hands to a
contract (`Call.touches`: its contract's, and the bank's in a fund transfer); those writes and then a new contract
account; or, for a `store_code`, the next code.  Each keeps the invariant.  Every write a call makes in a contract's
namespace is under an address that holds an account, so no contract's store outlives or precedes its account
(`Owned.runCalls`), and no call removes or overwrites an account (`runCalls_account`).
-/
namespace CwSdk
namespace Machine

open Sdk (u64Max)

/-- A call of one of the package's handlers, with its arguments. -/
inductive Call where
  | storeCode (senderAddr : String) (wasmByteCode : Bytes)
  | instantiateContract (vm : Vm) (block : BlockInfo) (transaction : Option TransactionInfo) (info : MessageInfo)
      (codeId : Nat) (msg : Bytes) (label : String) (admin : Option String)
  | executeContract (vm : Vm) (env : Env) (info : MessageInfo) (msg : Bytes)
  | sudoContract (vm : Vm) (env : Env) (msg : Bytes)

section Calls

variable {S : Type} [Storage S] (host : Host)

/-- The store a call leaves, whatever it returned.  A failed `sudo_contract` hands nothing back: its overlay, which held
all its writes, is dropped. -/
def Call.run (s : S) : Call → S
  | .storeCode senderAddr wasmByteCode => leftStore ((Machine.storeCode host senderAddr wasmByteCode).run s)
  | .instantiateContract vm block transaction info codeId msg label admin =>
    leftStore ((Machine.instantiateContract host vm block transaction info codeId msg label admin).run s)
  | .executeContract vm env info msg => leftStore ((Machine.executeContract host vm env info msg).run s)
  | .sudoContract vm env msg =>
    match Machine.sudoContract vm s env msg with
    | .ok (_, store) => store
    | .error _ => s

/-- The store a sequence of calls leaves. -/
def runCalls (s : S) (calls : List Call) : S := calls.foldl (Call.run host) s

/-- Whether a call hands the namespace of `address` to a contract: the address its label derives, for an
instantiation; the contract's own, for `execute` and `sudo`; and the bank's as well, for an `execute` with funds. -/
def Call.touches (address : String) : Call → Bool
  | .storeCode .. => false
  | .instantiateContract _ _ _ _ _ _ label _ => (host.deriveFromLabel label).toOption == some address
  | .executeContract _ env info _ =>
    env.contract.address == address || (!info.funds.isEmpty && (host.deriveFromLabel "bank").toOption == some address)
  | .sudoContract _ env _ => env.contract.address == address

/-- Writes that name only keys in the namespaces of addresses satisfying `P`. -/
def OpsWithin (P : String → Prop) (ops : List (Key × Op)) : Prop :=
  ∀ k ∈ ops.map Prod.fst, ∃ address key, k = .contract address key ∧ P address

section Footprint

variable {host} {P Q : String → Prop} {ops ops' : List (Key × Op)}

theorem opsWithin_substoreOps {address : String} (h : P address) (ws : List Write) :
    OpsWithin P (substoreOps address ws) := fun _ hk => by
  obtain ⟨key, e⟩ := mem_substoreOps hk
  exact ⟨address, key, e, h⟩

theorem OpsWithin.append (h : OpsWithin P ops) (h' : OpsWithin P ops') : OpsWithin P (ops ++ ops') := by
  intro k hk
  simp only [List.map_append, List.mem_append] at hk
  exact hk.elim (h k) (h' k)

theorem OpsWithin.mono (h : OpsWithin P ops) (hq : ∀ a, P a → Q a) : OpsWithin Q ops := fun k hk => by
  obtain ⟨a, key, e, ha⟩ := h k hk
  exact ⟨a, key, e, hq a ha⟩

/-- A key outside every contract's namespace keeps what it held. -/
theorem get_applyOps_opsWithin (s : S) (ho : OpsWithin P ops) {k : Key}
    (hk : ∀ address key, k ≠ .contract address key) : Storage.get (applyOps s ops) k = Storage.get s k :=
  get_applyOps_of_not_mem s ops k fun h => by obtain ⟨a, key, rfl, -⟩ := ho _ h; exact hk a key rfl

/-- So does every key of a namespace outside the writes' footprint. -/
theorem get_applyOps_opsWithin_contract (s : S) (ho : OpsWithin P ops) {b : String} (hb : ¬ P b) (key : Bytes) :
    Storage.get (applyOps s ops) (.contract b key) = Storage.get s (.contract b key) :=
  get_applyOps_of_not_mem s ops _ fun h => by obtain ⟨_, _, ⟨⟩, ha⟩ := ho _ h; exact hb ha

/-- The bank's transfer writes in the bank's namespace, and the bank has an account. -/
theorem BankTransferred.opsWithin {s : S} {vm : Vm} {env : Env} {info : MessageInfo} {events : List Event}
    (h : BankTransferred host vm s env info events ops) :
    OpsWithin (fun a => (Storage.get s (.account a)).isSome ∧ host.deriveFromLabel "bank" = .ok a) ops := by
  obtain ⟨bank, -, _, -, ws, hd, -, hc, -, -, rfl⟩ := h
  exact opsWithin_substoreOps ⟨codeByAddress_account hc, hd⟩ ws

/-- When the account load after a contract's writes finds something, the account was there before them. -/
theorem account_isSome_of_load {s : S} {a : String} (ws : List Write)
    (hm : accountsMayLoad (applyOps s (substoreOps a ws)) a ≠ .ok none) : (Storage.get s (.account a)).isSome := by
  rw [Option.isSome_iff_ne_none]
  intro hn
  exact hm (by simp [accountsMayLoad, get_substoreOps s a ws (.account a) (by simp), hn])

end Footprint

/-- **What a call can do to the store**: nothing; writes in the namespaces it touches of addresses that hold an
account; a contract's writes and then its account, at an address it touches, which its label derives and where there
was none, with a stored code; or, for a `store_code`, the next code. -/
theorem Call.run_cases (c : Call) (s : S) :
    c.run host s = s ∨
    (∃ ops, OpsWithin (fun a => (Storage.get s (.account a)).isSome ∧ c.touches host a) ops ∧
      c.run host s = applyOps s ops) ∨
    (∃ a ws codeId label admin code, c.touches host a ∧ host.deriveFromLabel label = .ok a ∧
      codesLoad s codeId = .ok code ∧ Storage.get s (.account a) = none ∧
      c.run host s =
        Storage.set (applyOps s (substoreOps a ws)) (.account a) (.account (.contract codeId label admin))) ∨
    (∃ senderAddr n wasmByteCode, c = .storeCode senderAddr wasmByteCode ∧ codeCountLoad s = .ok n ∧
      c.run host s = codesSave (Storage.set s .codeCount (.count (n + 1))) (n + 1) wasmByteCode) := by
  cases c with
  | storeCode senderAddr wasmByteCode =>
    generalize hr : Call.run host s (.storeCode senderAddr wasmByteCode) = r
    simp only [Call.run, storeCode_run] at hr
    rcases hc : codeCountLoad s with e | n <;> simp only [hc] at hr
    · exact .inl hr.symm
    split_ifs at hr
    · exact .inr (.inr (.inr ⟨senderAddr, n, wasmByteCode, rfl, rfl, hr.symm⟩))
    · exact .inl hr.symm
  | instantiateContract vm block transaction info codeId msg label admin =>
    generalize hr : Call.run host s (.instantiateContract vm block transaction info codeId msg label admin) = r
    simp only [Call.run, instantiateContract_run] at hr
    split_ifs at hr
    · exact .inl hr.symm
    rcases hd : host.deriveFromLabel label with e | a <;> simp only [hd] at hr
    · exact .inl hr.symm
    have ht : (Call.instantiateContract vm block transaction info codeId msg label admin).touches host a := by
      simp [Call.touches, hd, Except.toOption]
    rcases hc : codesLoad s codeId with e | code <;> simp only [hc] at hr
    · exact .inl hr.symm
    rcases hv : vm.callInstantiate code ⟨block, transaction, ⟨a⟩⟩ info msg (ContractSubstore.new s a).read
      with e | ⟨resp | e, ws⟩ <;> simp only [hv] at hr
    · exact .inl hr.symm
    · rcases hm : accountsMayLoad (applyOps s (substoreOps a ws)) a with e | _ | acc <;>
        simp only [hm, leftStore] at hr
      · exact .inr (.inl ⟨_, opsWithin_substoreOps ⟨account_isSome_of_load ws (by simp [hm]), ht⟩ ws, hr.symm⟩)
      · have ha := accountsMayLoad_none hm
        rw [get_substoreOps s a ws (.account a) (by simp)] at ha
        exact .inr (.inr (.inl ⟨a, ws, codeId, label, admin, code, ht, hd, hc, ha, hr.symm⟩))
      · exact .inr (.inl ⟨_, opsWithin_substoreOps ⟨account_isSome_of_load ws (by simp [hm]), ht⟩ ws, hr.symm⟩)
    · exact .inl hr.symm
  | executeContract vm env info msg =>
    rcases @executeContract_cases S _ host vm env info msg s with ⟨resp, s', h⟩ | h
    · obtain ⟨_, bankOps, _, _, ws, hnil, hbank, hc, -, -, rfl⟩ := executeContract_ok_ok h
      have hb : OpsWithin (fun a => (Storage.get s (.account a)).isSome ∧
          (Call.executeContract vm env info msg).touches host a) bankOps := by
        by_cases hf : info.funds = []
        · simp [(hnil hf).2, OpsWithin]
        · exact (hbank hf).opsWithin.mono fun a ⟨ha, hd⟩ => ⟨ha, by simp [Call.touches, hf, hd, Except.toOption]⟩
      have ha := codeByAddress_account hc
      rw [get_applyOps_opsWithin s hb (by simp)] at ha
      exact .inr (.inl ⟨_, hb.append (opsWithin_substoreOps ⟨ha, by simp [Call.touches]⟩ ws),
        by rw [Call.run, h]; rfl⟩)
    · exact .inl h
  | sudoContract vm env msg =>
    generalize hr : Call.run host s (.sudoContract vm env msg) = r
    simp only [Call.run, sudoContract_eq] at hr
    rcases hc : codeByAddress s env.contract.address with e | code <;> simp only [hc] at hr
    · exact .inl hr.symm
    rcases hv : vm.callSudo code env msg (ContractSubstore.new s env.contract.address).read
      with e | ⟨resp | e, ws⟩ <;> simp only [hv] at hr
    · exact .inl hr.symm
    · exact .inr (.inl ⟨_, opsWithin_substoreOps ⟨codeByAddress_account hc, by simp [Call.touches]⟩ ws, hr.symm⟩)
    · exact .inl hr.symm

/-- **The registry invariant**: `CODES` has exactly the keys `1..CODE_COUNT`, and every contract account sits at the
address its label derives, with its code stored. -/
structure Registry (s : S) : Prop where
  codes_iff : ∃ n, codeCountLoad s = .ok n ∧ ∀ k, (Storage.get s (.code k)).isSome ↔ 1 ≤ k ∧ k ≤ n
  contract_account : ∀ a codeId label admin,
    Storage.get s (.account a) = some (.account (.contract codeId label admin)) →
    host.deriveFromLabel label = .ok a ∧ (Storage.get s (.code codeId)).isSome

/-- Every code and every account of `s` is in `s'`, unchanged. -/
structure Keeps (s s' : S) : Prop where
  codes : ∀ k v, Storage.get s (.code k) = some v → Storage.get s' (.code k) = some v
  accounts : ∀ a v, Storage.get s (.account a) = some v → Storage.get s' (.account a) = some v

theorem Keeps.refl (s : S) : Keeps s s := ⟨fun _ _ => id, fun _ _ => id⟩

theorem Keeps.trans {s s' s'' : S} (h : Keeps s s') (h' : Keeps s' s'') : Keeps s s'' :=
  ⟨fun k v hv => h'.codes k v (h.codes k v hv), fun a v hv => h'.accounts a v (h.accounts a v hv)⟩

/-- The store the calls start from: the code counter at `0`, no code and no account. -/
structure Genesis (s : S) : Prop where
  code_count : Storage.get s .codeCount = some (.count 0)
  no_codes : ∀ k, Storage.get s (.code k) = none
  no_accounts : ∀ a, Storage.get s (.account a) = none

/-- No two contract accounts carry one label. -/
def LabelsUnique (s : S) : Prop :=
  ∀ a b codeId codeId' label admin admin',
    Storage.get s (.account a) = some (.account (.contract codeId label admin)) →
    Storage.get s (.account b) = some (.account (.contract codeId' label admin')) → a = b

theorem registry_genesis {s : S} (h : Genesis s) : Registry host s where
  codes_iff := ⟨0, by simp [codeCountLoad, h.code_count], fun k => by simp [h.no_codes]; omega⟩
  contract_account a _ _ _ ha := by simp [h.no_accounts] at ha

variable {host} {s : S}

theorem Registry.labelsUnique (h : Registry host s) : LabelsUnique s := fun _ _ _ _ _ _ _ ha hb => by
  have := (h.contract_account _ _ _ _ ha).1
  rw [(h.contract_account _ _ _ _ hb).1] at this
  exact (Except.ok.inj this).symm

/-- A store that agrees with `s` outside the contracts' namespaces has its registry and keeps its codes and
accounts. -/
theorem Registry.frame (h : Registry host s) {s' : S}
    (hf : ∀ k, (∀ address key, k ≠ .contract address key) → Storage.get s' k = Storage.get s k) :
    Registry host s' ∧ Keeps s s' := by
  have hcount : codeCountLoad s' = codeCountLoad s := by simp [codeCountLoad, hf .codeCount (by simp)]
  have hcode (k : Nat) : Storage.get s' (.code k) = Storage.get s (.code k) := hf _ (by simp)
  have hacc (a : String) : Storage.get s' (.account a) = Storage.get s (.account a) := hf _ (by simp)
  obtain ⟨n, hn, hk⟩ := h.codes_iff
  refine ⟨⟨⟨n, hcount ▸ hn, fun k => hcode k ▸ hk k⟩, fun a codeId label admin ha => ?_⟩,
    ⟨fun k v hv => (hcode k).trans hv, fun a v hv => (hacc a).trans hv⟩⟩
  rw [hacc] at ha
  rw [hcode]
  exact h.contract_account a codeId label admin ha

theorem Registry.opsWithin (h : Registry host s) {P : String → Prop} {ops : List (Key × Op)} (ho : OpsWithin P ops) :
    Registry host (applyOps s ops) ∧ Keeps s (applyOps s ops) :=
  h.frame fun _ hk => get_applyOps_opsWithin s ho hk

/-- Saving a contract account where there is none, at the address its label derives, with a stored code. -/
theorem Registry.addAccount (h : Registry host s) {a : String} {codeId : Nat} {label : String}
    (admin : Option String) (hd : host.deriveFromLabel label = .ok a) (hc : (Storage.get s (.code codeId)).isSome)
    (ha : Storage.get s (.account a) = none) :
    Registry host (Storage.set s (.account a) (.account (.contract codeId label admin))) ∧
      Keeps s (Storage.set s (.account a) (.account (.contract codeId label admin))) := by
  obtain ⟨n, hn, hk⟩ := h.codes_iff
  refine ⟨⟨⟨n, by simpa [codeCountLoad] using hn, by simpa using hk⟩, fun a' codeId' label' admin' ha' => ?_⟩,
    ⟨fun k v hv => by simpa using hv, fun a' v hv => ?_⟩⟩
  · by_cases e : a' = a
    · subst e
      simp only [Storage.get_set, if_true, Option.some.injEq, Val.account.injEq, Account.contract.injEq] at ha'
      obtain ⟨rfl, rfl, rfl⟩ := ha'
      simp [hd, hc]
    · simp only [Storage.get_set, Key.account.injEq, e, if_false, reduceCtorEq] at ha' ⊢
      exact h.contract_account a' codeId' label' admin' ha'
  · have e : a' ≠ a := by rintro rfl; simp [ha] at hv
    simpa [e] using hv

/-- Bumping the code counter and saving the next code. -/
theorem Registry.addCode (h : Registry host s) {n : Nat} (hn : codeCountLoad s = .ok n) (wasmByteCode : Bytes) :
    Registry host (codesSave (Storage.set s .codeCount (.count (n + 1))) (n + 1) wasmByteCode) ∧
      Keeps s (codesSave (Storage.set s .codeCount (.count (n + 1))) (n + 1) wasmByteCode) := by
  obtain ⟨m, hm, hk⟩ := h.codes_iff
  obtain rfl : n = m := Except.ok.inj (hn.symm.trans hm)
  refine ⟨⟨⟨n + 1, by simp [codeCountLoad, codesSave], fun k => ?_⟩, fun a codeId label admin ha => ?_⟩,
    ⟨fun k v hv => ?_, fun a v hv => by simpa [codesSave] using hv⟩⟩
  · by_cases e : k = n + 1
    · simp [codesSave, e]
    · simp [codesSave, e, hk]; omega
  · simp only [codesSave, Storage.get_set, reduceCtorEq, if_false] at ha ⊢
    obtain ⟨hd, hc⟩ := h.contract_account a codeId label admin ha
    refine ⟨hd, ?_⟩
    split_ifs <;> simp [hc]
  · have e : k ≠ n + 1 := by have := (hk k).1 (by simp [hv]); omega
    simpa [codesSave, e] using hv

variable (host)

/-- **Step.**  Every call keeps the registry, and every code and account. -/
theorem Registry.run (h : Registry host s) (c : Call) : Registry host (c.run host s) ∧ Keeps s (c.run host s) := by
  rcases c.run_cases host s with e | ⟨ops, ho, e⟩ | ⟨a, ws, codeId, label, admin, code, -, hd, hc, ha, e⟩ |
    ⟨_, n, wasmByteCode, -, hn, e⟩ <;> rw [e]
  · exact ⟨h, Keeps.refl s⟩
  · exact h.opsWithin ho
  · have ho : OpsWithin (fun _ => True) (substoreOps a ws) := opsWithin_substoreOps trivial ws
    obtain ⟨h₁, k₁⟩ := h.opsWithin ho
    have hc₁ : (Storage.get (applyOps s (substoreOps a ws)) (.code codeId)).isSome := by
      rw [get_applyOps_opsWithin s ho (by simp), codesLoad_ok hc]
      rfl
    have ha₁ : Storage.get (applyOps s (substoreOps a ws)) (.account a) = none := by
      rw [get_applyOps_opsWithin s ho (by simp), ha]
    obtain ⟨h₂, k₂⟩ := h₁.addAccount admin hd hc₁ ha₁
    exact ⟨h₂, k₁.trans k₂⟩
  · exact h.addCode hn wasmByteCode

/-- **Run.**  So does every sequence of calls. -/
theorem Registry.runCalls (h : Registry host s) (calls : List Call) :
    Registry host (runCalls host s calls) ∧ Keeps s (runCalls host s calls) := by
  induction calls generalizing s with
  | nil => exact ⟨h, Keeps.refl s⟩
  | cons c calls ih =>
    obtain ⟨h₁, k₁⟩ := h.run host c
    obtain ⟨h₂, k₂⟩ := ih h₁
    exact ⟨h₂, k₁.trans k₂⟩

/-- **Registry and accounts of the package.**  From a store with `CODE_COUNT = 0` and no code or account, after any
sequence of calls, and any further ones: `CODES` has exactly the keys `1..CODE_COUNT`, each contract account is at the
address its label derives and has its code stored, no code or account of the earlier store was overwritten, and no
two contract accounts carry one label. -/
theorem registry_accounts {s₀ : S} (h₀ : Genesis s₀) (calls calls' : List Call) :
    Registry host (runCalls host s₀ (calls ++ calls')) ∧
      Keeps (runCalls host s₀ calls) (runCalls host s₀ (calls ++ calls')) ∧
      LabelsUnique (runCalls host s₀ (calls ++ calls')) := by
  obtain ⟨h, -⟩ := (registry_genesis host h₀).runCalls host calls
  obtain ⟨h', k⟩ := h.runCalls host calls'
  rw [runCalls, List.foldl_append]
  exact ⟨h', k, h'.labelsUnique⟩

/-- **Contract stores and their accounts** (§3, invariant 4, one way): a contract's namespace holds data only under an
address that holds an account. -/
def Owned (s : S) : Prop :=
  ∀ a key, (Storage.get s (.contract a key)).isSome → (Storage.get s (.account a)).isSome

variable {host}

theorem Owned.opsWithin (h : Owned s) {ops : List (Key × Op)}
    (ho : OpsWithin (fun a => (Storage.get s (.account a)).isSome) ops) : Owned (applyOps s ops) := by
  intro a key hk
  rw [get_applyOps_opsWithin s ho (by simp)]
  by_cases hm : Key.contract a key ∈ ops.map Prod.fst
  · obtain ⟨_, _, ⟨⟩, ha⟩ := ho _ hm
    exact ha
  · rw [get_applyOps_of_not_mem s ops _ hm] at hk
    exact h a key hk

theorem Owned.addAccount (h : Owned s) (a : String) (ws : List Write) (v : Val) :
    Owned (Storage.set (applyOps s (substoreOps a ws)) (.account a) v) := by
  intro b key hk
  by_cases e : b = a
  · simp [e]
  · have hb : ∀ key', Key.contract b key ≠ .contract a key' := fun _ h => e (Key.contract.inj h).1
    simp only [Storage.get_set, reduceCtorEq, if_false, Key.account.injEq, e] at hk ⊢
    rw [get_substoreOps s a ws _ hb] at hk
    rw [get_substoreOps s a ws _ (by simp)]
    exact h b key hk

theorem Owned.addCode (h : Owned s) (n : Nat) (wasmByteCode : Bytes) :
    Owned (codesSave (Storage.set s .codeCount (.count (n + 1))) (n + 1) wasmByteCode) := fun a key hk => by
  simpa [codesSave] using h a key (by simpa [codesSave] using hk)

variable (host)

/-- **Step.**  Every call keeps contract stores under accounts. -/
theorem Owned.run (h : Owned s) (c : Call) : Owned (c.run host s) := by
  rcases c.run_cases host s with e | ⟨ops, ho, e⟩ | ⟨a, ws, _, _, _, _, -, -, -, -, e⟩ |
    ⟨_, n, wasmByteCode, -, -, e⟩ <;> rw [e]
  · exact h
  · exact h.opsWithin (ho.mono fun _ h => h.1)
  · exact h.addAccount a ws _
  · exact h.addCode n wasmByteCode

/-- **Contract stores have accounts.**  After any sequence of calls from a store whose contracts' namespaces hold data
only under accounts, they still do. -/
theorem Owned.runCalls (h : Owned s) (calls : List Call) : Owned (runCalls host s calls) := by
  induction calls generalizing s with
  | nil => exact h
  | cons c calls ih => exact ih (h.run host c)

/-- **No call removes or overwrites an account**, from any store. -/
theorem Call.run_account {a : String} {v : Val} (c : Call) (hv : Storage.get s (.account a) = some v) :
    Storage.get (c.run host s) (.account a) = some v := by
  rcases c.run_cases host s with e | ⟨ops, ho, e⟩ | ⟨a', ws, _, _, _, _, -, -, -, ha, e⟩ |
    ⟨_, n, wasmByteCode, -, -, e⟩ <;> rw [e]
  · exact hv
  · rwa [get_applyOps_opsWithin s ho (by simp)]
  · have e : a ≠ a' := by rintro rfl; simp [ha] at hv
    simpa [e, get_substoreOps s a' ws (.account a) (by simp)] using hv
  · simpa [codesSave] using hv

theorem runCalls_account {a : String} {v : Val} (hv : Storage.get s (.account a) = some v) (calls : List Call) :
    Storage.get (runCalls host s calls) (.account a) = some v := by
  induction calls generalizing s with
  | nil => exact hv
  | cons c calls ih => exact ih (c.run_account host hv)

end Calls

/-! ## A chain with a bank -/

/-- A host that derives a label's address as the label after `cw1`, in place of the bech32 digest. -/
def labelHost : Host where
  deriveFromLabel label := .ok ("cw1" ++ label)
  toBinary _ := .ok []
  sha256 _ := []

/-- A bank contract: instantiating it records its message, the initial balances, under key `[1]`; executing it does
nothing; its `sudo` `Transfer` fails for want of funds. -/
def bankVm : Vm where
  callInstantiate _ _ _ msg _ := .ok (.ok ⟨[], [], []⟩, [.write [1] msg])
  callExecute _ _ _ _ _ := .ok (.ok ⟨[], [], []⟩, [])
  callSudo _ _ _ _ := .ok (.err "insufficient funds", [])

/-- The code counter at `0`, and nothing else. -/
def genesisStore : Store := Storage.set Store.empty .codeCount (.count 0)

theorem genesis_genesisStore : Genesis genesisStore where
  code_count := by simp [genesisStore]
  no_codes _ := by simp [genesisStore]
  no_accounts _ := by simp [genesisStore]

def bankBlock : BlockInfo := ⟨1, 0, "cw-sdk"⟩

/-- Store the bank's code, then instantiate it as `bank` with the balances `[100]`. -/
def bankCalls : List Call :=
  [.storeCode "deployer" [0], .instantiateContract bankVm bankBlock none ⟨"deployer", []⟩ 1 [100] "bank" none]

def bankStore : Store := runCalls labelHost genesisStore bankCalls

theorem registry_accounts_bank :
    Genesis genesisStore ∧
      Registry labelHost (runCalls labelHost genesisStore (bankCalls ++ bankCalls)) ∧
      Keeps bankStore (runCalls labelHost genesisStore (bankCalls ++ bankCalls)) ∧
      LabelsUnique (runCalls labelHost genesisStore (bankCalls ++ bankCalls)) :=
  ⟨genesis_genesisStore, registry_accounts labelHost genesis_genesisStore bankCalls bankCalls⟩

end Machine
end CwSdk

import CwSdk.MachineRegistry
/-!
# MachineAtomic — what the package's handlers leave in the store when they fail

`execute_contract` is all or nothing (`executeContract_all_or_nothing`): it writes only when the contract returns
`Ok`, and then exactly the bank's transfer, when there are funds, followed by the contract's own writes.  The bank's
transfer is made in the outer overlay and dropped with it on every other outcome.  `sudo_contract` drops its overlay
when the contract returns `Err`.

`instantiate_contract` is not.  It flushes the contract's writes before it looks for an account at the label's
address, so instantiating a label whose contract exists runs the new `instantiate` over the existing contract's
substore, keeps what it wrote, and only then fails with `AccountFound` (`instantiateContract_account_found`).  Nor does
it move funds: it never calls the bank, whatever `info.funds` holds (`instantiateContract_callSudo`).  What it does
check holds along any run: once an instantiation of a label returns `Ok`, no later one does
(`instantiate_label_once`), since it saved an account at the label's address and no call removes one.
-/
namespace CwSdk
namespace Machine

section Atomic

variable {S : Type} [Storage S] (host : Host)

/-- **All-or-nothing execution.**  `execute_contract` returns `Ok(ContractResult::Ok)` only after the bank's `sudo`
`Transfer` of `info.funds` (when there are funds) and the contract's `execute` over the store that transfer left, and
the store is then the transfer's writes followed by the contract's.  Every other outcome leaves the store as it was,
and so does `sudo_contract` when the contract returns `Err`. -/
theorem executeContract_all_or_nothing (vm : Vm) (env : Env) (info : MessageInfo) (msg : Bytes) (s : S) :
    (∀ resp s', (executeContract host vm env info msg).run s = .ok (.ok resp) s' →
      ∃ fundEvents bankOps code resp' ws,
        (info.funds = [] → fundEvents = [] ∧ bankOps = []) ∧
        (info.funds ≠ [] → BankTransferred host vm s env info fundEvents bankOps) ∧
        codeByAddress (applyOps s bankOps) env.contract.address = .ok code ∧
        vm.callExecute code env info msg (ContractSubstore.new (applyOps s bankOps) env.contract.address).read =
          .ok (.ok resp', ws) ∧
        resp = { resp' with events := fundEvents ++ resp'.events } ∧
        s' = applyOps s (bankOps ++ substoreOps env.contract.address ws)) ∧
    (∀ r s', (executeContract host vm env info msg).run s = .ok r s' → (∀ resp, r ≠ .ok resp) → s' = s) ∧
    (∀ f s', (executeContract host vm env info msg).run s = .error f s' → s' = s) ∧
    (∀ sudoEnv sudoMsg e s', sudoContract vm s sudoEnv sudoMsg = .ok (.err e, s') → s' = s) := by
  have cases := @executeContract_cases S _ host vm env info msg s
  refine ⟨fun _ _ h => executeContract_ok_ok h, fun r s' h hr => ?_, fun f s' h => ?_,
    fun sudoEnv sudoMsg e s' h => sudoContract_err h⟩
  · rcases cases with ⟨resp, s'', h'⟩ | h' <;> rw [h] at h'
    · cases h'; exact (hr resp rfl).elim
    · exact h'
  · rcases cases with ⟨resp, s'', h'⟩ | h' <;> rw [h] at h'
    · cases h'
    · exact h'

/-- The bank, with a `sudo` `Transfer` that succeeds and records the transfer under key `[2]`. -/
def paidBankVm : Vm := { bankVm with callSudo := fun _ _ _ _ => .ok (.ok ⟨[], [], []⟩, [.write [2] [1]]) }

theorem executeContract_all_or_nothing_bank :
    ∃ resp s', (executeContract labelHost paidBankVm ⟨bankBlock, none, ⟨"cw1bank"⟩⟩ ⟨"alice", [⟨"ucw", 5⟩]⟩ []).run
        bankStore = .ok (.ok resp) s' ∧
      ∃ fundEvents bankOps code resp' ws,
        BankTransferred labelHost paidBankVm bankStore ⟨bankBlock, none, ⟨"cw1bank"⟩⟩ ⟨"alice", [⟨"ucw", 5⟩]⟩
          fundEvents bankOps ∧
        codeByAddress (applyOps bankStore bankOps) "cw1bank" = .ok code ∧
        paidBankVm.callExecute code ⟨bankBlock, none, ⟨"cw1bank"⟩⟩ ⟨"alice", [⟨"ucw", 5⟩]⟩ []
          (ContractSubstore.new (applyOps bankStore bankOps) "cw1bank").read = .ok (.ok resp', ws) ∧
        resp = { resp' with events := fundEvents ++ resp'.events } ∧
        s' = applyOps bankStore (bankOps ++ substoreOps "cw1bank" ws) := by
  refine ⟨_, _, rfl, ?_⟩
  obtain ⟨fundEvents, bankOps, code, resp', ws, -, hb, rest⟩ :=
    (executeContract_all_or_nothing labelHost paidBankVm ⟨bankBlock, none, ⟨"cw1bank"⟩⟩ ⟨"alice", [⟨"ucw", 5⟩]⟩ []
      bankStore).1 _ _ rfl
  exact ⟨fundEvents, bankOps, code, resp', ws, hb (by decide), rest⟩

variable {host} {vm : Vm} {block : BlockInfo} {transaction : Option TransactionInfo} {info : MessageInfo}
  {codeId : Nat} {msg : Bytes} {label : String} {admin : Option String} {s : S} {a : String} {code : Bytes}
  {resp : Response} {ws : List Write}

/-- **An account at the label's address does not stop the flush.**  When the label is legal, its code is stored and
the contract returns `Ok`, but the label's address already holds an account, the contract's writes stay in the store
and the call fails with `AccountFound`. -/
theorem instantiateContract_account_found (hl : startsWith label (addressPrefix ++ "1") = false)
    (hd : host.deriveFromLabel label = .ok a) (hc : codesLoad s codeId = .ok code)
    (hv : vm.callInstantiate code ⟨block, transaction, ⟨a⟩⟩ info msg (ContractSubstore.new s a).read =
      .ok (.ok resp, ws))
    {acc : Account} (ha : Storage.get s (.account a) = some (.account acc)) :
    (instantiateContract host vm block transaction info codeId msg label admin).run s =
      .error (.error (.accountFound a)) (applyOps s (substoreOps a ws)) := by
  have ha' : accountsMayLoad (applyOps s (substoreOps a ws)) a = .ok (some acc) := by
    simp [accountsMayLoad, get_substoreOps s a ws (.account a) (by simp), ha]
  rw [instantiateContract_run]
  simp [hl, hd, hc, hv, ha']

/-- A fresh label: the contract's writes are flushed and its account saved. -/
theorem instantiateContract_fresh (hl : startsWith label (addressPrefix ++ "1") = false)
    (hd : host.deriveFromLabel label = .ok a) (hc : codesLoad s codeId = .ok code)
    (hv : vm.callInstantiate code ⟨block, transaction, ⟨a⟩⟩ info msg (ContractSubstore.new s a).read =
      .ok (.ok resp, ws))
    (ha : Storage.get s (.account a) = none) :
    (instantiateContract host vm block transaction info codeId msg label admin).run s =
      .ok (.ok resp)
        (Storage.set (applyOps s (substoreOps a ws)) (.account a) (.account (.contract codeId label admin))) := by
  have ha' : accountsMayLoad (applyOps s (substoreOps a ws)) a = .ok none := by
    simp [accountsMayLoad, get_substoreOps s a ws (.account a) (by simp), ha]
  rw [instantiateContract_run]
  simp [hl, hd, hc, hv, ha']

/-- **Instantiation never calls the bank**: its outcome and the store it leaves are the same whatever the bank's
`sudo` entry point does. -/
theorem instantiateContract_callSudo (callSudo : Bytes → Env → Bytes → (Bytes → Option Bytes) → VmResult) :
    (instantiateContract host { vm with callSudo := callSudo } block transaction info codeId msg label admin).run s =
      (instantiateContract host vm block transaction info codeId msg label admin).run s := by
  rw [instantiateContract_run, instantiateContract_run]

/-- **What a successful instantiation did**: its label passed the check, it loaded the code, ran the contract at the
address the label derives, where there was no account, and left the contract's writes followed by its account. -/
theorem instantiateContract_ok {s' : S}
    (h : (instantiateContract host vm block transaction info codeId msg label admin).run s = .ok (.ok resp) s') :
    ∃ a code ws, host.deriveFromLabel label = .ok a ∧ codesLoad s codeId = .ok code ∧
      vm.callInstantiate code ⟨block, transaction, ⟨a⟩⟩ info msg (ContractSubstore.new s a).read =
        .ok (.ok resp, ws) ∧ Storage.get s (.account a) = none ∧
      s' = Storage.set (applyOps s (substoreOps a ws)) (.account a) (.account (.contract codeId label admin)) ∧
      startsWith label (addressPrefix ++ "1") = false := by
  rw [instantiateContract_run] at h
  split_ifs at h with hl
  rcases hd : host.deriveFromLabel label with e | a <;> simp only [hd, reduceCtorEq] at h
  rcases hc : codesLoad s codeId with e | code <;> simp only [hc, reduceCtorEq] at h
  rcases hv : vm.callInstantiate code ⟨block, transaction, ⟨a⟩⟩ info msg (ContractSubstore.new s a).read
    with e | ⟨r | e, ws⟩ <;> simp only [hv, reduceCtorEq, EStateM.Result.ok.injEq, false_and] at h
  rcases hm : accountsMayLoad (applyOps s (substoreOps a ws)) a with e | _ | acc <;> simp only [hm, reduceCtorEq] at h
  have ha := accountsMayLoad_none hm
  rw [get_substoreOps s a ws (.account a) (by simp)] at ha
  obtain ⟨⟨⟩, rfl⟩ := EStateM.Result.ok.inj h
  exact ⟨a, code, ws, rfl, rfl, hv, ha, rfl, by simpa using hl⟩

variable (host)

/-- **A label is instantiated at most once** (§8, property 3).  After an instantiation of a label returns `Ok`, and
any calls after it, the label's address holds the account that instantiation saved, and every later instantiation of
the label, with any code, message, funds or admin, meets it: none returns `Ok`, and one whose contract's `instantiate`
returns `Ok` fails with `AccountFound` there, its contract's writes flushed. -/
theorem instantiate_label_once {s' : S}
    (h : (instantiateContract host vm block transaction info codeId msg label admin).run s = .ok (.ok resp) s')
    (calls : List Call) :
    ∃ a, host.deriveFromLabel label = .ok a ∧
      Storage.get (runCalls host s' calls) (.account a) = some (.account (.contract codeId label admin)) ∧
      ∀ (vm' : Vm) (block' : BlockInfo) (transaction' : Option TransactionInfo) (info' : MessageInfo) (codeId' : Nat)
        (msg' : Bytes) (admin' : Option String),
        (∀ resp' s'', (instantiateContract host vm' block' transaction' info' codeId' msg' label admin').run
          (runCalls host s' calls) ≠ .ok (.ok resp') s'') ∧
        (∀ code' resp' ws', codesLoad (runCalls host s' calls) codeId' = .ok code' →
          vm'.callInstantiate code' ⟨block', transaction', ⟨a⟩⟩ info' msg'
            (ContractSubstore.new (runCalls host s' calls) a).read = .ok (.ok resp', ws') →
          (instantiateContract host vm' block' transaction' info' codeId' msg' label admin').run
            (runCalls host s' calls) =
            .error (.error (.accountFound a)) (applyOps (runCalls host s' calls) (substoreOps a ws'))) := by
  obtain ⟨a, -, ws, hd, -, -, -, e, hl⟩ := instantiateContract_ok h
  have hs' : Storage.get s' (.account a) = some (.account (.contract codeId label admin)) := by rw [e]; simp
  have hacc := runCalls_account host hs' calls
  refine ⟨a, hd, hacc, fun vm' block' transaction' info' codeId' msg' admin' =>
    ⟨fun resp' s'' h' => ?_, fun code' resp' ws' hc hv => instantiateContract_account_found hl hd hc hv hacc⟩⟩
  obtain ⟨a', -, -, hd', -, -, ha', -, -⟩ := instantiateContract_ok h'
  obtain rfl : a = a' := Except.ok.inj (hd.symm.trans hd')
  cases ha'.symm.trans hacc

/-- The second call of `bankCalls`: instantiating `bank` returns `Ok`, leaving `bankStore`. -/
theorem bank_instantiated :
    (instantiateContract labelHost bankVm bankBlock none ⟨"deployer", []⟩ 1 [100] "bank" none).run
      (runCalls labelHost genesisStore [.storeCode "deployer" [0]]) = .ok (.ok ⟨[], [], []⟩) bankStore := rfl

theorem instantiate_label_once_bank :
    (instantiateContract labelHost bankVm bankBlock none ⟨"deployer", []⟩ 1 [100] "bank" none).run
        (runCalls labelHost genesisStore [.storeCode "deployer" [0]]) = .ok (.ok ⟨[], [], []⟩) bankStore ∧
      ∃ a, labelHost.deriveFromLabel "bank" = .ok a ∧
        Storage.get (runCalls labelHost bankStore []) (.account a) = some (.account (.contract 1 "bank" none)) ∧
        ∀ (vm' : Vm) (block' : BlockInfo) (transaction' : Option TransactionInfo) (info' : MessageInfo)
          (codeId' : Nat) (msg' : Bytes) (admin' : Option String),
          (∀ resp' s'', (instantiateContract labelHost vm' block' transaction' info' codeId' msg' "bank" admin').run
            (runCalls labelHost bankStore []) ≠ .ok (.ok resp') s'') ∧
          (∀ code' resp' ws', codesLoad (runCalls labelHost bankStore []) codeId' = .ok code' →
            vm'.callInstantiate code' ⟨block', transaction', ⟨a⟩⟩ info' msg'
              (ContractSubstore.new (runCalls labelHost bankStore []) a).read = .ok (.ok resp', ws') →
            (instantiateContract labelHost vm' block' transaction' info' codeId' msg' "bank" admin').run
              (runCalls labelHost bankStore []) =
              .error (.error (.accountFound a)) (applyOps (runCalls labelHost bankStore []) (substoreOps a ws'))) :=
  ⟨bank_instantiated, instantiate_label_once labelHost bank_instantiated []⟩

end Atomic

/-! ## On the chain with a bank -/

/-- Instantiating `bank` again, with any message, runs the bank's `instantiate` over the existing bank's substore: the
balances it records replace the bank's `[100]` before the call fails with `AccountFound`. -/
theorem instantiate_existing_label_flushes (msg : Bytes) :
    (instantiateContract labelHost bankVm bankBlock none ⟨"attacker", []⟩ 1 msg "bank" none).run bankStore =
      .error (.error (.accountFound "cw1bank")) (applyOps bankStore (substoreOps "cw1bank" [.write [1] msg])) ∧
    (ContractSubstore.new bankStore "cw1bank").read [1] = some [100] ∧
    (ContractSubstore.new (applyOps bankStore (substoreOps "cw1bank" [.write [1] msg])) "cw1bank").read [1] =
      some msg :=
  ⟨instantiateContract_account_found (by decide) rfl rfl rfl
      (show Storage.get bankStore (.account "cw1bank") = some (.account (.contract 1 "bank" none)) by decide),
    by decide, by simp [ContractSubstore.read, ContractSubstore.new, substoreOps, Write.toOp, Op.value]⟩

/-- Instantiating `token` with `100ucw` attached returns `Ok` whatever the bank's `sudo` does, with the token's account
saved and the bank's balances untouched: no transfer is made, though the contract is told of the funds. -/
theorem instantiate_funds_not_transferred
    (callSudo : Bytes → Env → Bytes → (Bytes → Option Bytes) → VmResult) :
    (instantiateContract labelHost { bankVm with callSudo := callSudo } bankBlock none
      ⟨"alice", [⟨"ucw", 100⟩]⟩ 1 [5] "token" none).run bankStore =
      .ok (.ok ⟨[], [], []⟩) (Storage.set (applyOps bankStore (substoreOps "cw1token" [.write [1] [5]]))
        (.account "cw1token") (.account (.contract 1 "token" none))) := by
  rw [instantiateContract_callSudo]
  exact instantiateContract_fresh (by decide) rfl rfl rfl (by decide)

end Machine
end CwSdk

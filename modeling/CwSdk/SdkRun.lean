import CwSdk.SdkTx
/-!
# SdkRun — the chain's runs, and what their messages wrote

A run starts at `State::default()` and makes any sequence of `init_chain`, `handle_tx` and `commit` calls that
return (`Ok` or `Err`; a panic ends the process, and leaves no state).  Each call may meet a different runtime: any
VM results, any decoding, any authentication outcome.  Along the run we keep the registry writes of the messages that
succeeded (`Effect`), in the order they ran, read off each message as the loop of `handle_tx` or `init_chain` meets it
(`msgsTrace`).

`Run.induct_on` packages the induction once: a property of a trace and a state that holds at the start and survives
every successful message, a sender's account update and a height bump holds along every run.
-/
namespace CwSdk
namespace Sdk

open Function (update)

/-- What one message that succeeded wrote to the registry. -/
inductive Effect where
  | storeCode (codeId : Nat) (code : Code)
  | instantiate (contractAddr : Nat) (contract : Contract) (storage : Option ContractStore)
  | execute (contractAddr : Nat) (storage : Option ContractStore)

/-- The store the VM handed back from a call that returned. -/
def returnedStore : Except VmError (ContractResult Response × ContractStore) → Option ContractStore
  | .ok (_, storage) => some storage
  | .error _ => none

section Trace

variable (rt : Runtime) (sender : String)

/-- **The registry write of a message that succeeds in `s`**: its code under the next id; its contract under the next
address, with the store the VM returned from `instantiate` over an empty store; or the store the VM returned from
`execute` over the contract's own store.  A migration never succeeds and writes nothing. -/
def effectOf (s : State) : SdkMsg → Option Effect
  | .storeCode wasmByteCode => some (.storeCode (s.codeCount + 1) ⟨sender, wasmByteCode⟩)
  | .instantiate codeId msg _ label admin =>
    some (.instantiate (s.contractCount + 1) ⟨codeId, label, admin⟩ ((s.codes codeId).bind fun code =>
      returnedStore (rt.vm.callInstantiate code.wasmByteCode sender msg ContractStore.new)))
  | .execute contractAddr msg _ =>
    some (.execute contractAddr do
      let storage ← s.stores contractAddr
      let contract ← s.contracts contractAddr
      let code ← s.codes contract.codeId
      returnedStore (rt.vm.callExecute code.wasmByteCode sender msg storage))
  | .migrate .. => none

/-- The registry writes of a message loop, up to its first failing message. -/
def msgsTrace : State → List SdkMsg → List Effect
  | _, [] => []
  | s, m :: ms =>
    match (dispatch rt sender m).run s with
    | .ok _ s' => (effectOf rt sender s m).toList ++ msgsTrace s' ms
    | .error _ _ => []

end Trace

/-- The registry writes of a `handle_tx` call from `s`. -/
def txTrace (rt : Runtime) (s : State) (txBytes : Bytes) : List Effect :=
  match rt.decodeTx txBytes with
  | .error _ => []
  | .ok tx =>
    match rt.authenticateTx tx s with
    | .error _ => []
    | .ok account =>
      msgsTrace rt tx.body.sender { s with accounts := update s.accounts tx.body.sender (some account) } tx.body.msgs

/-- The registry writes of an `init_chain` call from `s`. -/
def initTrace (rt : Runtime) (s : State) (appStateBytes : Bytes) : List Effect :=
  match rt.decodeGenesis appStateBytes with
  | .error _ => []
  | .ok g => msgsTrace rt g.deployer s g.genMsgs

/-- The call returned, `Ok` or `Err`, and left the state `t`. -/
def Returns {α : Type} : EStateM.Result Fault State α → State → Prop
  | .ok _ s, t => t = s
  | .error (.error _) s, t => t = s
  | .error .panic _, _ => False

/-- The call panicked. -/
def Panics {α : Type} (r : EStateM.Result Fault State α) : Prop := ∃ t, r = .error .panic t

/-- **The runs of the chain**, with the registry writes of their successful messages in order. -/
inductive Run : List Effect → State → Prop
  | init : Run [] (default : State)
  | initChain {tr : List Effect} {s s' : State} (rt : Runtime) (appStateBytes : Bytes) :
      Run tr s → Returns ((initChain rt appStateBytes).run s) s' → Run (tr ++ initTrace rt s appStateBytes) s'
  | handleTx {tr : List Effect} {s s' : State} (rt : Runtime) (txBytes : Bytes) :
      Run tr s → Returns ((handleTx rt txBytes).run s) s' → Run (tr ++ txTrace rt s txBytes) s'
  | commit {tr : List Effect} {s s' : State} (rt : Runtime) :
      Run tr s → Returns ((commit rt).run s) s' → Run tr s'

/-- A state some run reaches. -/
def Reachable (s : State) : Prop := ∃ tr, Run tr s

/-! ## One induction for every run -/

section Induct

variable (Q : List Effect → State → Prop)

theorem returns_withEvents {evs : List Event} {r : EStateM.Result Fault State (List Event)} {t : State} :
    Returns (withEvents evs r) t ↔ Returns r t := by
  rcases r with _ | ⟨_ | _, _⟩ <;> rfl

/-- **A message loop that returns keeps what every successful message keeps.** -/
theorem runMsgs_trace (rt : Runtime) (sender : String)
    (hmsg : ∀ m s evs s' tr, Q tr s → DispatchOk rt sender s m evs s' →
      Q (tr ++ (effectOf rt sender s m).toList) s') :
    ∀ (ms : List SdkMsg) (s s' : State) (tr : List Effect), Q tr s → Returns (runMsgs rt sender s ms) s' →
      Q (tr ++ msgsTrace rt sender s ms) s'
  | [], s, s', tr, hq, hr => by
    cases hr
    simpa [msgsTrace] using hq
  | m :: ms, s, s', tr, hq, hr => by
    simp only [runMsgs, msgsTrace] at hr ⊢
    rcases h : (dispatch rt sender m).run s with ⟨evs, s₁⟩ | ⟨_ | e, s₁⟩ <;> simp only [h] at hr ⊢
    · rw [returns_withEvents] at hr
      simpa using runMsgs_trace rt sender hmsg ms s₁ s' _ (hmsg m s evs s₁ tr hq (dispatch_ok rt sender h)) hr
    · exact hr.elim
    · cases hr
      simpa using hq

variable (h0 : Q [] (default : State))
  (hmsg : ∀ rt sender m s evs s' tr, Q tr s → DispatchOk rt sender s m evs s' →
    Q (tr ++ (effectOf rt sender s m).toList) s')
  (hacc : ∀ tr s sender a, Q tr s → Q tr { s with accounts := update s.accounts sender (some a) })
  (hheight : ∀ tr s, Q tr s → Q tr { s with height := s.height + 1 })
include h0 hmsg hacc hheight

/-- **Every run keeps a property that the start has and that every successful message, account update and height
bump keeps.** -/
theorem Run.induct_on {tr : List Effect} {s : State} (h : Run tr s) : Q tr s := by
  induction h with
  | init => exact h0
  | initChain rt b _ hr ih =>
    rw [initChain_run] at hr
    unfold initTrace
    rcases hd : rt.decodeGenesis b with e | g <;> simp only [hd] at hr ⊢
    · cases hr; simpa using ih
    · apply runMsgs_trace Q rt g.deployer (hmsg rt g.deployer) _ _ _ _ ih
      generalize runMsgs rt g.deployer _ g.genMsgs = r at hr ⊢
      rcases r with ⟨_, _⟩ | ⟨_ | _, _⟩ <;> exact hr
  | handleTx rt b _ hr ih =>
    rw [handleTx_run] at hr
    unfold txSpec at hr
    unfold txTrace
    rcases hd : rt.decodeTx b with e | tx <;> simp only [hd] at hr ⊢
    · cases hr; simpa using ih
    · rcases ha : rt.authenticateTx tx _ with e | a <;> simp only [ha] at hr ⊢
      · cases hr; simpa using ih
      · exact runMsgs_trace Q rt _ (hmsg rt _) _ _ _ _ (hacc _ _ _ a ih) hr
  | commit rt _ hr ih =>
    rw [commit_run] at hr
    split_ifs at hr
    · cases hr; exact hheight _ _ ih
    · exact hr.elim

end Induct

/-! ## What only `commit` changes -/

/-- A message that succeeded left the height and the chain id. -/
theorem DispatchOk.height_chainId {rt : Runtime} {sender : String} {m : SdkMsg} {s s' : State} {evs : List Event}
    (h : DispatchOk rt sender s m evs s') : s'.height = s.height ∧ s'.chainId = s.chainId := by
  cases m with
  | storeCode => obtain ⟨-, rfl, -⟩ := h; exact ⟨rfl, rfl⟩
  | instantiate => obtain ⟨_, _, _, -, -, -, -, -, rfl, -⟩ := h; exact ⟨rfl, rfl⟩
  | execute => obtain ⟨_, _, _, _, _, -, -, -, -, -, -, rfl, -⟩ := h; exact ⟨rfl, rfl⟩
  | migrate => exact h.elim

/-- So does a message loop that returns. -/
theorem runMsgs_height_chainId (rt : Runtime) (sender : String) (ms : List SdkMsg) {s s' : State}
    (h : Returns (runMsgs rt sender s ms) s') : s'.height = s.height ∧ s'.chainId = s.chainId :=
  runMsgs_trace (fun _ t => t.height = s.height ∧ t.chainId = s.chainId) rt sender
    (fun _ _ _ _ _ hq hd => ⟨hd.height_chainId.1.trans hq.1, hd.height_chainId.2.trans hq.2⟩) ms s s' [] ⟨rfl, rfl⟩ h

/-- `handle_tx` leaves the height and the chain id, whatever it returns. -/
theorem handleTx_height_chainId {rt : Runtime} {txBytes : Bytes} {s s' : State}
    (h : Returns ((handleTx rt txBytes).run s) s') : s'.height = s.height ∧ s'.chainId = s.chainId := by
  rw [handleTx_run] at h
  unfold txSpec at h
  rcases hd : rt.decodeTx txBytes with e | tx <;> simp only [hd] at h
  · obtain rfl : s' = s := h
    exact ⟨rfl, rfl⟩
  rcases ha : rt.authenticateTx tx s with e | account <;> simp only [ha] at h
  · obtain rfl : s' = s := h
    exact ⟨rfl, rfl⟩
  obtain ⟨h₁, h₂⟩ := runMsgs_height_chainId rt _ _ h
  exact ⟨h₁, h₂⟩

/-- So does `init_chain`. -/
theorem initChain_height_chainId {rt : Runtime} {appStateBytes : Bytes} {s s' : State}
    (h : Returns ((initChain rt appStateBytes).run s) s') : s'.height = s.height ∧ s'.chainId = s.chainId := by
  rw [initChain_run] at h
  rcases hd : rt.decodeGenesis appStateBytes with e | g <;> simp only [hd] at h
  · obtain rfl : s' = s := h
    exact ⟨rfl, rfl⟩
  apply runMsgs_height_chainId rt g.deployer g.genMsgs
  revert h
  rcases runMsgs rt g.deployer s g.genMsgs with _ | ⟨_ | _, _⟩ <;> exact id

/-- **Only `commit` moves the chain's info** (§3, invariant 6; §8, property 2).  `handle_tx` and `init_chain` leave the
height, and so the app hash `info()` reports, and the chain id as they were, whatever they return; `commit` advances the
height by one.  Nothing writes the chain id: `init_chain` does not take one from the genesis state, and in every
reachable state it is the empty string of `State::default()`. -/
theorem info_changes_only_at_commit :
    (∀ rt rt' txBytes s s', Returns ((handleTx rt txBytes).run s) s' →
      info rt' s' = info rt' s ∧ s'.chainId = s.chainId) ∧
    (∀ rt rt' appStateBytes s s', Returns ((initChain rt appStateBytes).run s) s' →
      info rt' s' = info rt' s ∧ s'.chainId = s.chainId) ∧
    (∀ rt s s', Returns ((commit rt).run s) s' → s'.height = s.height + 1 ∧ s'.chainId = s.chainId) ∧
    (∀ s, Reachable s → s.chainId = "") := by
  refine ⟨fun _ rt' _ _ _ h => ?_, fun _ rt' _ _ _ h => ?_, fun rt s s' h => ?_, ?_⟩
  · obtain ⟨h₁, h₂⟩ := handleTx_height_chainId h
    exact ⟨by simp only [info, h₁], h₂⟩
  · obtain ⟨h₁, h₂⟩ := initChain_height_chainId h
    exact ⟨by simp only [info, h₁], h₂⟩
  · rw [commit_run] at h
    split_ifs at h
    · obtain rfl : s' = _ := h
      exact ⟨rfl, rfl⟩
    · exact h.elim
  · rintro s ⟨tr, h⟩
    exact Run.induct_on (fun _ s => s.chainId = "") rfl (fun _ _ _ _ _ _ _ hq hd => hd.height_chainId.2.trans hq)
      (fun _ _ _ _ hq => hq) (fun _ _ hq => hq) h

end Sdk
end CwSdk

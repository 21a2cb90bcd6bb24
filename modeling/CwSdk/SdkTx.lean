import CwSdk.SdkHandlers
/-!
# SdkTx — `handle_tx`, `init_chain`, `commit` and `handle_query`

The public entry points of `State`.  `handle_tx` decodes, authenticates, writes the sender's account back, then runs
the messages lazily through `try_for_each`: the first `Err` stops the loop, and the state keeps whatever the messages
before it wrote (there is no transaction-wide overlay).  `init_chain` replays the genesis messages from the deployer
the same way.  The queries take `&self`: they are functions of the state, and cannot change it.

`txSpec` is the transaction semantics written from the other side, message by message (`runMsgs`); `handleTx_run`
says the code computes it.
-/
namespace CwSdk
namespace Sdk

open Function (update)

section Entry

variable (rt : Runtime)

/-- `State::info`: the height, and `sha256(height)` as a mock app hash. -/
def info (s : State) : Nat × Bytes := (s.height, rt.sha256 (toBeBytes s.height))

/-- One step of `try_for_each` over the mapped messages: run the message, extend the events. -/
def txStep (sender : String) (events : List Event) (msg : SdkMsg) : EStateM Fault State (List Event) := do
  let res ← dispatch rt sender msg
  pure (events ++ res)

def handleTx (txBytes : Bytes) : EStateM Fault State (List Event) := do
  -- deserialize the tx from bytes
  let tx ← liftResult ((rt.decodeTx txBytes).mapError .serde)
  -- authenticate signature, chain id, sequence, etc.
  let account ← liftResult ((rt.authenticateTx tx (← get)).mapError .auth)
  -- increment the sender's sequence number
  modify fun s => { s with accounts := update s.accounts tx.body.sender (some account) }
  tx.body.msgs.foldlM (txStep rt tx.body.sender) []

/-- One pass of `init_chain`'s `for msg in gen_msgs`: run the message, drop what it returns. -/
def genStep (deployer : String) (msg : SdkMsg) : EStateM Fault State PUnit := do
  let _ ← dispatch rt deployer msg
  pure ()

def initChain (appStateBytes : Bytes) : EStateM Fault State Bytes := do
  let ⟨deployer, genMsgs⟩ ← liftResult ((rt.decodeGenesis appStateBytes).mapError .serde)
  genMsgs.forM (genStep rt deployer)
  let (_, appHash) := info rt (← get)
  pure appHash

def commit : EStateM Fault State (Nat × Bytes) := do
  let height ← incU64 (← get).height
  modify fun s => { s with height }
  pure (info rt (← get))

end Entry

/-! ## Queries -/

section Spec

variable (rt : Runtime)

/-- `evs` in front of the events of a result that returned `Ok`. -/
def withEvents (evs : List Event) : EStateM.Result Fault State (List Event) → EStateM.Result Fault State (List Event)
  | .ok evs' s => .ok (evs ++ evs') s
  | .error e s => .error e s

/-- **A transaction's messages, one by one**, from `s`: at the first `Err`, that error in the state before the
message, and nothing after it runs; otherwise every message's events, in order, in the state the last one left. -/
def runMsgs (sender : String) : State → List SdkMsg → EStateM.Result Fault State (List Event)
  | s, [] => .ok [] s
  | s, m :: ms =>
    match (dispatch rt sender m).run s with
    | .ok evs s' => withEvents evs (runMsgs sender s' ms)
    | .error (.error e) _ => .error (.error e) s
    | .error .panic s' => .error .panic s'

/-- **`handle_tx` as the transaction semantics reads it**: a transaction that does not decode or authenticate fails
with the state untouched; otherwise its messages run from the state with the sender's new account. -/
def txSpec (s : State) (txBytes : Bytes) : EStateM.Result Fault State (List Event) :=
  match rt.decodeTx txBytes with
  | .error e => .error (.error (.serde e)) s
  | .ok tx =>
    match rt.authenticateTx tx s with
    | .error e => .error (.error (.auth e)) s
    | .ok account =>
      runMsgs rt tx.body.sender { s with accounts := update s.accounts tx.body.sender (some account) } tx.body.msgs

theorem foldlM_txStep_run (sender : String) : ∀ (ms : List SdkMsg) (acc : List Event) (s : State),
    (ms.foldlM (txStep rt sender) acc).run s = withEvents acc (runMsgs rt sender s ms)
  | [], acc, s => by simp [runMsgs, withEvents]
  | m :: ms, acc, s => by
    simp only [List.foldlM_cons, txStep, run_bind, runMsgs]
    rcases h : (dispatch rt sender m).run s with ⟨evs, s'⟩ | ⟨_ | e, s'⟩
    · simp only [run_pure, foldlM_txStep_run sender ms]
      cases runMsgs rt sender s' ms <;> simp [withEvents]
    · rfl
    · simp [dispatch_error_state rt sender m h, withEvents]

theorem handleTx_run (s : State) (txBytes : Bytes) : (handleTx rt txBytes).run s = txSpec rt s txBytes := by
  rcases hd : rt.decodeTx txBytes with e | tx <;> simp [handleTx, txSpec, hd, Except.mapError]
  rcases ha : rt.authenticateTx tx s with e | account <;> simp [ha, foldlM_txStep_run]
  cases runMsgs rt _ _ _ <;> simp [withEvents]

/-- **Transaction semantics of `handle_tx`**: it computes `txSpec`, the messages run one by one and the first `Err`
ending the transaction in the state before that message; a message's `Err` leaves the state as it was, whichever
handler raised it and however far it got; and a message that succeeds returns its primary event followed by the
contract's own events (`DispatchOk`). -/
theorem handleTx_semantics :
    (∀ s txBytes, (handleTx rt txBytes).run s = txSpec rt s txBytes) ∧
    (∀ sender m s e s', (dispatch rt sender m).run s = .error (.error e) s' → s' = s) ∧
    (∀ sender m s evs s', (dispatch rt sender m).run s = .ok evs s' → DispatchOk rt sender s m evs s') :=
  ⟨handleTx_run rt, fun sender m _ _ _ h => dispatch_error_state rt sender m h,
    fun sender _ _ _ _ h => dispatch_ok rt sender h⟩

theorem forM_genStep_run (deployer : String) : ∀ (ms : List SdkMsg) (s : State),
    (ms.forM (genStep rt deployer)).run s =
      match runMsgs rt deployer s ms with
      | .ok _ s' => .ok ⟨⟩ s'
      | .error e s' => .error e s'
  | [], s => rfl
  | m :: ms, s => by
    simp only [List.forM_cons', genStep, run_bind, runMsgs]
    rcases h : (dispatch rt deployer m).run s with ⟨evs, s'⟩ | ⟨_ | e, s'⟩
    · simp only [run_pure, forM_genStep_run deployer ms]
      cases runMsgs rt deployer s' ms <;> rfl
    · rfl
    · simp [dispatch_error_state rt deployer m h]

theorem initChain_run (s : State) (appStateBytes : Bytes) :
    (initChain rt appStateBytes).run s =
      match rt.decodeGenesis appStateBytes with
      | .error e => .error (.error (.serde e)) s
      | .ok g =>
        match runMsgs rt g.deployer s g.genMsgs with
        | .ok _ s' => .ok (info rt s').2 s'
        | .error e s' => .error e s' := by
  rcases hd : rt.decodeGenesis appStateBytes with e | ⟨deployer, genMsgs⟩ <;>
    simp [initChain, hd, Except.mapError, forM_genStep_run]
  cases runMsgs rt _ _ _ <;> rfl

theorem commit_run (s : State) :
    (commit rt).run s =
      if s.height < u64Max then .ok (info rt { s with height := s.height + 1 }) { s with height := s.height + 1 }
      else .error .panic s := by
  by_cases h : s.height < u64Max <;> simp [commit, h]

end Spec

end Sdk
end CwSdk

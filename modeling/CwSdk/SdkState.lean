import CwSdk.SdkMsg
/-!
# SdkState — the sdk's `State`, and methods on it as `EStateM`

`State` is the whole mutable world of `state_machine.rs`.  A `&mut self` method returning `Result<T, StateError>` is
an `EStateM Fault State T`: `Ok` and `Err` both come back with the state as the method left it, which is what Rust's
`?` gives.  A panic is the third way out (`Fault.panic`): a `BTreeMap` index on a missing key (`index`), and `+= 1` on a
`u64` at `u64::MAX` (`incU64`, with Rust's overflow checks on).  A panic leaves no state a caller could see.

The maps are partial functions: `BTreeMap::insert` is `Function.update`.  The VM and everything else `state_machine.rs`
calls but does not contain — the JSON decoder, the authenticator, `sha256` — are the fields of a `Runtime`.
-/
namespace CwSdk
namespace Sdk

/-- Modelled from the spec: `store::ContractStore`, which is not in the source.  A contract's own key-value map,
`ContractStore::new()` empty. -/
structure ContractStore where
  data : Bytes → Option Bytes

/-- `ContractStore::new`. -/
def ContractStore.new : ContractStore := ⟨fun _ => none⟩

/-- The backend's `Storage::get`: an in-memory map never fails. -/
def ContractStore.get (st : ContractStore) (key : Bytes) : Except BackendError (Option Bytes) := .ok (st.data key)

structure State where
  height : Nat
  chainId : String
  codeCount : Nat
  contractCount : Nat
  accounts : String → Option Account
  codes : Nat → Option Code
  contracts : Nat → Option Contract
  stores : Nat → Option ContractStore

/-- `State::default()`. -/
instance : Inhabited State := ⟨⟨0, "", 0, 0, fun _ => none, fun _ => none, fun _ => none, fun _ => none⟩⟩

/-- How a method ends when it does not return `Ok`. -/
inductive Fault where
  | panic
  | error (e : StateError)
  deriving DecidableEq, Repr

/-- The VM as the sdk calls it: `Instance::from_code` on the code with a backend over the given store, the entry point
with `mock_env()` (and `mock_info(sender, &[])`), then `recycle()`.  The result comes back with the recycled store, or a
`VmError` from loading or calling. -/
structure Vm where
  callInstantiate : Bytes → String → Bytes → ContractStore → Except VmError (ContractResult Response × ContractStore)
  callExecute : Bytes → String → Bytes → ContractStore → Except VmError (ContractResult Response × ContractStore)
  callQuery : Bytes → Bytes → ContractStore → Except VmError (ContractResult Bytes)

/-- What `state_machine.rs` calls and does not contain. -/
structure Runtime where
  vm : Vm
  sha256 : Bytes → Bytes
  decodeTx : Bytes → Except SerdeError Tx
  decodeGenesis : Bytes → Except SerdeError GenesisState
  decodeQuery : Bytes → Except SerdeError SdkQuery
  encodeResponse : QueryResponse → Except SerdeError Bytes
  authenticateTx : Tx → State → Except AuthError Account

/-- The largest `u64`, `2⁶⁴ - 1`. -/
def u64Max : Nat := 18446744073709551615

/-- `u64::to_be_bytes`. -/
def toBeBytes (n : Nat) : Bytes := (List.range 8).reverse.map fun i => UInt8.ofNat (n >>> (8 * i))

/-- `hex::encode`: two lower-case digits a byte. -/
def hexEncode (b : Bytes) : String :=
  String.mk (b.flatMap fun x => [Nat.digitChar (x.toNat / 16), Nat.digitChar (x.toNat % 16)])

section Monad

variable {ε σ α β : Type}

@[simp] theorem run_bind (x : EStateM ε σ α) (f : α → EStateM ε σ β) (s : σ) :
    (x >>= f).run s = match x.run s with
      | .ok a s' => (f a).run s'
      | .error e s' => .error e s' := by
  show EStateM.bind x f s = _
  unfold EStateM.bind EStateM.run
  cases x s <;> rfl

@[simp] theorem run_map (f : α → β) (x : EStateM ε σ α) (s : σ) :
    (f <$> x).run s = match x.run s with
      | .ok a s' => .ok (f a) s'
      | .error e s' => .error e s' := by
  show EStateM.map f x s = _
  unfold EStateM.map EStateM.run
  cases x s <;> rfl

@[simp] theorem run_pure (a : α) (s : σ) : (pure a : EStateM ε σ α).run s = .ok a s := rfl
@[simp] theorem run_get (s : σ) : (get : EStateM ε σ σ).run s = .ok s s := rfl
@[simp] theorem run_set (s t : σ) : (set t : EStateM ε σ PUnit).run s = .ok ⟨⟩ t := rfl
@[simp] theorem run_modify (f : σ → σ) (s : σ) : (modify f : EStateM ε σ PUnit).run s = .ok ⟨⟩ (f s) := rfl
@[simp] theorem run_throw (e : ε) (s : σ) : (throw e : EStateM ε σ α).run s = .error e s := rfl

end Monad

/-- `?` on a `Result<_, StateError>`. -/
def liftResult {σ α : Type} : Except StateError α → EStateM Fault σ α
  | .ok a => pure a
  | .error e => throw (.error e)

/-- A `BTreeMap` index `m[&k]`: panics when the key is missing. -/
def index {σ κ α : Type} (m : κ → Option α) (k : κ) : EStateM Fault σ α :=
  match m k with
  | some v => pure v
  | none => throw .panic

/-- `+= 1` on a `u64`. -/
def incU64 {σ : Type} (n : Nat) : EStateM Fault σ Nat :=
  if n < u64Max then pure (n + 1) else throw .panic

@[simp] theorem liftResult_run {σ α : Type} (r : Except StateError α) (s : σ) :
    (liftResult r).run s = match r with
      | .ok a => .ok a s
      | .error e => .error (.error e) s := by
  cases r <;> rfl

@[simp] theorem index_run {σ κ α : Type} (m : κ → Option α) (k : κ) (s : σ) :
    (index m k).run s = match m k with
      | some v => .ok v s
      | none => .error .panic s := by
  unfold index; split <;> rfl

@[simp] theorem incU64_run {σ : Type} (n : Nat) (s : σ) :
    (incU64 n).run s = if n < u64Max then .ok (n + 1) s else .error .panic s := by
  unfold incU64; split <;> rfl

end Sdk
end CwSdk

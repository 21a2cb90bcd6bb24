import CwSdk.SdkState
/-!
# MachineStore — the state machine's store, the overlay a call runs in, and a contract's substore

The state-machine package keeps everything in one key-value store: the code counter, the codes, the accounts and every
contract's own keys.  `cw_store::Cached`, the write-buffered overlay each call runs in, `ContractSubstore`, the view of
it a contract gets, and the items of `crate::state` are not in the source; they are modelled from the spec (§4.1,
§4.2, §6).  Keys are typed by namespace (§6, "Persisted state layout"), so the namespaces are disjoint by
construction, as the layout's prefixes make them, and a substore can only name keys of its own contract (§4.2).

An overlay's pending writes are a list, newest first: a read looks its key up there first, and a flush applies them
oldest first.  A key's last write decides what it holds, so this is the spec's pending map flushed in key order.  The
headline facts are `Cached.get_flush` (reading through an overlay is reading its flush) and `Cached.flush_applyOps`
(writes into an overlay, flushed, are the same writes applied below).
-/
namespace CwSdk
namespace Machine

/-- Modelled from the spec: `cw_sdk::Account`, not in the source (§3: `{Base(pubkey, sequence), Contract(code_id,
label, admin?)}`). -/
inductive Account where
  | base (pubkey : Bytes) (sequence : Nat)
  | contract (codeId : Nat) (label : String) (admin : Option String)
  deriving DecidableEq, Repr

/-- Modelled from the spec: a key of the store, by namespace (§6: `code_count`, `codes/<code_id>`,
`accounts/<addr>`, `contract_stores/<addr>/<user_key>`). -/
inductive Key where
  | codeCount
  | code (codeId : Nat)
  | account (address : String)
  | contract (address : String) (key : Bytes)
  deriving DecidableEq, Repr

/-- A stored value, as the item under its key serializes it. -/
inductive Val where
  | count (n : Nat)
  | code (wasmByteCode : Bytes)
  | account (account : Account)
  | raw (value : Bytes)
  deriving DecidableEq, Repr

/-- A write to a key (§4.1): `Put(value)` or `Delete`. -/
inductive Op where
  | put (v : Val)
  | delete
  deriving DecidableEq, Repr

/-- What a key holds after the write. -/
def Op.value : Op → Option Val
  | .put v => some v
  | .delete => none

/-- `cosmwasm_std::Storage`, with the law every store keeps: a read sees the last write to its key. -/
class Storage (S : Type) where
  get : S → Key → Option Val
  set : S → Key → Val → S
  remove : S → Key → S
  get_set (s : S) (k : Key) (v : Val) (k' : Key) : get (set s k v) k' = if k' = k then some v else get s k'
  get_remove (s : S) (k k' : Key) : get (remove s k) k' = if k' = k then none else get s k'

attribute [simp] Storage.get_set Storage.get_remove

section Ops

variable {S : Type} [Storage S]

def Op.apply (s : S) (k : Key) : Op → S
  | .put v => Storage.set s k v
  | .delete => Storage.remove s k

@[simp] theorem get_apply (s : S) (k : Key) (op : Op) (k' : Key) :
    Storage.get (op.apply s k) k' = if k' = k then op.value else Storage.get s k' := by
  cases op <;> simp [Op.apply, Op.value]

/-- Writes applied oldest first. -/
def applyOps (s : S) : List (Key × Op) → S
  | [] => s
  | (k, op) :: ops => applyOps (op.apply s k) ops

@[simp] theorem applyOps_nil (s : S) : applyOps s [] = s := rfl

@[simp] theorem applyOps_cons (s : S) (k : Key) (op : Op) (ops : List (Key × Op)) :
    applyOps s ((k, op) :: ops) = applyOps (op.apply s k) ops := rfl

theorem applyOps_append (s : S) (ops ops' : List (Key × Op)) :
    applyOps s (ops ++ ops') = applyOps (applyOps s ops) ops' := by
  induction ops generalizing s with
  | nil => rfl
  | cons w ops ih => exact ih _

/-- **Frame.**  A key no write names keeps what it held. -/
theorem get_applyOps_of_not_mem (s : S) (ops : List (Key × Op)) (k : Key) (h : k ∉ ops.map Prod.fst) :
    Storage.get (applyOps s ops) k = Storage.get s k := by
  induction ops generalizing s with
  | nil => rfl
  | cons w ops ih =>
    simp only [List.map_cons, List.mem_cons, not_or] at h
    rw [applyOps, ih _ h.2, get_apply, if_neg h.1]

end Ops

/-- A store: what each key holds. -/
structure Store where
  data : Key → Option Val

instance : Storage Store where
  get s k := s.data k
  set s k v := ⟨Function.update s.data k (some v)⟩
  remove s k := ⟨Function.update s.data k none⟩
  get_set s k v k' := Function.update_apply s.data k (some v) k'
  get_remove s k k' := Function.update_apply s.data k none k'

/-- The empty store. -/
def Store.empty : Store := ⟨fun _ => none⟩

@[simp] theorem Store.get_empty (k : Key) : Storage.get Store.empty k = none := rfl

/-- Modelled from the spec: `cw_store::Cached`, a write-buffered overlay over the store `base` (§4.1).  `pending` is
newest first. -/
structure Cached (S : Type) where
  base : S
  pending : List (Key × Op)

namespace Cached

variable {S : Type}

def new (store : S) : Cached S := ⟨store, []⟩

/-- Reclaim the store below; what is pending is dropped. -/
def recycle (c : Cached S) : S := c.base

@[simp] theorem recycle_new (s : S) : (new s).recycle = s := rfl

variable [Storage S]

/-- Pending first: a `Put` is read back, a `Delete` hides the key; otherwise the store below answers. -/
def get (c : Cached S) (k : Key) : Option Val :=
  match c.pending.lookup k with
  | some op => op.value
  | none => Storage.get c.base k

/-- Apply every pending write to the store below, and clear them. -/
def flush (c : Cached S) : Cached S := ⟨applyOps c.base c.pending.reverse, []⟩

theorem get_cons (c : Cached S) (k : Key) (op : Op) (k' : Key) :
    get ⟨c.base, (k, op) :: c.pending⟩ k' = if k' = k then op.value else get c k' := by
  by_cases h : k' = k
  · simp [get, List.lookup_cons, h]
  · simp [get, List.lookup_cons, h, beq_eq_false_iff_ne.mpr h]

instance : Storage (Cached S) where
  get := get
  set c k v := ⟨c.base, (k, .put v) :: c.pending⟩
  remove c k := ⟨c.base, (k, .delete) :: c.pending⟩
  get_set c k v k' := get_cons c k (.put v) k'
  get_remove c k k' := get_cons c k .delete k'

/-- A write into an overlay is recorded as pending. -/
theorem apply_eq (c : Cached S) (k : Key) (op : Op) : op.apply c k = ⟨c.base, (k, op) :: c.pending⟩ := by
  cases op <;> rfl

theorem applyOps_eq (c : Cached S) (ops : List (Key × Op)) :
    applyOps c ops = ⟨c.base, ops.reverse ++ c.pending⟩ := by
  induction ops generalizing c with
  | nil => rfl
  | cons w ops ih => simp [applyOps, apply_eq, ih]

@[simp] theorem get_new (s : S) (k : Key) : Storage.get (new s) k = Storage.get s k := rfl

@[simp] theorem flush_new (s : S) : (new s).flush = new s := rfl

/-- **Dropping an overlay leaves the store below as it was** (§4.1: "after `discard`, the underlying store is
byte-equal to before any operation on the overlay"). -/
@[simp] theorem recycle_applyOps (c : Cached S) (ops : List (Key × Op)) : (applyOps c ops).recycle = c.recycle := by
  rw [applyOps_eq]; rfl

/-- **Reading through an overlay is reading its flush** (§4.1: "after `flush`, a fresh `get` observes exactly the
post-flush state"). -/
theorem get_flush (c : Cached S) (k : Key) : Storage.get c.flush.recycle k = Storage.get c k := by
  obtain ⟨base, pending⟩ := c
  induction pending with
  | nil => rfl
  | cons w pending ih =>
    obtain ⟨k', op⟩ := w
    have hc : Storage.get (⟨base, (k', op) :: pending⟩ : Cached S) k =
        if k = k' then op.value else Storage.get (⟨base, pending⟩ : Cached S) k :=
      get_cons ⟨base, pending⟩ k' op k
    rw [hc, ← ih]
    simp [flush, recycle, applyOps_append]

/-- **Writes into an overlay, flushed, are the same writes applied below it.** -/
theorem flush_applyOps (c : Cached S) (ops : List (Key × Op)) :
    (applyOps c ops).flush.recycle = applyOps c.flush.recycle ops := by
  simp [applyOps_eq, flush, recycle, applyOps_append]

/-- Reading writes made into a fresh overlay is reading them made below it. -/
theorem get_applyOps_new (s : S) (ops : List (Key × Op)) (k : Key) :
    Storage.get (applyOps (new s) ops) k = Storage.get (applyOps s ops) k := by
  rw [← get_flush, flush_applyOps, flush_new, recycle_new]

end Cached

/-- A write a contract makes through the host ABI (§4.3): `write(key, value)` or `remove(key)`. -/
inductive Write where
  | write (key value : Bytes)
  | remove (key : Bytes)
  deriving DecidableEq, Repr

/-- The write as the substore of contract `address` makes it below: the key moved into the contract's namespace. -/
def Write.toOp (address : String) : Write → Key × Op
  | .write key value => (.contract address key, .put (.raw value))
  | .remove key => (.contract address key, .delete)

/-- A contract's writes, as writes to the store. -/
def substoreOps (address : String) (ws : List Write) : List (Key × Op) := ws.map (Write.toOp address)

theorem mem_substoreOps {address : String} {ws : List Write} {k : Key}
    (h : k ∈ (substoreOps address ws).map Prod.fst) :
    ∃ key, k = .contract address key := by
  simp only [substoreOps, List.map_map, List.mem_map, Function.comp] at h
  obtain ⟨w, -, rfl⟩ := h
  cases w <;> exact ⟨_, rfl⟩

/-- **Substore isolation.**  A contract's writes leave every key outside its namespace as it was. -/
theorem get_substoreOps {S : Type} [Storage S] (s : S) (address : String) (ws : List Write) (k : Key)
    (h : ∀ key, k ≠ .contract address key) :
    Storage.get (applyOps s (substoreOps address ws)) k = Storage.get s k :=
  get_applyOps_of_not_mem s _ k fun hk => (h _ (mem_substoreOps hk).choose_spec).elim

/-- Modelled from the spec: `backend::ContractSubstore`, the keys of contract `address` in `store` (§4.2). -/
structure ContractSubstore (S : Type) where
  store : S
  address : String

namespace ContractSubstore

variable {S : Type} [Storage S]

def new (store : S) (address : String) : ContractSubstore S := ⟨store, address⟩

def recycle (c : ContractSubstore S) : S := c.store

/-- What the contract reads under `key`: the bytes under it in its own namespace. -/
def read (c : ContractSubstore S) (key : Bytes) : Option Bytes :=
  match Storage.get c.store (.contract c.address key) with
  | some (.raw value) => some value
  | _ => none

/-- The contract's writes, made through the substore. -/
def applyWrites (c : ContractSubstore S) (ws : List Write) : ContractSubstore S :=
  ⟨applyOps c.store (substoreOps c.address ws), c.address⟩

@[simp] theorem read_new_new (s : S) (address : String) :
    (new (Cached.new s) address).read = (new s address).read := rfl

@[simp] theorem recycle_applyWrites (s : S) (address : String) (ws : List Write) :
    ((new s address).applyWrites ws).recycle = applyOps s (substoreOps address ws) := rfl

end ContractSubstore

/-- `cosmwasm_std::StdError`, the variants loading an item raises. -/
inductive StdError where
  | notFound (kind : String)
  | parseErr (targetType : String)
  deriving DecidableEq, Repr

/-- Modelled from the spec: `crate::error::Error`, not in the source, with the variants this package raises (§7). -/
inductive Error where
  | std (err : StdError)
  | vm (err : VmError)
  | illegalLabel
  | accountFound (address : String)
  | contractNotFound (address : String)
  | fundTransferFailed (reason : String)
  deriving DecidableEq, Repr

section Items

variable {S : Type} [Storage S]

/-- `CODE_COUNT.load`. -/
def codeCountLoad (store : S) : Except Error Nat :=
  match Storage.get store .codeCount with
  | some (.count n) => .ok n
  | some _ => .error (.std (.parseErr "u64"))
  | none => .error (.std (.notFound "u64"))

/-- `CODES.load`. -/
def codesLoad (store : S) (codeId : Nat) : Except Error Bytes :=
  match Storage.get store (.code codeId) with
  | some (.code wasmByteCode) => .ok wasmByteCode
  | some _ => .error (.std (.parseErr "cosmwasm_std::binary::Binary"))
  | none => .error (.std (.notFound "cosmwasm_std::binary::Binary"))

/-- `CODES.save`. -/
def codesSave (store : S) (codeId : Nat) (wasmByteCode : Bytes) : S :=
  Storage.set store (.code codeId) (.code wasmByteCode)

/-- `ACCOUNTS.may_load`. -/
def accountsMayLoad (store : S) (address : String) : Except Error (Option Account) :=
  match Storage.get store (.account address) with
  | some (.account account) => .ok (some account)
  | some _ => .error (.std (.parseErr "cw_sdk::Account"))
  | none => .ok none

/-- `ACCOUNTS.update`: load the entry, run `action` on it, save what it returns; an error saves nothing. -/
def accountsUpdate (store : S) (address : String) (action : Option Account → Except Error Account) :
    Except Error (Account × S) := do
  let input ← accountsMayLoad store address
  let output ← action input
  pure (output, Storage.set store (.account address) (.account output))

/-- Modelled from the spec: `state::code_by_address`, not in the source: the code of the contract account at
`address` (§4.5: "Load `code_id` from the contract account at `contract_addr`; fail `contract_not_found`
otherwise"). -/
def codeByAddress (store : S) (address : String) : Except Error Bytes :=
  match accountsMayLoad store address with
  | .ok (some (.contract codeId _ _)) => codesLoad store codeId
  | .ok _ => .error (.contractNotFound address)
  | .error e => .error e

theorem codesLoad_ok {store : S} {codeId : Nat} {code : Bytes} (h : codesLoad store codeId = .ok code) :
    Storage.get store (.code codeId) = some (.code code) := by
  unfold codesLoad at h; split at h <;> cases h; assumption

theorem accountsMayLoad_none {store : S} {address : String} (h : accountsMayLoad store address = .ok none) :
    Storage.get store (.account address) = none := by
  unfold accountsMayLoad at h; split at h <;> cases h; assumption

/-- A contract's code is found only through an account at its address. -/
theorem codeByAddress_account {store : S} {address : String} {code : Bytes}
    (h : codeByAddress store address = .ok code) : (Storage.get store (.account address)).isSome := by
  cases hg : Storage.get store (.account address)
  · simp [codeByAddress, accountsMayLoad, hg] at h
  · rfl

@[simp] theorem codesLoad_new (s : S) (codeId : Nat) : codesLoad (Cached.new s) codeId = codesLoad s codeId := rfl

@[simp] theorem codeByAddress_new (s : S) (address : String) :
    codeByAddress (Cached.new s) address = codeByAddress s address := rfl

section Congr

variable {S₁ S₂ : Type} [Storage S₁] [Storage S₂] {s₁ : S₁} {s₂ : S₂}

/-! What an item reads depends only on what the store holds. -/

theorem codesLoad_congr (h : ∀ k, Storage.get s₁ k = Storage.get s₂ k) (codeId : Nat) :
    codesLoad s₁ codeId = codesLoad s₂ codeId := by
  simp [codesLoad, h]

theorem accountsMayLoad_congr (h : ∀ k, Storage.get s₁ k = Storage.get s₂ k) (address : String) :
    accountsMayLoad s₁ address = accountsMayLoad s₂ address := by
  simp [accountsMayLoad, h]

theorem codeByAddress_congr (h : ∀ k, Storage.get s₁ k = Storage.get s₂ k) (address : String) :
    codeByAddress s₁ address = codeByAddress s₂ address := by
  simp [codeByAddress, accountsMayLoad_congr h, codesLoad_congr h]

theorem read_congr (h : ∀ k, Storage.get s₁ k = Storage.get s₂ k) (address : String) :
    (ContractSubstore.new s₁ address).read = (ContractSubstore.new s₂ address).read := by
  funext key; simp [ContractSubstore.read, ContractSubstore.new, h]

end Congr

end Items

end Machine
end CwSdk

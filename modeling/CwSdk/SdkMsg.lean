import CwSdk.Cosmwasm
/-!
# SdkMsg — the sdk's messages, queries, transactions and errors

The types `state_machine.rs` reads and returns, as it uses them: contract addresses are the `u64` numbers the sdk
hands out (`Execute { contract, .. }` is passed straight to `execute_contract(.., contract_addr: u64, ..)`), and
`SdkQuery` has the five variants `handle_query` matches.  A transaction keeps its body; its signature, chain id and
sequence are read only by the external authenticator.
-/
namespace CwSdk
namespace Sdk

inductive SdkMsg where
  | storeCode (wasmByteCode : Bytes)
  | instantiate (codeId : Nat) (msg : Bytes) (funds : List Coin) (label : String) (admin : Option String)
  | execute (contract : Nat) (msg : Bytes) (funds : List Coin)
  | migrate (contract : Nat) (codeId : Nat) (msg : Bytes)
  deriving DecidableEq, Repr

inductive SdkQuery where
  | account (address : String)
  | code (codeId : Nat)
  | contract (contract : Nat)
  | wasmRaw (contract : Nat) (key : Bytes)
  | wasmSmart (contract : Nat) (msg : Bytes)
  deriving DecidableEq, Repr

structure TxBody where
  sender : String
  msgs : List SdkMsg
  deriving DecidableEq, Repr

structure Tx where
  body : TxBody
  deriving DecidableEq, Repr

structure GenesisState where
  deployer : String
  genMsgs : List SdkMsg
  deriving DecidableEq, Repr

/-- A user account: what `query_account` reads of it. -/
structure Account where
  pubkey : Bytes
  sequence : Nat
  deriving DecidableEq, Repr

structure Code where
  creator : String
  wasmByteCode : Bytes
  deriving DecidableEq, Repr

structure Contract where
  codeId : Nat
  label : String
  admin : Option String
  deriving DecidableEq, Repr

structure AccountResponse where
  address : String
  pubkey : Option Bytes
  sequence : Nat
  deriving DecidableEq, Repr

structure CodeResponse where
  creator : String
  wasmByteCode : Bytes
  deriving DecidableEq, Repr

structure WasmRawResponse where
  contract : Nat
  key : Bytes
  value : Option Bytes
  deriving DecidableEq, Repr

structure WasmSmartResponse where
  contract : Nat
  result : ContractResult Bytes
  deriving DecidableEq, Repr

/-- The value `handle_query` hands to `serde_json::to_vec`, one variant per query. -/
inductive QueryResponse where
  | account (r : AccountResponse)
  | code (r : CodeResponse)
  | contract (r : Contract)
  | wasmRaw (r : WasmRawResponse)
  | wasmSmart (r : WasmSmartResponse)
  deriving DecidableEq, Repr

/-- A `cosmwasm_vm::BackendError`. -/
structure BackendError where
  msg : String
  deriving DecidableEq, Repr

/-- A `serde_json::Error`. -/
structure SerdeError where
  msg : String
  deriving DecidableEq, Repr

/-- An `auth::AuthError`: a bad signature, chain id or sequence. -/
structure AuthError where
  msg : String
  deriving DecidableEq, Repr

inductive StateError where
  | backend (e : BackendError)
  | vm (e : VmError)
  | serde (e : SerdeError)
  | auth (e : AuthError)
  | contract (msg : String)
  | codeNotFound (codeId : Nat)
  | contractNotFound (address : Nat)
  | submessagesUnsupported
  | fundsUnsupported
  | migrationUnsupported
  deriving DecidableEq, Repr

end Sdk
end CwSdk

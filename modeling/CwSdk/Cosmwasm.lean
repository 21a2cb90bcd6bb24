import Mathlib.Logic.Function.Basic
/-!
# Cosmwasm — the `cosmwasm_std` and `cosmwasm_vm` values both state machines pass around

Bytes, coins, events, a contract's `Response` and `ContractResult`, the `Env` and `MessageInfo` a contract is called
with, and the VM's own error.  Only what a modelled function reads is kept: a `Response`'s `data` is read by nothing
here, and a submessage only for whether there is one.
-/
namespace CwSdk

/-- `Binary` and `Vec<u8>`. -/
abbrev Bytes := List UInt8

structure Coin where
  denom : String
  amount : Nat
  deriving DecidableEq, Repr

structure Attribute where
  key : String
  value : String
  deriving DecidableEq, Repr

structure Event where
  ty : String
  attributes : List Attribute
  deriving DecidableEq, Repr

/-- `Event::new`. -/
def Event.new (ty : String) : Event := ⟨ty, []⟩

/-- `Event::add_attribute`: appended after the event's attributes. -/
def Event.addAttribute (e : Event) (key value : String) : Event :=
  { e with attributes := e.attributes ++ [⟨key, value⟩] }

/-- `Event::add_attributes`. -/
def Event.addAttributes (e : Event) (attrs : List Attribute) : Event :=
  { e with attributes := e.attributes ++ attrs }

@[simp] theorem Event.addAttribute_ty (e : Event) (k v : String) : (e.addAttribute k v).ty = e.ty := rfl
@[simp] theorem Event.addAttributes_ty (e : Event) (a : List Attribute) : (e.addAttributes a).ty = e.ty := rfl
@[simp] theorem Event.new_ty (ty : String) : (Event.new ty).ty = ty := rfl

/-- What a contract entry point returns: its response, or the error string it raised. -/
inductive ContractResult (α : Type) where
  | ok (a : α)
  | err (msg : String)
  deriving DecidableEq, Repr

/-- A contract's `Response`: its submessages (only counted here), attributes and events. -/
structure Response where
  messages : List Bytes
  attributes : List Attribute
  events : List Event
  deriving DecidableEq, Repr

/-- A `cosmwasm_vm::VmError`: a trap, running out of gas, a host failure or a module that does not load. -/
structure VmError where
  msg : String
  deriving DecidableEq, Repr

structure BlockInfo where
  height : Nat
  time : Nat
  chainId : String
  deriving DecidableEq, Repr

structure TransactionInfo where
  index : Nat
  deriving DecidableEq, Repr

structure ContractInfo where
  address : String
  deriving DecidableEq, Repr

structure Env where
  block : BlockInfo
  transaction : Option TransactionInfo
  contract : ContractInfo
  deriving DecidableEq, Repr

structure MessageInfo where
  sender : String
  funds : List Coin
  deriving DecidableEq, Repr

end CwSdk

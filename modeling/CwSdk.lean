import CwSdk.Cosmwasm
import CwSdk.SdkMsg
import CwSdk.SdkState
import CwSdk.SdkHandlers
import CwSdk.SdkTx
import CwSdk.SdkRun
import CwSdk.SdkRegistry
import CwSdk.SdkHistory
import CwSdk.MachineStore
import CwSdk.MachineExecute
import CwSdk.MachineRegistry
import CwSdk.MachineAtomic
import CwSdk.MachineLifecycle

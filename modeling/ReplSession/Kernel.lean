import Mathlib.Order.Basic

namespace ReplSession

-- `runtimelib::ExecutionState`.
inductive ExecutionState
  | idle
  | busy
deriving DecidableEq, Repr

-- A message header. Only its `msg_id` is read.
structure Header where
  msgId : String
deriving DecidableEq, Repr

-- `JupyterMessageContent`: the kinds the session sends or reads. Every other kind (streams,
-- results, errors, ...) is `other`; the session only forwards those.
inductive JupyterMessageContent
  | status (executionState : ExecutionState)
  | kernelInfoReply (languageName : String)
  | executeRequest (code : String)
  | updateDisplayData (displayId : Option String) (data : String)
  | interruptRequest
  | shutdownRequest (restart : Bool)
  | other (kind : String)
deriving DecidableEq, Repr

structure JupyterMessage where
  header : Header
  parentHeader : Option Header
  content : JupyterMessageContent
deriving DecidableEq, Repr

-- A running kernel: its transport, named by the launch task that produced it, the last
-- execution state it reported and its kernel info once received.
structure RunningKernel where
  transport : Nat
  executionState : ExecutionState
  kernelInfo : Option String
deriving DecidableEq, Repr

-- `Kernel`: one lifecycle variant at a time. `StartingKernel` holds its shared launch task.
inductive Kernel
  | runningKernel (kernel : RunningKernel)
  | startingKernel (task : Nat)
  | erroredLaunch (message : String)
  | shuttingDown
  | shutdown
  | restarting
deriving DecidableEq, Repr

-- The lifecycle variant of a kernel, without its payload.
inductive Lifecycle
  | runningKernel
  | startingKernel
  | erroredLaunch
  | shuttingDown
  | shutdown
  | restarting
deriving DecidableEq, Repr

namespace Kernel

def lifecycle : Kernel → Lifecycle
  | runningKernel _ => .runningKernel
  | startingKernel _ => .startingKernel
  | erroredLaunch _ => .erroredLaunch
  | shuttingDown => .shuttingDown
  | shutdown => .shutdown
  | restarting => .restarting

/-- Modelled from the spec: `Kernel::set_execution_state` updates the execution-state field of
a running kernel in place and changes no lifecycle variant. -/
def setExecutionState (kernel : Kernel) (executionState : ExecutionState) : Kernel :=
  match kernel with
  | runningKernel k => runningKernel { k with executionState := executionState }
  | other => other

/-- Modelled from the spec: `Kernel::set_kernel_info` records the kernel's metadata on a
running kernel. -/
def setKernelInfo (kernel : Kernel) (languageName : String) : Kernel :=
  match kernel with
  | runningKernel k => runningKernel { k with kernelInfo := some languageName }
  | other => other

@[simp] theorem lifecycle_setExecutionState (kernel : Kernel) (state : ExecutionState) :
    (kernel.setExecutionState state).lifecycle = kernel.lifecycle := by
  cases kernel <;> rfl

@[simp] theorem lifecycle_setKernelInfo (kernel : Kernel) (languageName : String) :
    (kernel.setKernelInfo languageName).lifecycle = kernel.lifecycle := by
  cases kernel <;> rfl

end Kernel

-- `KernelStatus`, the status reported to telemetry.
inductive KernelStatus
  | idle
  | busy
  | starting
  | error
  | shuttingDown
  | shutdown
  | restarting
deriving DecidableEq, Repr

/-- Modelled from the spec: `KernelStatus::from(&Kernel)`, the status of a lifecycle variant;
a running kernel reports its execution state. -/
def KernelStatus.ofKernel : Kernel → KernelStatus
  | .runningKernel k => match k.executionState with
    | .idle => .idle
    | .busy => .busy
  | .startingKernel _ => .starting
  | .erroredLaunch _ => .error
  | .shuttingDown => .shuttingDown
  | .shutdown => .shutdown
  | .restarting => .restarting

-- `ExecutionStatus`, the status an execution view shows.
inductive ExecutionStatus
  | queued
  | connectingToKernel
  | executing
  | finished
  | kernelErrored (message : String)
  | restarting
  | shuttingDown
  | shutdown
deriving DecidableEq, Repr

-- The status `execute` gives a new block: a projection of the kernel's variant.
def ExecutionStatus.ofKernel : Kernel → ExecutionStatus
  | .restarting => .restarting
  | .runningKernel _ => .queued
  | .startingKernel _ => .connectingToKernel
  | .erroredLaunch error => .kernelErrored error
  | .shuttingDown => .shuttingDown
  | .shutdown => .shutdown

end ReplSession

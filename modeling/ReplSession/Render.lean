import ReplSession.Channels

namespace ReplSession

-- `ui::Color`: the status colours `render` picks.
inductive Color
  | success
  | modified
  | error
  | disabled
deriving DecidableEq, Repr

-- What `Session::render` shows of the session in its kernel list item: the status label after
-- the kernel's name, its colour, and whether the Interrupt button is offered.
structure KernelListStatus where
  statusLabel : Option String
  statusColor : Color
  interruptButton : Bool
deriving DecidableEq, Repr

namespace Session

-- `Session::render`. A running kernel shows the language its kernel info reported, once it has.
def render (s : Session) : KernelListStatus :=
  let (statusText, interruptButton) : Option String × Bool := match s.kernel with
    | .runningKernel kernel => (kernel.kernelInfo, true)
    | .startingKernel _ => (some "Starting", false)
    | .erroredLaunch err => (some ("Error: " ++ err), false)
    | .shuttingDown => (some "Shutting Down", false)
    | .shutdown => (some "Shutdown", false)
    | .restarting => (some "Restarting", false)
  let statusColor : Color := match s.kernel with
    | .runningKernel kernel => match kernel.executionState with
      | .idle => .success
      | .busy => .modified
    | .startingKernel _ => .modified
    | .erroredLaunch _ => .error
    | .shuttingDown => .modified
    | .shutdown => .disabled
    | .restarting => .modified
  ⟨statusText.map fun statusText => "(" ++ statusText ++ ")", statusColor, interruptButton⟩

end Session

-- The Interrupt button is offered exactly when interrupting reaches a kernel. In every reachable
-- state, when `render` offers it, `interrupt` hands an `InterruptRequest` to the running kernel's
-- channel, which has not been asked to shut down; when it does not, `interrupt` changes nothing.
theorem interrupt_button_matches_interrupt {s : Session} (hs : Reachable s) (msgId : String) :
    (s.render.interruptButton = true → ∃ k, s.kernel = .runningKernel k ∧
      (s.interrupt msgId).requests =
        s.requests ++ [(k.transport, ⟨⟨msgId⟩, none, .interruptRequest⟩)] ∧
      ∀ m ∈ sentTo s.requests k.transport, m.content.isShutdownRequest = false) ∧
    (s.render.interruptButton = false → s.interrupt msgId = s) := by
  cases hk : s.kernel with
  | runningKernel k =>
      refine ⟨fun _ => ⟨k, rfl, ?_, (hs.sched_wf.kernel.1 k hk).2.1⟩, fun h => ?_⟩
      · simp only [Session.interrupt, Session.send, Session.sendOn, hk]
      · simp [Session.render, hk] at h
  | _ =>
      refine ⟨fun h => ?_, fun _ => ?_⟩
      · simp [Session.render, hk] at h
      · simp only [Session.interrupt, hk]

-- A running kernel, and the same session once it is shutting down.
theorem interrupt_button_matches_interrupt_after_launch :
    let s := (Session.new ⟨"x".toList, fun _ => true⟩).run [.launchDone 1 (.ok .idle)]
    Reachable s ∧ s.render = ⟨none, .success, true⟩ ∧ (s.step .shutdown).render.interruptButton = false ∧
      ((s.render.interruptButton = true → ∃ k, s.kernel = .runningKernel k ∧
        (s.interrupt "i").requests =
          s.requests ++ [(k.transport, ⟨⟨"i"⟩, none, .interruptRequest⟩)] ∧
        ∀ m ∈ sentTo s.requests k.transport, m.content.isShutdownRequest = false) ∧
      (s.render.interruptButton = false → s.interrupt "i" = s)) :=
  have hs := (Reachable.new ⟨"x".toList, fun _ => true⟩).run [.launchDone 1 (.ok .idle)]
  ⟨hs, by decide, by decide, interrupt_button_matches_interrupt hs "i"⟩

end ReplSession

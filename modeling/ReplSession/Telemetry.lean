import ReplSession.Lifecycle

namespace ReplSession

-- What telemetry last heard of the session: the status of its kernel, or, while `shutdown` or
-- `restart` holds a running kernel aside without `Session::kernel`, that kernel's status.
def ReportsStatus (telemetry : List KernelStatus) (kernel : Kernel) : Prop :=
  telemetry.getLast? = some (KernelStatus.ofKernel kernel) ∨
    (kernel = .shuttingDown ∨ kernel = .restarting) ∧
      (telemetry.getLast? = some .idle ∨ telemetry.getLast? = some .busy)

theorem KernelStatus.ofKernel_runningKernel (k : RunningKernel) :
    KernelStatus.ofKernel (.runningKernel k) = .idle ∨
      KernelStatus.ofKernel (.runningKernel k) = .busy := by
  obtain ⟨_, _ | _, _⟩ := k
  · exact .inl rfl
  · exact .inr rfl

-- Each step that reports to telemetry reports the kernel it leaves last.
theorem controlStep_getLast? (s : Session) (a : Action) (hne : (controlStep s a).2 ≠ []) :
    (controlStep s a).2.getLast? = some (KernelStatus.ofKernel (controlStep s a).1) := by
  cases a with
  | route message =>
      obtain ⟨_, _ | _, content⟩ := message
      · exact absurd rfl hne
      · cases content <;> first | rfl | exact absurd rfl hne
  | shutdown | restart | launchDone _ _ | wake _ _ =>
      revert hne
      dsimp only [controlStep]
      split <;> intro hne <;> first | rfl | exact absurd rfl hne
  | kernelErrored _ => rfl
  | _ => exact absurd rfl hne

-- A step that reports nothing keeps the kernel's status, or sets a running kernel aside.
theorem controlStep_silent (s : Session) (a : Action) (h : (controlStep s a).2 = []) :
    (controlStep s a).1 = s.kernel ∨
      (∃ languageName, (controlStep s a).1 = s.kernel.setKernelInfo languageName) ∨
      (∃ k, s.kernel = .runningKernel k) ∧
        ((controlStep s a).1 = .shuttingDown ∨ (controlStep s a).1 = .restarting) := by
  cases a with
  | route message =>
      obtain ⟨_, _ | _, content⟩ := message
      · exact .inl rfl
      · cases content <;> first
          | exact .inl rfl
          | exact .inr (.inl ⟨_, rfl⟩)
          | exact absurd h (List.cons_ne_nil _ _)
  | shutdown | restart | launchDone _ _ | wake _ _ =>
      revert h
      dsimp only [controlStep]
      split <;> intro h <;> first
        | exact .inl rfl
        | exact .inl (Eq.symm ‹_›)
        | exact .inr (.inr ⟨⟨_, ‹_›⟩, .inl rfl⟩)
        | exact .inr (.inr ⟨⟨_, ‹_›⟩, .inr rfl⟩)
        | exact absurd h (List.cons_ne_nil _ _)
  | kernelErrored _ => exact absurd h (List.cons_ne_nil _ _)
  | _ => exact .inl rfl

variable {telemetry : List KernelStatus} {kernel : Kernel}

theorem ReportsStatus.setKernelInfo (h : ReportsStatus telemetry kernel) (languageName : String) :
    ReportsStatus telemetry (kernel.setKernelInfo languageName) := by
  cases kernel with
  | runningKernel k => exact .inl (h.resolve_right fun ⟨hd, _⟩ => hd.elim nofun nofun)
  | _ => exact h

-- `shutdown` and `restart` set a running kernel aside without reporting.
theorem ReportsStatus.setAside {k : RunningKernel} (h : ReportsStatus telemetry (.runningKernel k))
    (hk : kernel = .shuttingDown ∨ kernel = .restarting) : ReportsStatus telemetry kernel := by
  have hlast := h.resolve_right fun ⟨hd, _⟩ => hd.elim nofun nofun
  refine .inr ⟨hk, ?_⟩
  rw [hlast]
  exact (KernelStatus.ofKernel_runningKernel k).imp (congrArg some) (congrArg some)

theorem ReportsStatus.step {s : Session} (h : ReportsStatus s.telemetry s.kernel) (a : Action) :
    ReportsStatus (s.step a).telemetry (s.step a).kernel := by
  obtain ⟨hk, ht⟩ := s.step_control a
  rw [hk, ht]
  by_cases hne : (controlStep s a).2 = []
  · rw [hne, List.append_nil]
    rcases controlStep_silent s a hne with hc | ⟨languageName, hc⟩ | ⟨⟨k, hrun⟩, hc⟩
    · rw [hc]; exact h
    · rw [hc]; exact h.setKernelInfo languageName
    · rw [hrun] at h; exact h.setAside hc
  · refine .inl ?_
    rw [List.getLast?_append, controlStep_getLast? s a hne]
    rfl

theorem Reachable.reportsStatus {s : Session} (hs : Reachable s) : ReportsStatus s.telemetry s.kernel := by
  induction hs with
  | new buffer => exact .inl rfl
  | step a _ ih => exact ih.step a

-- Telemetry always ends on the current kernel's status, except that the status of a running
-- kernel outlives it while `shutdown` or `restart` holds it aside.
theorem telemetry_ends_on_current_status {s : Session} (hs : Reachable s) :
    s.telemetry.getLast? = some (KernelStatus.ofKernel s.kernel) ∨
      (s.kernel = .shuttingDown ∨ s.kernel = .restarting) ∧
        (s.telemetry.getLast? = some .idle ∨ s.telemetry.getLast? = some .busy) :=
  hs.reportsStatus

-- A running kernel being shut down: telemetry still says idle.
theorem telemetry_ends_on_current_status_while_shutting_down :
    let s : Session := (Session.new ⟨"x".toList, fun _ => true⟩).run
      [.launchDone 1 (.ok .idle), .shutdown]
    Reachable s ∧ s.kernel = .shuttingDown ∧ s.telemetry.getLast? = some .idle ∧
      (s.telemetry.getLast? = some (KernelStatus.ofKernel s.kernel) ∨
        (s.kernel = .shuttingDown ∨ s.kernel = .restarting) ∧
          (s.telemetry.getLast? = some .idle ∨ s.telemetry.getLast? = some .busy)) :=
  have hs := (Reachable.new ⟨"x".toList, fun _ => true⟩).run [.launchDone 1 (.ok .idle), .shutdown]
  ⟨hs, by decide, by decide, telemetry_ends_on_current_status hs⟩

end ReplSession

import ReplSession.Lifecycle

namespace ReplSession

-- The statuses a kernel's report sets on a view: running or finished.
def ExecutionStatus.SetByKernel (status : ExecutionStatus) : Prop :=
  status = .executing ∨ status = .finished

namespace Session

/-! What the steps do to the statuses of the live blocks' execution views. -/

-- Every live block of `t` was live in `s` and its view's status is unchanged, or its view shows
-- a status the step sets, as `set` says.
def KeepsStatuses (s t : Session) (set : ExecutionStatus → Prop) : Prop :=
  ∀ e ∈ t.blocks.entries, (e ∈ s.blocks.entries ∧
    (t.views e.2.executionView).status = (s.views e.2.executionView).status) ∨
    set (t.views e.2.executionView).status

variable {s t u : Session} {set : ExecutionStatus → Prop}

theorem KeepsStatuses.of_sub (hb : ∀ e ∈ t.blocks.entries, e ∈ s.blocks.entries)
    (hv : ∀ w, (t.views w).status = (s.views w).status) : s.KeepsStatuses t set :=
  fun e he => .inl ⟨hb e he, hv _⟩

theorem KeepsStatuses.of_eq (hb : t.blocks = s.blocks) (hv : t.views = s.views) :
    s.KeepsStatuses t set :=
  .of_sub (fun _ he => hb ▸ he) fun _ => by rw [hv]

theorem KeepsStatuses.trans (h : s.KeepsStatuses t set) (h' : t.KeepsStatuses u set) :
    s.KeepsStatuses u set := by
  intro e he
  rcases h' e he with ⟨he', hv'⟩ | hv'
  · rcases h e he' with ⟨he'', hv⟩ | hv
    · exact .inl ⟨he'', hv'.trans hv⟩
    · exact .inr (hv' ▸ hv)
  · exact .inr hv'

-- A step that leaves no block.
theorem KeepsStatuses.of_empty (hb : t.blocks.entries = []) : s.KeepsStatuses t set :=
  fun _ he => absurd (hb ▸ he) (List.not_mem_nil _)

-- An idempotent update reaches every listed view, however often it is listed.
theorem applyViews_of_idem {f : ExecutionView → ExecutionView} (hf : ∀ v, f (f v) = f v)
    (views : List Nat) (vs : Nat → ExecutionView) (w : Nat) :
    applyViews views f vs w = if w ∈ views then f (vs w) else vs w := by
  induction views generalizing vs with
  | nil => rfl
  | cons v views ih =>
      simp only [applyViews, List.foldl_cons] at ih ⊢
      rw [ih]
      by_cases hw : w = v
      · subst hw; simp [hf]
      · by_cases hmem : w ∈ views <;> simp [hw, hmem, Function.update_noteq hw]

variable (s)

theorem forEachBlockView_keeps {f : ExecutionView → ExecutionView}
    (hf : ∀ v, (f v).status = v.status) : s.KeepsStatuses (s.forEachBlockView f) set := by
  rw [forEachBlockView_eq]
  exact .of_sub (fun _ => id) (applyViews_invariant (p := ExecutionView.status) hf _ _)

theorem dropKernel_keeps (kernel : Kernel) : s.KeepsStatuses (s.dropKernel kernel) set := by
  obtain ⟨_, h⟩ := s.dropKernel_eq kernel
  exact .of_eq (by rw [h]) (by rw [h])

theorem setKernel_keeps (kernel : Kernel) : s.KeepsStatuses (s.setKernel kernel) set :=
  dropKernel_keeps _ _

-- `deliver` pushes the message to the parent's block, whose status a status report may set.
theorem deliver_keeps (parent : String) (message : JupyterMessage) :
    s.KeepsStatuses (s.deliver parent message) ExecutionStatus.SetByKernel := by
  unfold deliver; split
  · next block _ =>
      intro e he
      have hv : ((block.handleMessage message s).views block.executionView).status =
          ((s.views block.executionView).pushMessage message.content).status :=
        congrArg ExecutionView.status (Function.update_same _ _ _)
      by_cases hw : e.2.executionView = block.executionView
      · rw [hw, hv]
        rcases (s.views block.executionView).pushMessage_status message.content with h | h
        · exact .inl ⟨he, h⟩
        · exact .inr h
      · exact .inl ⟨he, congrArg ExecutionView.status (Function.update_noteq hw _ _)⟩
  · exact .of_eq rfl rfl

theorem send_keeps (message : JupyterMessage) : s.KeepsStatuses (s.send message) set := by
  obtain ⟨_, h⟩ := s.send_eq message
  exact .of_eq (by rw [h]) (by rw [h])

-- `execute` evicts, and the block it adds shows the status of the kernel at the call.
theorem execute_keeps (code : String) (anchorRange : AnchorRange) (nextCell : Option Anchor)
    (moveDown : Bool) (msgId : String) :
    s.KeepsStatuses (s.execute code anchorRange nextCell moveDown msgId)
      (· = ExecutionStatus.ofKernel s.kernel) := by
  cases hcode : code.isEmpty
  · cases hw : s.workspace
    · rw [execute_of_workspace_false s code hcode hw]
      exact .of_sub (fun _ he => (BlockMap.mem_retain.mp he).1) fun _ => rfl
    · obtain ⟨anchor, buffer, selection, h⟩ :=
        execute_of_workspace s code hcode hw anchorRange nextCell moveDown msgId
      rw [h]
      intro e he
      simp only [dispatch_blocks, dispatch_views, BlockMap.mem_insert] at he ⊢
      rcases he with rfl | ⟨he, -⟩
      · exact .inr (congrArg ExecutionView.status (Function.update_same _ _ _))
      · by_cases hv : e.2.executionView = s.nextView
        · exact .inr (hv ▸ congrArg ExecutionView.status (Function.update_same _ _ _))
        · left
          exact ⟨(BlockMap.mem_retain.mp he).1,
            congrArg ExecutionView.status (Function.update_noteq hv _ _)⟩
  · rw [execute_of_isEmpty s code hcode]; exact .of_eq rfl rfl

theorem route_keeps (message : JupyterMessage) :
    s.KeepsStatuses (s.route message) ExecutionStatus.SetByKernel := by
  unfold route; split
  · exact .of_eq rfl rfl
  · split
    · exact deliver_keeps _ _ _
    · exact deliver_keeps _ _ _
    · exact .of_eq rfl rfl
    · exact forEachBlockView_keeps _ fun _ => rfl
    · exact deliver_keeps _ _ _

theorem interrupt_keeps (msgId : String) : s.KeepsStatuses (s.interrupt msgId) set := by
  obtain ⟨_, h⟩ := s.interrupt_eq msgId
  exact .of_eq (by rw [h]) (by rw [h])

theorem onBufferEvent_keeps (event : BufferEvent) : s.KeepsStatuses (s.onBufferEvent event) set := by
  unfold onBufferEvent; split
  · dsimp only; split
    · exact .of_sub (fun _ he => (BlockMap.mem_retain.mp he).1) fun _ => rfl
    · exact .of_sub (fun _ he => (BlockMap.mem_retain.mp he).1) fun _ => rfl
  · exact .of_eq rfl rfl

theorem close_keeps (blockId : Nat) : s.KeepsStatuses (s.close blockId) set := by
  unfold close; split
  · exact .of_sub (fun _ he => (BlockMap.mem_remove.mp he).1) fun _ => rfl
  · exact .of_eq rfl rfl

theorem shutdown_keeps : s.KeepsStatuses s.shutdown set := by
  unfold shutdown; dsimp only; split
  · exact .of_eq rfl rfl
  · exact (setKernel_keeps { s with kernel := .shuttingDown } _).trans (dropKernel_keeps _ _)

theorem restart_keeps : s.KeepsStatuses s.restart set := by
  unfold restart; dsimp only; split
  · exact .of_eq rfl rfl
  · exact .of_eq rfl rfl
  · exact .of_empty (by rw [dropKernel_blocks, startKernel, setKernel_blocks]; rfl)

-- `kernel_errored` shows the error on the view of every live block that had not finished.
theorem kernelErrored_shows (errorMessage : String) {e : String × EditorBlock}
    (he : e ∈ (s.kernelErrored errorMessage).blocks.entries) :
    ((s.kernelErrored errorMessage).views e.2.executionView).status = .finished ∨
      ((s.kernelErrored errorMessage).views e.2.executionView).status = .kernelErrored errorMessage := by
  have hmem : e.2.executionView ∈ (s.setKernel (.erroredLaunch errorMessage)).blocks.values.map
      (·.executionView) := by
    rw [kernelErrored, forEachBlockView_blocks] at he
    exact List.mem_map.mpr ⟨e.2, List.mem_map.mpr ⟨e, he, rfl⟩, rfl⟩
  rw [kernelErrored, forEachBlockView_eq]
  dsimp only
  -- the update is idempotent, so each listed view is, in effect, updated once
  rw [applyViews_of_idem, if_pos hmem]
  · cases h : ((s.setKernel (.erroredLaunch errorMessage)).views e.2.executionView).status <;> simp [h]
  · intro v; cases h : v.status <;> simp [h]

theorem launchDone_keeps (task : Nat) (result : Except String ExecutionState)
    (hne : ¬(s.tasks.lookup task = some .launch ∧ ∃ errorMessage, result = .error errorMessage)) :
    s.KeepsStatuses (s.launchDone task result) set := by
  unfold launchDone; split
  · cases result with
    | error errorMessage => exact absurd ⟨‹_›, errorMessage, rfl⟩ hne
    | ok state => exact setKernel_keeps { s.finish task with resolved := s.resolved ++ [task] } _
  · exact .of_eq rfl rfl

theorem wake_keeps (task : Nat) (msgId : String) : s.KeepsStatuses (s.wake task msgId) set := by
  unfold wake; split
  · next c _ =>
      cases c with
      | launch => exact .of_eq rfl rfl
      | queuedSend launch message =>
          simp only [resume]; split
          · exact send_keeps (s.finish task) message
          · exact .of_eq rfl rfl
      | shutdownGrace requestTx requested =>
          cases requested
          · exact .of_eq rfl rfl
          · exact .of_empty (by rw [resume, setKernel_blocks]; rfl)
      | restartGrace requestTx requested =>
          cases requested
          · exact .of_eq rfl rfl
          · exact .of_empty (by rw [resume, startKernel, setKernel_blocks]; rfl)
  · exact .of_eq rfl rfl

end Session

theorem Kernel.setExecutionState_eq_erroredLaunch {kernel : Kernel} {state : ExecutionState}
    {errorMessage : String} (h : kernel.setExecutionState state = .erroredLaunch errorMessage) :
    kernel = .erroredLaunch errorMessage := by
  cases kernel <;> first | exact h | cases h

theorem Kernel.setKernelInfo_eq_erroredLaunch {kernel : Kernel} {languageName : String}
    {errorMessage : String} (h : kernel.setKernelInfo languageName = .erroredLaunch errorMessage) :
    kernel = .erroredLaunch errorMessage := by
  cases kernel <;> first | exact h | cases h

-- Routing a message never makes the kernel `ErroredLaunch`.
theorem controlStep_route_erroredLaunch {s : Session} {message : JupyterMessage}
    {errorMessage : String} (h : (controlStep s (.route message)).1 = .erroredLaunch errorMessage) :
    s.kernel = .erroredLaunch errorMessage := by
  obtain ⟨_, parentHeader, content⟩ := message
  cases parentHeader with
  | none => exact h
  | some parent =>
      cases content
      case status => exact Kernel.setExecutionState_eq_erroredLaunch h
      case kernelInfoReply => exact Kernel.setKernelInfo_eq_erroredLaunch h
      all_goals exact h

/-! A failed launch leaves no execution waiting. -/

-- While the kernel is `ErroredLaunch`, the view of every live block has finished, runs by the
-- kernel's own report, or shows the launch error.
def Session.ShowsLaunchError (s : Session) : Prop :=
  ∀ errorMessage, s.kernel = .erroredLaunch errorMessage → ∀ e ∈ s.blocks.entries,
    (s.views e.2.executionView).status = .finished ∨
      (s.views e.2.executionView).status = .executing ∨
      (s.views e.2.executionView).status = .kernelErrored errorMessage

namespace Session.ShowsLaunchError

variable {s t : Session}

-- A step that keeps the statuses of the blocks it keeps, sets only statuses the invariant allows,
-- and is `ErroredLaunch` only if `s` was.
theorem of_keeps (h : s.ShowsLaunchError) {set : ExecutionStatus → Prop}
    (ht : s.KeepsStatuses t set)
    (hset : ∀ errorMessage, s.kernel = .erroredLaunch errorMessage → ∀ status, set status →
      status = .finished ∨ status = .executing ∨ status = .kernelErrored errorMessage)
    (hk : ∀ errorMessage, t.kernel = .erroredLaunch errorMessage →
      s.kernel = .erroredLaunch errorMessage) : t.ShowsLaunchError := by
  intro errorMessage ht' e he
  have hs := hk errorMessage ht'
  rcases ht e he with ⟨he', hv⟩ | hv
  · rw [hv]; exact h errorMessage hs e he'
  · exact hset errorMessage hs _ hv

-- A step that sets no status.
theorem of_frame (h : s.ShowsLaunchError) (ht : s.KeepsStatuses t fun _ => False)
    (hk : ∀ errorMessage, t.kernel = .erroredLaunch errorMessage →
      s.kernel = .erroredLaunch errorMessage) : t.ShowsLaunchError :=
  h.of_keeps ht (fun _ _ _ => False.elim) hk

theorem kernelErrored (s : Session) (errorMessage : String) :
    (s.kernelErrored errorMessage).ShowsLaunchError := by
  intro _ hk e he
  rw [Session.kernelErrored, Session.forEachBlockView_kernel, Session.setKernel_kernel] at hk
  cases hk
  exact (s.kernelErrored_shows errorMessage he).imp_right .inr

theorem step (h : s.ShowsLaunchError) (a : Action) : (s.step a).ShowsLaunchError := by
  -- the kernel after a step is the kernel part of the step
  have hctl : ∀ errorMessage, (s.step a).kernel = .erroredLaunch errorMessage →
      (controlStep s a).1 = .erroredLaunch errorMessage := fun _ hk => (s.step_control a).1 ▸ hk
  cases a with
  | execute code anchorRange nextCell moveDown msgId =>
      -- the new block shows the launch error
      exact h.of_keeps (s.execute_keeps code anchorRange nextCell moveDown msgId)
        (fun _ hs _ hst => .inr (.inr (by rw [hst, hs]; rfl))) hctl
  | route message =>
      -- a status report sets a block running or finished
      exact h.of_keeps (s.route_keeps message) (fun _ _ _ hst => hst.elim (.inr ∘ .inl) .inl)
        fun _ hk => controlStep_route_erroredLaunch (hctl _ hk)
  | interrupt msgId => exact h.of_frame (s.interrupt_keeps msgId) hctl
  | bufferEvent event => exact h.of_frame (s.onBufferEvent_keeps event) hctl
  | clearOutputs => exact h.of_frame (.of_empty rfl) hctl
  | close blockId => exact h.of_frame (s.close_keeps blockId) hctl
  | shutdown =>
      refine h.of_frame s.shutdown_keeps fun _ hk => ?_
      have := hctl _ hk
      simp only [controlStep] at this; split at this <;> cases this
  | restart =>
      refine h.of_frame s.restart_keeps fun _ hk => ?_
      have := hctl _ hk
      simp only [controlStep] at this; split at this <;> cases this
  | kernelErrored errorMessage => exact kernelErrored s errorMessage
  | launchDone task result =>
      by_cases herr : s.tasks.lookup task = some .launch ∧ ∃ errorMessage, result = .error errorMessage
      · obtain ⟨hl, errorMessage, rfl⟩ := herr
        show (s.launchDone task (.error errorMessage)).ShowsLaunchError
        rw [Session.launchDone, hl]; exact kernelErrored _ errorMessage
      · refine h.of_frame (s.launchDone_keeps task result herr) fun _ hk => ?_
        have := hctl _ hk
        simp only [controlStep] at this
        split at this
        · cases this
        · exact absurd ⟨‹_›, _, rfl⟩ herr
        · exact this
  | wake task msgId =>
      refine h.of_frame (s.wake_keeps task msgId) fun _ hk => ?_
      have := hctl _ hk
      simp only [controlStep] at this; split at this <;> first | cases this | exact this
  | edit buffer => exact h.of_frame (.of_eq rfl rfl) hctl
  | dropWorkspace => exact h.of_frame (.of_eq rfl rfl) hctl

end Session.ShowsLaunchError

end ReplSession

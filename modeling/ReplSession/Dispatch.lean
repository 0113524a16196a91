import ReplSession.Eviction

namespace ReplSession

def JupyterMessageContent.isExecuteRequest : JupyterMessageContent → Bool
  | .executeRequest _ => true
  | _ => false

-- An execute request under `msgId`.
def JupyterMessage.executes (msgId : String) (message : JupyterMessage) : Bool :=
  message.header.msgId == msgId && message.content.isExecuteRequest

-- A queued send of an execute request under `msgId`.
def Continuation.queues (msgId : String) : Continuation → Bool
  | .queuedSend _ message => message.executes msgId
  | _ => false

-- Dropping an element the predicate counts lowers the count by at least one.
theorem countP_filter_add_one_le {α : Type} {l : List α} {p q : α → Bool} {x : α} (hx : x ∈ l)
    (hp : p x = true) (hq : q x = false) : (l.filter q).countP p + 1 ≤ l.countP p := by
  rw [List.countP_eq_countP_filter_add l p q]
  have : 0 < (l.filter fun a => !q a).countP p :=
    List.countP_pos_iff.mpr ⟨x, List.mem_filter.mpr ⟨hx, by simp [hq]⟩, hp⟩
  omega

theorem mem_of_lookup_eq_some {α β : Type} [BEq α] [LawfulBEq α] {l : List (α × β)} {a : α}
    {b : β} (h : l.lookup a = some b) : (a, b) ∈ l := by
  obtain ⟨l₁, l₂, rfl, -⟩ := List.lookup_eq_some_iff.mp h
  simp

namespace Session

-- The execute requests under `msgId` handed to a transport, and those queued on a launch.
def pending (s : Session) (msgId : String) : Nat :=
  s.requests.countP (·.2.executes msgId) + s.tasks.countP (·.2.queues msgId)

-- A part of a step that hands nothing to a transport and queues no execute request.
def Quiet (s t : Session) : Prop :=
  t.requests = s.requests ∧
    ∀ msgId, t.tasks.countP (·.2.queues msgId) ≤ s.tasks.countP (·.2.queues msgId)

variable {s t u : Session}

theorem Quiet.refl (s : Session) : Quiet s s := ⟨rfl, fun _ => le_rfl⟩

theorem Quiet.trans (h : Quiet s t) (h' : Quiet t u) : Quiet s u :=
  ⟨h'.1.trans h.1, fun msgId => (h'.2 msgId).trans (h.2 msgId)⟩

theorem Quiet.of_sublist (hr : t.requests = s.requests) (ht : t.tasks.Sublist s.tasks) :
    Quiet s t :=
  ⟨hr, fun _ => ht.countP_le _⟩

theorem Quiet.of_eq (hr : t.requests = s.requests) (ht : t.tasks = s.tasks) : Quiet s t :=
  .of_sublist hr (ht ▸ List.Sublist.refl _)

theorem Quiet.pending_le (h : Quiet s t) (msgId : String) : t.pending msgId ≤ s.pending msgId := by
  unfold pending; rw [h.1]; exact Nat.add_le_add_left (h.2 msgId) _

/-! The parts of a step that send nothing. -/

variable (s)

theorem quiet_finish (task : Nat) : Quiet s (s.finish task) :=
  .of_sublist rfl (List.filter_sublist _)

theorem quiet_spawn (c : Continuation) (hc : ∀ msgId, c.queues msgId = false) :
    Quiet s (s.spawn c).2 :=
  ⟨rfl, fun msgId => by simp [hc]⟩

theorem quiet_dropKernel (kernel : Kernel) : Quiet s (s.dropKernel kernel) := by
  unfold dropKernel; split
  · split
    · exact .refl s
    · exact quiet_finish s _
  · exact .refl s

theorem quiet_setKernel (kernel : Kernel) : Quiet s (s.setKernel kernel) :=
  (Quiet.of_eq rfl rfl).trans (quiet_dropKernel _ _)

theorem quiet_startKernel : Quiet s s.startKernel :=
  ((Quiet.of_eq rfl rfl).trans (quiet_spawn _ .launch fun _ => rfl)).trans (quiet_setKernel _ _)

theorem quiet_forEachBlockView (f : ExecutionView → ExecutionView) :
    Quiet s (s.forEachBlockView f) :=
  .of_eq (forEachBlockView_requests s f) (forEachBlockView_tasks s f)

theorem quiet_kernelErrored (errorMessage : String) : Quiet s (s.kernelErrored errorMessage) :=
  (quiet_setKernel s _).trans (quiet_forEachBlockView _ _)

theorem quiet_launchCompleted (task : Nat) (result : Except String ExecutionState) :
    Quiet s (s.launchCompleted task result) := by
  cases result
  · exact quiet_kernelErrored s _
  · exact quiet_setKernel s _

theorem quiet_onBufferEvent (event : BufferEvent) : Quiet s (s.onBufferEvent event) := by
  unfold onBufferEvent; split
  · dsimp only; split <;> exact .of_eq rfl rfl
  · exact .refl s

theorem quiet_close (blockId : Nat) : Quiet s (s.close blockId) := by
  unfold close; split <;> exact .of_eq rfl rfl

theorem quiet_deliver (parent : String) (message : JupyterMessage) :
    Quiet s (s.deliver parent message) := by
  unfold deliver; split <;> exact .of_eq rfl rfl

theorem quiet_route (message : JupyterMessage) : Quiet s (s.route message) := by
  unfold route; split
  · exact .refl s
  · split
    · exact (Quiet.of_eq rfl rfl).trans (quiet_deliver _ _ _)
    · exact (Quiet.of_eq rfl rfl).trans (quiet_deliver _ _ _)
    · exact .refl s
    · exact quiet_forEachBlockView s _
    · exact quiet_deliver s _ _

theorem quiet_shutdown : Quiet s s.shutdown := by
  dsimp only [shutdown]; split
  · exact (Quiet.of_eq rfl rfl).trans (quiet_spawn _ _ fun _ => rfl)
  · exact (Quiet.trans (by exact .of_eq rfl rfl) (quiet_setKernel _ _)).trans (quiet_dropKernel _ _)

theorem quiet_restart : Quiet s s.restart := by
  dsimp only [restart]; split
  · exact .of_eq rfl rfl
  · exact (Quiet.of_eq rfl rfl).trans (quiet_spawn _ _ fun _ => rfl)
  · exact (Quiet.trans (by exact .of_eq rfl rfl) (quiet_startKernel _)).trans (quiet_dropKernel _ _)

theorem quiet_launchDone (task : Nat) (result : Except String ExecutionState) :
    Quiet s (s.launchDone task result) := by
  unfold launchDone; split
  · exact ((quiet_finish s task).trans (.of_eq rfl rfl)).trans (quiet_launchCompleted _ _ _)
  · exact .refl s

/-! What is sent. -/

theorem send_requests (message : JupyterMessage) :
    (s.send message).requests = s.requests ++ match s.kernel with
      | .runningKernel kernel => [(kernel.transport, message)]
      | _ => [] := by
  unfold send; split <;> simp_all

theorem send_tasks (message : JupyterMessage) : (s.send message).tasks = s.tasks := by
  obtain ⟨_, h⟩ := s.send_eq message; rw [h]

theorem send_pending (message : JupyterMessage) (msgId : String) :
    (s.send message).pending msgId ≤ s.pending msgId + if message.executes msgId then 1 else 0 := by
  have hsent : (match s.kernel with
      | .runningKernel kernel => [(kernel.transport, message)]
      | _ => [] : List (Nat × JupyterMessage)).countP (·.2.executes msgId) ≤
        if message.executes msgId then 1 else 0 := by
    split <;> split <;> simp_all
  unfold pending
  rw [send_requests, send_tasks, List.countP_append]
  omega

theorem dispatch_pending (message : JupyterMessage) (msgId : String) :
    (s.dispatch message).pending msgId ≤ s.pending msgId + if message.executes msgId then 1 else 0 := by
  unfold dispatch; split
  · exact send_pending s message msgId
  · unfold pending
    simp only [spawn, List.countP_append, List.countP_cons, List.countP_nil, Continuation.queues]
    omega
  · exact Nat.le_add_right _ _

theorem sendOn_pending {message : JupyterMessage} (hmessage : message.content.isExecuteRequest = false)
    (requestTx : Nat) (msgId : String) : (s.sendOn requestTx message).pending msgId = s.pending msgId := by
  simp [pending, JupyterMessage.executes, hmessage]

theorem quiet_setTask (task : Nat) (c : Continuation) (hc : ∀ msgId, c.queues msgId = false) :
    Quiet s (s.setTask task c) := by
  refine ⟨rfl, fun msgId => ?_⟩
  simp only [setTask, List.countP_map]
  refine List.countP_mono_left fun t _ ht => ?_
  simp only [Function.comp_apply] at ht
  split at ht
  · simp [hc] at ht
  · exact ht

theorem send_pending_of_isExecuteRequest_eq_false {message : JupyterMessage}
    (hmessage : message.content.isExecuteRequest = false) (msgId : String) :
    (s.send message).pending msgId = s.pending msgId := by
  unfold send; split
  · exact sendOn_pending s hmessage _ msgId
  · rfl

theorem interrupt_pending (msgId key : String) : (s.interrupt msgId).pending key = s.pending key := by
  unfold interrupt; split
  · exact send_pending_of_isExecuteRequest_eq_false s (by exact rfl) key
  all_goals rfl

-- A queued send that fires moves its request from the queue to the transport.
theorem resume_pending (task : Nat) (msgId : String) {c : Continuation}
    (hc : s.tasks.lookup task = some c) (key : String) :
    (s.resume task msgId c).pending key ≤ s.pending key := by
  cases c with
  | launch => exact le_rfl
  | queuedSend launch message =>
      simp only [resume]
      split
      · refine (send_pending _ message key).trans ?_
        split
        · have := @countP_filter_add_one_le _ s.tasks (fun t => t.2.queues key)
            (fun t => decide (t.1 ≠ task)) _ (mem_of_lookup_eq_some hc) ‹_› (by simp)
          simp only [pending, finish]
          omega
        · exact (quiet_finish s task).pending_le key
      · exact le_rfl
  | shutdownGrace requestTx requested =>
      cases requested
      · rw [resume, sendOn_pending]
        · exact (quiet_setTask s task (.shutdownGrace requestTx true) fun _ => rfl).pending_le key
        · rfl
      · rw [resume]
        exact ((quiet_finish s task).trans (Quiet.trans (by exact .of_eq rfl rfl)
          (quiet_setKernel _ .shutdown))).pending_le key
  | restartGrace requestTx requested =>
      cases requested
      · rw [resume, sendOn_pending]
        · exact (quiet_setTask s task (.restartGrace requestTx true) fun _ => rfl).pending_le key
        · rfl
      · rw [resume]
        exact ((quiet_finish s task).trans (Quiet.trans (by exact .of_eq rfl rfl)
          (quiet_startKernel _))).pending_le key

theorem wake_pending (task : Nat) (msgId key : String) :
    (s.wake task msgId).pending key ≤ s.pending key := by
  unfold wake; split
  · exact resume_pending s task msgId ‹_› key
  · exact le_rfl

@[simp] theorem pending_selection (selection : Option AnchorRange) (key : String) :
    ({ s with selection := selection }).pending key = s.pending key := rfl

-- A non-empty `execute` sends or queues at most its own request.
theorem execute_pending (code : String) (anchorRange : AnchorRange) (nextCell : Option Anchor)
    (moveDown : Bool) (msgId key : String) :
    (s.execute code anchorRange nextCell moveDown msgId).pending key ≤
      s.pending key + if code.isEmpty = false ∧ msgId = key then 1 else 0 := by
  cases hcode : code.isEmpty
  · cases hw : s.workspace
    · rw [execute_of_workspace_false s code hcode hw]; exact Nat.le_add_right _ _
    · obtain ⟨anchor, buffer, selection, h⟩ :=
        execute_of_workspace s code hcode hw anchorRange nextCell moveDown msgId
      rw [h, pending_selection]
      refine (dispatch_pending _ _ key).trans (Nat.add_le_add (le_of_eq rfl) ?_)
      by_cases hk : msgId = key <;>
        simp [hk, JupyterMessage.executes, JupyterMessageContent.isExecuteRequest]
  · rw [execute_of_isEmpty s code hcode]; exact Nat.le_add_right _ _

-- Sent and queued execute requests grow by at most the request ids a step issues.
theorem step_pending (a : Action) (key : String) :
    (s.step a).pending key + s.issued.count key ≤ s.pending key + (s.step a).issued.count key := by
  rw [step_issued, List.count_append]
  cases a
  case execute code anchorRange nextCell moveDown msgId =>
    have h := s.execute_pending code anchorRange nextCell moveDown msgId key
    have hcount : (if code.isEmpty then [] else [msgId]).count key =
        if code.isEmpty = false ∧ msgId = key then 1 else 0 := by
      cases code.isEmpty <;> by_cases hk : msgId = key <;> simp [hk, List.count_singleton]
    simp only [step]
    rw [hcount]
    omega
  all_goals simp only [List.count_nil, Nat.add_zero]; refine Nat.add_le_add_right ?_ _
  case route message => exact (quiet_route s message).pending_le key
  case interrupt msgId => exact le_of_eq (interrupt_pending s msgId key)
  case bufferEvent event => exact (quiet_onBufferEvent s event).pending_le key
  case clearOutputs => exact le_rfl
  case close blockId => exact (quiet_close s blockId).pending_le key
  case shutdown => exact (quiet_shutdown s).pending_le key
  case restart => exact (quiet_restart s).pending_le key
  case kernelErrored errorMessage => exact (quiet_kernelErrored s errorMessage).pending_le key
  case launchDone task result => exact (quiet_launchDone s task result).pending_le key
  case wake task msgId => exact wake_pending s task msgId key
  case edit buffer => exact le_rfl
  case dropWorkspace => exact le_rfl

/-! Where execute requests go. -/

-- The messages a step appends to the requests, an execute request only to the channel of the
-- kernel running at the step.
def SendsToRunning (s t : Session) : Prop :=
  ∃ sent, t.requests = s.requests ++ sent ∧ ∀ r ∈ sent, r.2.content.isExecuteRequest = true →
    ∃ kernel, s.kernel = .runningKernel kernel ∧ r.1 = kernel.transport

theorem SendsToRunning.of_requests_eq {t : Session} (h : t.requests = s.requests) :
    SendsToRunning s t :=
  ⟨[], by rw [h, List.append_nil], by simp⟩

theorem sendOn_sendsToRunning {message : JupyterMessage}
    (hmessage : message.content.isExecuteRequest = false) (requestTx : Nat) :
    SendsToRunning s (s.sendOn requestTx message) :=
  ⟨[(requestTx, message)], rfl, by simp [hmessage]⟩

theorem send_sendsToRunning (message : JupyterMessage) : SendsToRunning s (s.send message) := by
  unfold send; split
  · exact ⟨_, rfl, by simp_all⟩
  · exact .of_requests_eq s rfl

theorem dispatch_sendsToRunning (message : JupyterMessage) :
    SendsToRunning s (s.dispatch message) := by
  unfold dispatch; split
  · exact send_sendsToRunning s message
  all_goals exact .of_requests_eq s rfl

theorem execute_sendsToRunning (code : String) (anchorRange : AnchorRange)
    (nextCell : Option Anchor) (moveDown : Bool) (msgId : String) :
    SendsToRunning s (s.execute code anchorRange nextCell moveDown msgId) := by
  cases hcode : code.isEmpty
  · cases hw : s.workspace
    · rw [execute_of_workspace_false s code hcode hw]; exact .of_requests_eq s rfl
    · obtain ⟨anchor, buffer, selection, h⟩ :=
        execute_of_workspace s code hcode hw anchorRange nextCell moveDown msgId
      rw [h]
      exact dispatch_sendsToRunning _ _
  · rw [execute_of_isEmpty s code hcode]; exact .of_requests_eq s rfl

theorem wake_sendsToRunning (task : Nat) (msgId : String) :
    SendsToRunning s (s.wake task msgId) := by
  unfold wake; split
  · rename_i c _
    cases c with
    | queuedSend launch message =>
        simp only [resume]; split
        · exact send_sendsToRunning _ message
        · exact .of_requests_eq s rfl
    | shutdownGrace requestTx requested =>
        cases requested
        · exact sendOn_sendsToRunning _ (by exact rfl) _
        · exact .of_requests_eq s (quiet_setKernel _ _).1
    | restartGrace requestTx requested =>
        cases requested
        · exact sendOn_sendsToRunning _ (by exact rfl) _
        · exact .of_requests_eq s (quiet_startKernel _).1
    | launch => exact .of_requests_eq s rfl
  · exact .of_requests_eq s rfl

-- Every step hands an execute request only to the channel of the kernel running at that step.
theorem step_sendsToRunning (a : Action) : SendsToRunning s (s.step a) := by
  cases a with
  | execute code anchorRange nextCell moveDown msgId =>
      exact execute_sendsToRunning s code anchorRange nextCell moveDown msgId
  | interrupt msgId =>
      show SendsToRunning s (s.interrupt msgId)
      unfold Session.interrupt; split
      · exact send_sendsToRunning s _
      all_goals exact .of_requests_eq s rfl
  | wake task msgId => exact wake_sendsToRunning s task msgId
  | route message => exact .of_requests_eq s (quiet_route s message).1
  | bufferEvent event => exact .of_requests_eq s (quiet_onBufferEvent s event).1
  | close blockId => exact .of_requests_eq s (quiet_close s blockId).1
  | shutdown => exact .of_requests_eq s (quiet_shutdown s).1
  | restart => exact .of_requests_eq s (quiet_restart s).1
  | kernelErrored errorMessage => exact .of_requests_eq s (quiet_kernelErrored s errorMessage).1
  | launchDone task result => exact .of_requests_eq s (quiet_launchDone s task result).1
  | clearOutputs => exact .of_requests_eq s rfl
  | edit buffer => exact .of_requests_eq s rfl
  | dropWorkspace => exact .of_requests_eq s rfl

-- With a workspace, `execute` stores a block under the request's id, showing the status the
-- kernel's variant gives; it sends the request to a running kernel, queues it on a starting
-- kernel's launch, and otherwise neither sends nor queues it.
theorem execute_dispatch {code : String} (hcode : code.isEmpty = false) (hw : s.workspace = true)
    (anchorRange : AnchorRange) (nextCell : Option Anchor) (moveDown : Bool) (msgId : String) :
    let s' := s.execute code anchorRange nextCell moveDown msgId
    let message : JupyterMessage := ⟨⟨msgId⟩, none, .executeRequest code⟩
    (∃ block, s'.blocks.get? msgId = some block ∧
      (s'.views block.executionView).status = ExecutionStatus.ofKernel s.kernel) ∧
    match s.kernel with
    | .runningKernel kernel =>
      s'.requests = s.requests ++ [(kernel.transport, message)] ∧ s'.tasks = s.tasks
    | .startingKernel task =>
      s'.requests = s.requests ∧ s'.tasks = s.tasks ++ [(s.nextTask, .queuedSend task message)]
    | _ => s'.requests = s.requests ∧ s'.tasks = s.tasks := by
  obtain ⟨anchor, buffer, selection, h⟩ :=
    execute_of_workspace s code hcode hw anchorRange nextCell moveDown msgId
  rw [h]
  refine ⟨⟨⟨anchorRange, anchor, s.nextBlockId, s.nextView⟩, ?_, ?_⟩, ?_⟩
  · simp only [dispatch_blocks]
    exact BlockMap.get?_eq_some.mpr (BlockMap.mem_insert.mpr (.inl rfl))
  · simp only [dispatch_views, evictOverlapping, removeBlocks, Function.update_same]
    rfl
  · cases hk : s.kernel <;>
      simp only [dispatch, send, sendOn, spawn, evictOverlapping, removeBlocks, hk, and_self]

-- A queued send fired while the kernel is the one its launch installed hands that kernel its
-- request, and is gone.
theorem wake_queuedSend {q launch : Nat} {message : JupyterMessage}
    (hq : s.tasks.lookup q = some (.queuedSend launch message)) (hres : launch ∈ s.resolved)
    {kernel : RunningKernel} (hk : s.kernel = .runningKernel kernel)
    (htransport : kernel.transport = launch) (msgId : String) :
    (s.wake q msgId).requests = s.requests ++ [(launch, message)] ∧
      (s.wake q msgId).tasks.lookup q = none := by
  simp only [wake, hq, resume, if_pos hres, send, finish, hk, htransport]
  exact ⟨rfl, List.lookup_eq_none_iff.mpr fun t ht =>
    bne_iff_ne.mpr (Ne.symm (by simpa using (List.mem_filter.mp ht).2))⟩

end Session

theorem Reachable.pending_le_count {s : Session} (hs : Reachable s) (key : String) :
    s.pending key ≤ s.issued.count key := by
  induction hs with
  | new buffer => exact ((Session.quiet_startKernel _).pending_le key).trans (Nat.zero_le _)
  | @step s a _ ih => have := s.step_pending a key; omega

-- With fresh request ids, at most one execute request per id is ever sent or queued.
theorem FreshReachable.pending_le_one {s : Session} (hs : FreshReachable s) (key : String) :
    s.pending key ≤ 1 :=
  (hs.reachable.pending_le_count key).trans
    (List.nodup_iff_count_le_one.mp hs.ledger_wf.issued_nodup key)

-- An execution that builds a block is sent or queued at most once, under its block's key and with
-- its code: at once to a running kernel, on the launch of a starting one, and to no other
-- kernel; a queued send reaches the kernel its launch installed; and every step hands execute
-- requests only to the channel of the kernel running at that step.
theorem execute_requests_sent_once_to_current_kernel :
    (∀ (s : Session), FreshReachable s → ∀ msgId, s.pending msgId ≤ 1) ∧
    (∀ (s : Session) (a : Action), Session.SendsToRunning s (s.step a)) ∧
    (∀ (s : Session) (code : String) (anchorRange : AnchorRange) (nextCell : Option Anchor)
      (moveDown : Bool) (msgId : String), FreshReachable s → msgId ∉ s.issued →
      code.isEmpty = false → s.workspace = true →
      let s' := s.step (.execute code anchorRange nextCell moveDown msgId)
      let message : JupyterMessage := ⟨⟨msgId⟩, none, .executeRequest code⟩
      (∃ block, s'.blocks.get? msgId = some block ∧ block.codeRange = anchorRange) ∧
      match s.kernel with
      | .runningKernel kernel =>
        s'.requests = s.requests ++ [(kernel.transport, message)] ∧ s'.tasks = s.tasks
      | .startingKernel task =>
        s'.requests = s.requests ∧ s'.tasks = s.tasks ++ [(s.nextTask, .queuedSend task message)]
      | _ => s'.requests = s.requests ∧ s'.tasks = s.tasks) ∧
    (∀ (s : Session) (q launch : Nat) (message : JupyterMessage) (kernel : RunningKernel)
      (msgId : String), s.tasks.lookup q = some (.queuedSend launch message) →
      launch ∈ s.resolved → s.kernel = .runningKernel kernel → kernel.transport = launch →
      (s.wake q msgId).requests = s.requests ++ [(launch, message)] ∧
        (s.wake q msgId).tasks.lookup q = none) := by
  refine ⟨fun _ hs => hs.pending_le_one, fun s a => s.step_sendsToRunning a,
    fun s code anchorRange nextCell moveDown msgId hs hfresh hcode hw => ⟨?_,
      (s.execute_dispatch hcode hw anchorRange nextCell moveDown msgId).2⟩,
    fun s _ _ _ _ msgId hq hres hk htransport => s.wake_queuedSend hq hres hk htransport msgId⟩
  have hkeys : ∀ e ∈ s.blocks.entries, e.1 ≠ msgId := fun e he hk =>
    hfresh (hk ▸ hs.ledger_wf.keys_issued e he)
  obtain ⟨block, hrange, h⟩ :=
    s.execute_blocks_of_workspace hcode hw anchorRange nextCell moveDown hkeys
  exact ⟨block, BlockMap.get?_eq_some.mpr (h ▸ List.mem_cons_self _ _), hrange⟩

-- A fresh session runs code while its kernel starts: the request is queued on the launch, and
-- sent once the launch has installed its kernel.
theorem execute_requests_sent_once_to_current_kernel_while_starting :
    let s := Session.new ⟨"x".toList, fun _ => true⟩
    let t := s.run [.execute "x" ⟨⟨0⟩, ⟨1⟩⟩ none false "a", .launchDone 1 (.ok .idle)]
    let message : JupyterMessage := ⟨⟨"a"⟩, none, .executeRequest "x"⟩
    (FreshReachable s ∧ s.pending "a" ≤ 1) ∧
    ("a" ∉ s.issued ∧ s.workspace = true ∧
      let s' := s.step (.execute "x" ⟨⟨0⟩, ⟨1⟩⟩ none false "a")
      (∃ block, s'.blocks.get? "a" = some block ∧ block.codeRange = ⟨⟨0⟩, ⟨1⟩⟩) ∧
        s'.requests = s.requests ∧ s'.tasks = s.tasks ++ [(s.nextTask, .queuedSend 1 message)]) ∧
    (t.tasks.lookup 2 = some (.queuedSend 1 message) ∧ 1 ∈ t.resolved ∧
      t.kernel = .runningKernel ⟨1, .idle, none⟩ ∧
      (t.wake 2 "w").requests = t.requests ++ [(1, message)] ∧ (t.wake 2 "w").tasks.lookup 2 = none) :=
  have hs : FreshReachable (Session.new ⟨"x".toList, fun _ => true⟩) := .new _
  have hfresh : "a" ∉ (Session.new ⟨"x".toList, fun _ => true⟩).issued := by decide
  have hw : (Session.new ⟨"x".toList, fun _ => true⟩).workspace = true := by decide
  have hq : ((Session.new ⟨"x".toList, fun _ => true⟩).run
      [.execute "x" ⟨⟨0⟩, ⟨1⟩⟩ none false "a", .launchDone 1 (.ok .idle)]).tasks.lookup 2 =
      some (.queuedSend 1 ⟨⟨"a"⟩, none, .executeRequest "x"⟩) := by decide
  have hres : 1 ∈ ((Session.new ⟨"x".toList, fun _ => true⟩).run
      [.execute "x" ⟨⟨0⟩, ⟨1⟩⟩ none false "a", .launchDone 1 (.ok .idle)]).resolved := by decide
  have hk : ((Session.new ⟨"x".toList, fun _ => true⟩).run
      [.execute "x" ⟨⟨0⟩, ⟨1⟩⟩ none false "a", .launchDone 1 (.ok .idle)]).kernel =
      .runningKernel ⟨1, .idle, none⟩ := by decide
  ⟨⟨hs, execute_requests_sent_once_to_current_kernel.1 _ hs "a"⟩,
    ⟨hfresh, hw, execute_requests_sent_once_to_current_kernel.2.2.1 _ "x" _ none false "a" hs hfresh
      rfl hw⟩,
    ⟨hq, hres, hk, execute_requests_sent_once_to_current_kernel.2.2.2 _ 2 1 _ _ "w" hq hres hk rfl⟩⟩

end ReplSession

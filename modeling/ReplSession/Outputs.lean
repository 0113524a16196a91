import ReplSession.Routing
import ReplSession.Statuses

namespace ReplSession

-- What `route` hands the output of the block under `key` for a message whose parent is `parent`:
-- a display update that names a display, or else a message to `key` itself.
def routedInputs (key parent : String) : JupyterMessageContent → List ViewInput
  | .updateDisplayData (some displayId) data => [.displayData data displayId]
  | .updateDisplayData none _ => []
  | content => if key = parent then [.message content] else []

-- What a step hands the output of the block under `key`: only `route` hands anything, and only
-- a reply, one with a parent header.
def Action.routedTo (key : String) : Action → List ViewInput
  | .route ⟨_, some header, content⟩ => routedInputs key header.msgId content
  | _ => []

theorem routedView_received (key parent : String) (content : JupyterMessageContent)
    (view : ExecutionView) :
    (routedView key parent content view).received = view.received ++ routedInputs key parent content := by
  cases content
  case updateDisplayData displayId data =>
    cases displayId <;> simp [routedView, routedInputs, ExecutionView.updateDisplayData]
  all_goals by_cases h : key = parent <;> simp [routedView, routedInputs, h, ExecutionView.pushMessage]

namespace Session

/-! What the steps do to the inputs the execution views have received. -/

-- `t` keeps what every view of `s` has received, and opens new views only after them.
def KeepsReceived (s t : Session) : Prop :=
  s.nextView ≤ t.nextView ∧ ∀ w < s.nextView, (t.views w).received = (s.views w).received

variable {s t u : Session}

theorem KeepsReceived.of_eq (hv : t.views = s.views) (hn : t.nextView = s.nextView) :
    s.KeepsReceived t :=
  ⟨hn.ge, fun _ _ => by rw [hv]⟩

theorem KeepsReceived.trans (h : s.KeepsReceived t) (h' : t.KeepsReceived u) : s.KeepsReceived u :=
  ⟨h.1.trans h'.1, fun w hw => (h'.2 w (Nat.lt_of_lt_of_le hw h.1)).trans (h.2 w hw)⟩

variable (s)

theorem forEachBlockView_keepsReceived {f : ExecutionView → ExecutionView}
    (hf : ∀ v, (f v).received = v.received) : s.KeepsReceived (s.forEachBlockView f) := by
  rw [forEachBlockView_eq]
  exact ⟨le_rfl, fun w _ => applyViews_invariant (p := ExecutionView.received) hf _ _ w⟩

theorem dropKernel_keepsReceived (kernel : Kernel) : s.KeepsReceived (s.dropKernel kernel) := by
  obtain ⟨_, h⟩ := s.dropKernel_eq kernel
  rw [h]; exact .of_eq rfl rfl

theorem setKernel_keepsReceived (kernel : Kernel) : s.KeepsReceived (s.setKernel kernel) :=
  (KeepsReceived.of_eq (by rfl) (by rfl)).trans (dropKernel_keepsReceived _ _)

theorem startKernel_keepsReceived : s.KeepsReceived s.startKernel :=
  (KeepsReceived.of_eq (by rfl) (by rfl)).trans (setKernel_keepsReceived _ _)

-- `kernel_errored` changes the statuses only.
theorem kernelErrored_keepsReceived (errorMessage : String) :
    s.KeepsReceived (s.kernelErrored errorMessage) :=
  (setKernel_keepsReceived s _).trans <| forEachBlockView_keepsReceived _ fun view => by
    split <;> rfl

theorem send_keepsReceived (message : JupyterMessage) : s.KeepsReceived (s.send message) := by
  obtain ⟨_, h⟩ := s.send_eq message
  rw [h]; exact .of_eq rfl rfl

theorem dispatch_keepsReceived (message : JupyterMessage) : s.KeepsReceived (s.dispatch message) := by
  obtain ⟨_, _, _, h⟩ := s.dispatch_eq message
  rw [h]; exact .of_eq rfl rfl

-- `execute` opens the new block's view after every existing one.
theorem execute_keepsReceived (code : String) (anchorRange : AnchorRange) (nextCell : Option Anchor)
    (moveDown : Bool) (msgId : String) :
    s.KeepsReceived (s.execute code anchorRange nextCell moveDown msgId) := by
  cases hcode : code.isEmpty
  · cases hw : s.workspace
    · rw [execute_of_workspace_false s code hcode hw]; exact .of_eq rfl rfl
    · obtain ⟨anchor, buffer, selection, h⟩ :=
        execute_of_workspace s code hcode hw anchorRange nextCell moveDown msgId
      rw [h]
      refine (KeepsReceived.trans ⟨Nat.le_succ _, fun w hw => ?_⟩ (dispatch_keepsReceived _ _)).trans
        (.of_eq rfl rfl)
      exact congrArg ExecutionView.received (Function.update_noteq (Nat.ne_of_lt hw) _ _)
  · rw [execute_of_isEmpty s code hcode]; exact .of_eq rfl rfl

theorem interrupt_keepsReceived (msgId : String) : s.KeepsReceived (s.interrupt msgId) := by
  obtain ⟨_, h⟩ := s.interrupt_eq msgId
  rw [h]; exact .of_eq rfl rfl

theorem onBufferEvent_keepsReceived (event : BufferEvent) :
    s.KeepsReceived (s.onBufferEvent event) := by
  unfold onBufferEvent; split
  · dsimp only; split <;> exact .of_eq rfl rfl
  · exact .of_eq rfl rfl

theorem close_keepsReceived (blockId : Nat) : s.KeepsReceived (s.close blockId) := by
  unfold close; split <;> exact .of_eq rfl rfl

theorem shutdown_keepsReceived : s.KeepsReceived s.shutdown := by
  unfold shutdown; dsimp only; split
  · exact .of_eq rfl rfl
  · exact (setKernel_keepsReceived { s with kernel := .shuttingDown } _).trans
      (dropKernel_keepsReceived _ _)

theorem restart_keepsReceived : s.KeepsReceived s.restart := by
  unfold restart; dsimp only; split
  · exact .of_eq rfl rfl
  · exact .of_eq rfl rfl
  · exact (startKernel_keepsReceived ({ s with kernel := .restarting }).clearOutputs).trans
      (dropKernel_keepsReceived _ _)

theorem launchDone_keepsReceived (task : Nat) (result : Except String ExecutionState) :
    s.KeepsReceived (s.launchDone task result) := by
  unfold launchDone; split
  · cases result
    · exact kernelErrored_keepsReceived { s.finish task with resolved := s.resolved ++ [task] } _
    · exact setKernel_keepsReceived { s.finish task with resolved := s.resolved ++ [task] } _
  · exact .of_eq rfl rfl

theorem wake_keepsReceived (task : Nat) (msgId : String) : s.KeepsReceived (s.wake task msgId) := by
  unfold wake; split
  · next c _ =>
      cases c with
      | launch => exact .of_eq rfl rfl
      | queuedSend launch message =>
          simp only [resume]; split
          · exact send_keepsReceived (s.finish task) message
          · exact .of_eq rfl rfl
      | shutdownGrace requestTx requested =>
          cases requested
          · exact .of_eq rfl rfl
          · exact setKernel_keepsReceived (s.finish task).clearOutputs _
      | restartGrace requestTx requested =>
          cases requested
          · exact .of_eq rfl rfl
          · exact startKernel_keepsReceived (s.finish task).clearOutputs
  · exact .of_eq rfl rfl

-- Every step but `route` keeps what the views have received.
theorem step_keepsReceived (a : Action) (ha : ∀ message, a ≠ .route message) :
    s.KeepsReceived (s.step a) := by
  cases a with
  | execute code anchorRange nextCell moveDown msgId =>
      exact execute_keepsReceived s code anchorRange nextCell moveDown msgId
  | route message => exact absurd rfl (ha message)
  | interrupt msgId => exact interrupt_keepsReceived s msgId
  | bufferEvent event => exact onBufferEvent_keepsReceived s event
  | close blockId => exact close_keepsReceived s blockId
  | shutdown => exact shutdown_keepsReceived s
  | restart => exact restart_keepsReceived s
  | kernelErrored errorMessage => exact kernelErrored_keepsReceived s errorMessage
  | launchDone task result => exact launchDone_keepsReceived s task result
  | wake task msgId => exact wake_keepsReceived s task msgId
  | clearOutputs | edit _ | dropWorkspace => exact .of_eq rfl rfl

end Session

/-! Replies to different requests commute. -/

-- A reply `route` hands to its parent's block alone: not a status, a kernel info reply or a
-- display update, which also change the kernel or every block.
def JupyterMessageContent.isPlainReply : JupyterMessageContent → Bool
  | .status _ | .kernelInfoReply _ | .updateDisplayData _ _ => false
  | _ => true

namespace Session

variable {s : Session}

theorem route_of_isPlainReply {message : JupyterMessage} {header : Header}
    (hp : message.parentHeader = some header) (hc : message.content.isPlainReply = true) :
    s.route message = s.deliver header.msgId message := by
  obtain ⟨_, _, content⟩ := message
  cases hp
  cases content <;> first | rfl | cases hc

theorem deliver_blocks (key : String) (message : JupyterMessage) :
    (s.deliver key message).blocks = s.blocks := by
  unfold deliver; split <;> rfl

theorem updateView_blocks (v : Nat) (f : ExecutionView → ExecutionView) :
    (s.updateView v f).blocks = s.blocks := rfl

theorem updateView_comm {v v' : Nat} (hv : v ≠ v') (f f' : ExecutionView → ExecutionView) :
    (s.updateView v f).updateView v' f' = (s.updateView v' f').updateView v f := by
  simp only [updateView, Function.update_noteq hv, Function.update_noteq hv.symm,
    Function.update_comm hv]

-- Handing messages to the blocks of two different keys, in either order, leaves one session:
-- live blocks under different keys are on different views.
theorem deliver_comm (hwf : s.ledger.Wf) {key key' : String} (hk : key ≠ key')
    (m m' : JupyterMessage) :
    (s.deliver key m).deliver key' m' = (s.deliver key' m').deliver key m := by
  have hnone : ∀ {t : Session} {k : String} (msg : JupyterMessage), t.blocks.get? k = none →
      t.deliver k msg = t := fun _ h => by rw [deliver, h]
  cases hb : s.blocks.get? key with
  | none => rw [hnone m hb, hnone m (by rw [deliver_blocks]; exact hb)]
  | some b =>
      cases hb' : s.blocks.get? key' with
      | none => rw [hnone m' hb', hnone m' (by rw [deliver_blocks]; exact hb')]
      | some b' =>
          have hv : b.executionView ≠ b'.executionView := fun hview => hk <|
            congrArg Prod.fst (hwf.entry_eq_of_view (BlockMap.get?_eq_some.mp hb)
              (BlockMap.get?_eq_some.mp hb') hview)
          simp only [deliver, hb, hb', EditorBlock.handleMessage, updateView_blocks]
          exact updateView_comm hv _ _

end Session

-- The kernel's replies to two different executions may interleave in any order: routing them
-- either way round leaves the same session, blocks, outputs, kernel and all.
theorem replies_to_different_requests_commute {s : Session} (hs : FreshReachable s)
    {m m' : JupyterMessage} {header header' : Header} (hp : m.parentHeader = some header)
    (hp' : m'.parentHeader = some header') (hne : header.msgId ≠ header'.msgId)
    (hc : m.content.isPlainReply = true) (hc' : m'.content.isPlainReply = true) :
    (s.step (.route m)).step (.route m') = (s.step (.route m')).step (.route m) := by
  show (s.route m).route m' = (s.route m').route m
  rw [Session.route_of_isPlainReply hp hc, Session.route_of_isPlainReply hp' hc',
    Session.route_of_isPlainReply hp' hc', Session.route_of_isPlainReply hp hc]
  exact Session.deliver_comm hs.ledger_wf hne m m'

-- Two live blocks, each getting a stream output.
theorem replies_to_different_requests_commute_on_two_blocks :
    let s : Session := (Session.new ⟨"x\ny".toList, fun _ => true⟩).run
      [.execute "x" ⟨⟨0⟩, ⟨1⟩⟩ none false "a", .execute "y" ⟨⟨2⟩, ⟨3⟩⟩ none false "b"]
    let m : JupyterMessage := ⟨⟨"r1"⟩, some ⟨"a"⟩, .other "stream"⟩
    let m' : JupyterMessage := ⟨⟨"r2"⟩, some ⟨"b"⟩, .other "stream"⟩
    FreshReachable s ∧ (s.blocks.get? "a").isSome ∧ (s.blocks.get? "b").isSome ∧
      (s.step (.route m)).step (.route m') = (s.step (.route m')).step (.route m) :=
  have hs : FreshReachable ((Session.new ⟨"x\ny".toList, fun _ => true⟩).run
      [.execute "x" ⟨⟨0⟩, ⟨1⟩⟩ none false "a", .execute "y" ⟨⟨2⟩, ⟨3⟩⟩ none false "b"]) :=
    (FreshReachable.new _).run ⟨by decide, by decide, trivial⟩
  ⟨hs, by decide, by decide,
    replies_to_different_requests_commute hs rfl rfl (by decide) rfl rfl⟩

/-! What a live block's output receives over a run. -/

-- A block live before and after a step is the same block.
theorem FreshReachable.step_get?_of_live {s : Session} (hs : FreshReachable s) (a : Action)
    (ha : FreshAction s a) {key : String} {block block' : EditorBlock}
    (h : s.blocks.get? key = some block) (h' : (s.step a).blocks.get? key = some block') :
    block' = block := by
  have hissued := hs.ledger_wf.keys_issued _ (BlockMap.get?_eq_some.mp h)
  rcases (s.step_ledgerStep a).mem_blocks (FreshReachable.step a hs ha).ledger_wf.issued_nodup
    (BlockMap.get?_eq_some.mp h') with he | hfresh
  · have he : (key, block') ∈ s.blocks.entries := he
    rw [BlockMap.get?_eq_some.mpr he] at h
    exact Option.some.inj h
  · exact absurd hissued hfresh

-- One step hands the output of a block it keeps exactly what `Action.routedTo` says.
theorem FreshReachable.step_received {s : Session} (hs : FreshReachable s) (a : Action)
    (ha : FreshAction s a) {key : String} {view view' : ExecutionView}
    (h : s.output key = some view) (h' : (s.step a).output key = some view') :
    view'.received = view.received ++ a.routedTo key := by
  by_cases hr : ∃ message, a = .route message
  · obtain ⟨⟨msgHeader, parentHeader, content⟩, rfl⟩ := hr
    have hroute := Session.route_output hs.ledger_wf ⟨msgHeader, parentHeader, content⟩ key
    change (s.route _).output key = some view' at h'
    rw [hroute, h] at h'
    cases parentHeader with
    | none => cases h'; exact (List.append_nil _).symm
    | some header =>
        cases h'
        exact routedView_received key header.msgId content view
  · push_neg at hr
    have hnil : a.routedTo key = [] := by
      cases a <;> first | rfl | exact absurd rfl (hr _)
    obtain ⟨block, hb, rfl⟩ := Option.map_eq_some'.mp h
    obtain ⟨block', hb', rfl⟩ := Option.map_eq_some'.mp h'
    obtain rfl := hs.step_get?_of_live a ha hb hb'
    rw [hnil, List.append_nil]
    exact (s.step_keepsReceived a hr).2 _
      (hs.ledger_wf.views_lt _ (BlockMap.get?_eq_some.mp hb))

-- No reply is lost or duplicated: over any run that keeps the block under `key`, its output
-- receives exactly the replies to `key` and the display updates that name a display, each once
-- and in the order the kernel sent them.
theorem output_receives_each_reply_once {s : Session} (hs : FreshReachable s)
    {actions : List Action} (hrun : FreshRun s actions) {key : String} {view view' : ExecutionView}
    (h : s.output key = some view) (h' : (s.run actions).output key = some view') :
    view'.received = view.received ++ actions.flatMap (Action.routedTo key) := by
  induction actions generalizing s view with
  | nil => cases h.symm.trans h'; exact (List.append_nil _).symm
  | cons a actions ih =>
      -- the block is live after the first step, since a dead key never comes back
      obtain ⟨mid, hmid⟩ : ∃ mid, (s.step a).output key = some mid := by
        obtain ⟨block, hb, -⟩ := Option.map_eq_some'.mp h
        cases hget : (s.step a).blocks.get? key with
        | some block' => exact ⟨_, by rw [Session.output, hget]; rfl⟩
        | none =>
            have hissued : key ∈ (s.step a).issued := by
              rw [Session.step_issued]
              exact List.mem_append_left _ (hs.ledger_wf.keys_issued _ (BlockMap.get?_eq_some.mp hb))
            have hdead := (hs.step a hrun.1).run_get?_eq_none hrun.2 hissued hget
            rw [Session.run_cons, Session.output, hdead] at h'
            cases h'
      rw [Session.run_cons] at h'
      rw [ih (hs.step a hrun.1) hrun.2 hmid h', hs.step_received a hrun.1 h hmid, List.flatMap_cons,
        List.append_assoc]

-- The block of request `a` gets the reply to `a` and the display update, not the reply to `b`.
theorem output_receives_each_reply_once_on_mixed_replies :
    let s : Session := (Session.new ⟨"x".toList, fun _ => true⟩).run
      [.execute "x" ⟨⟨0⟩, ⟨1⟩⟩ none false "a"]
    let actions : List Action := [.route ⟨⟨"r1"⟩, some ⟨"a"⟩, .other "stream"⟩,
      .route ⟨⟨"r2"⟩, some ⟨"b"⟩, .other "stream"⟩,
      .route ⟨⟨"r3"⟩, some ⟨"b"⟩, .updateDisplayData (some "d") "p"⟩]
    FreshReachable s ∧ FreshRun s actions ∧ s.output "a" = some ⟨.connectingToKernel, []⟩ ∧
      (s.run actions).output "a" =
        some ⟨.connectingToKernel, [.message (.other "stream"), .displayData "p" "d"]⟩ ∧
      [ViewInput.message (.other "stream"), .displayData "p" "d"] =
        [] ++ actions.flatMap (Action.routedTo "a") :=
  have hs : FreshReachable ((Session.new ⟨"x".toList, fun _ => true⟩).run
      [.execute "x" ⟨⟨0⟩, ⟨1⟩⟩ none false "a"]) := (FreshReachable.new _).run ⟨by decide, trivial⟩
  have h : ((Session.new ⟨"x".toList, fun _ => true⟩).run
      [.execute "x" ⟨⟨0⟩, ⟨1⟩⟩ none false "a"]).output "a" = some ⟨.connectingToKernel, []⟩ := by
    decide
  have h' : (((Session.new ⟨"x".toList, fun _ => true⟩).run
      [.execute "x" ⟨⟨0⟩, ⟨1⟩⟩ none false "a"]).run [.route ⟨⟨"r1"⟩, some ⟨"a"⟩, .other "stream"⟩,
        .route ⟨⟨"r2"⟩, some ⟨"b"⟩, .other "stream"⟩,
        .route ⟨⟨"r3"⟩, some ⟨"b"⟩, .updateDisplayData (some "d") "p"⟩]).output "a" =
      some ⟨.connectingToKernel, [.message (.other "stream"), .displayData "p" "d"]⟩ := by
    decide
  ⟨hs, ⟨trivial, trivial, trivial, trivial⟩, h, h',
    output_receives_each_reply_once hs (by exact ⟨trivial, trivial, trivial, trivial⟩) h h'⟩

end ReplSession

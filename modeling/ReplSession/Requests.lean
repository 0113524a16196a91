import ReplSession.Channels

namespace ReplSession

namespace Sched

-- A message a step of `x` may hand to a transport: an execute or interrupt request on the
-- running kernel's channel, or a grace period's `ShutdownRequest` on the channel it holds.
def Handed (x : Sched) (r : Nat × JupyterMessage) : Prop :=
  (∃ k, x.kernel = .runningKernel k ∧ r.1 = k.transport ∧
    (r.2.content.isExecuteRequest = true ∨ r.2.content = .interruptRequest)) ∨
  ∃ g restart, r.2.content = .shutdownRequest restart ∧
    x.tasks.lookup g = some (if restart then .restartGrace r.1 false else .shutdownGrace r.1 false)

-- `y` extends the requests of `x` by at most one message, one that `x` may hand over.
def HandsOne (x y : Sched) : Prop :=
  ∃ sent, y.requests = x.requests ++ sent ∧ sent.length ≤ 1 ∧ ∀ r ∈ sent, x.Handed r

-- Every queued send holds an execute request.
def QueuesExecutes (x : Sched) : Prop :=
  ∀ e ∈ x.tasks, ∀ t m, e.2 = .queuedSend t m → m.content.isExecuteRequest = true

variable {x y : Sched}

/-! Each operation hands over at most one message. -/

theorem HandsOne.of_eq (h : y.requests = x.requests) : x.HandsOne y :=
  ⟨[], by rw [h, List.append_nil], Nat.zero_le _, fun _ h => absurd h (List.not_mem_nil _)⟩

-- `send` from a state with the kernel and the requests of `x`.
theorem HandsOne.send (hk : y.kernel = x.kernel) (hr : y.requests = x.requests) {m : JupyterMessage}
    (hm : m.content.isExecuteRequest = true ∨ m.content = .interruptRequest) :
    x.HandsOne (y.send m) := by
  unfold Sched.send
  split
  · next k hyk =>
      refine ⟨[(k.transport, m)], by rw [sendOn_requests, hr], le_refl _, fun r hr' => ?_⟩
      rw [List.mem_singleton.mp hr']
      exact .inl ⟨k, hk.symm.trans hyk, rfl, hm⟩
  · exact .of_eq hr

theorem hands_dispatch {m : JupyterMessage} (hm : m.content.isExecuteRequest = true) :
    x.HandsOne (x.dispatch m) := by
  unfold Sched.dispatch
  split
  · exact .send rfl rfl (.inl hm)
  · exact .of_eq rfl
  · exact .of_eq rfl

theorem hands_execute (code msgId : String) : x.HandsOne (x.execute code msgId) := by
  unfold Sched.execute
  split
  · exact .of_eq rfl
  · split
    · exact hands_dispatch rfl
    · exact .of_eq rfl

theorem hands_route (message : JupyterMessage) : x.HandsOne (x.route message) := by
  refine .of_eq ?_
  unfold Sched.route
  split
  · rfl
  · split <;> rfl

theorem hands_interrupt (msgId : String) : x.HandsOne (x.interrupt msgId) := by
  unfold Sched.interrupt
  split
  · exact .send rfl rfl (.inr rfl)
  all_goals exact .of_eq rfl

theorem hands_shutdown : x.HandsOne x.shutdown := by
  refine .of_eq ?_
  dsimp only [Sched.shutdown]
  split
  · rfl
  · simp only [dropKernel_requests, setKernel_requests]

theorem hands_restart : x.HandsOne x.restart := by
  refine .of_eq ?_
  dsimp only [Sched.restart]
  split
  · rfl
  · rfl
  · simp only [dropKernel_requests, startKernel_requests]

theorem hands_launchDone (task : Nat) (result : Except String ExecutionState) :
    x.HandsOne (x.launchDone task result) := by
  refine .of_eq ?_
  unfold Sched.launchDone
  split
  · cases result <;> exact setKernel_requests _ _
  · rfl

-- A grace period hands its `ShutdownRequest` to the channel it holds.
theorem hands_resume (hq : x.QueuesExecutes) {task : Nat} {c : Continuation}
    (hc : x.tasks.lookup task = some c) (msgId : String) : x.HandsOne (x.resume task msgId c) := by
  cases c with
  | launch => exact .of_eq rfl
  | queuedSend t m =>
      show x.HandsOne (if t ∈ x.resolved then (x.finish task).send m else x)
      split
      · exact .send (finish_kernel _ _) (finish_requests _ _)
          (.inl (hq _ (mem_of_lookup_eq_some hc) t m rfl))
      · exact .of_eq rfl
  | shutdownGrace requestTx requested =>
      cases requested
      · refine ⟨_, rfl, le_refl _, fun r hr => ?_⟩
        rw [List.mem_singleton.mp hr]
        exact .inr ⟨task, false, rfl, hc⟩
      · exact .of_eq (setKernel_requests _ _)
  | restartGrace requestTx requested =>
      cases requested
      · refine ⟨_, rfl, le_refl _, fun r hr => ?_⟩
        rw [List.mem_singleton.mp hr]
        exact .inr ⟨task, true, rfl, hc⟩
      · exact .of_eq (startKernel_requests _)

theorem hands_wake (hq : x.QueuesExecutes) (task : Nat) (msgId : String) :
    x.HandsOne (x.wake task msgId) := by
  unfold Sched.wake
  split
  · exact hands_resume hq ‹_› msgId
  · exact .of_eq rfl

theorem hands_step (hq : x.QueuesExecutes) (a : Action) : x.HandsOne (x.step a) := by
  cases a with
  | execute code _ _ _ msgId => exact hands_execute code msgId
  | route message => exact hands_route message
  | interrupt msgId => exact hands_interrupt msgId
  | shutdown => exact hands_shutdown
  | restart => exact hands_restart
  | kernelErrored _ => exact .of_eq (setKernel_requests _ _)
  | launchDone task result => exact hands_launchDone task result
  | wake task msgId => exact hands_wake hq task msgId
  | bufferEvent _ | clearOutputs | close _ | edit _ | dropWorkspace => exact .of_eq rfl

/-! What a step adds to the tasks. -/

-- A task a step of `x` may add: a launch, an execute request queued on a launch, a grace period
-- that has yet to hand over its `ShutdownRequest`, or, when the step wakes such a period, the same
-- period having handed it over.
def Arrival (x : Sched) (a : Action) (e : Nat × Continuation) : Prop :=
  e.2 = .launch ∨ (∃ t m, e.2 = .queuedSend t m ∧ m.content.isExecuteRequest = true) ∨
    e.2.requesting = true ∨
    ∃ msgId t, a = .wake e.1 msgId ∧
      (x.tasks.lookup e.1 = some (.shutdownGrace t false) ∧ e.2 = .shutdownGrace t true ∨
        x.tasks.lookup e.1 = some (.restartGrace t false) ∧ e.2 = .restartGrace t true)

theorem send_tasks (m : JupyterMessage) : (x.send m).tasks = x.tasks := by
  unfold Sched.send
  split <;> rfl

theorem route_tasks (message : JupyterMessage) : (x.route message).tasks = x.tasks := by
  unfold Sched.route
  split
  · rfl
  · split <;> rfl

theorem mem_setKernel {kernel : Kernel} {e : Nat × Continuation}
    (he : e ∈ (x.setKernel kernel).tasks) : e ∈ x.tasks :=
  mem_of_mem_dropKernel (x := { x with kernel := kernel }) he

theorem mem_startKernel {e : Nat × Continuation} (he : e ∈ x.startKernel.tasks) :
    e ∈ x.tasks ∨ e = (x.nextTask, .launch) :=
  mem_spawn.mp (mem_setKernel (x := (x.spawn .launch).2) he)

theorem mem_resume_tasks {task : Nat} {msgId : String} {c : Continuation}
    (hc : x.tasks.lookup task = some c) {e : Nat × Continuation}
    (he : e ∈ (x.resume task msgId c).tasks) : e ∈ x.tasks ∨ x.Arrival (.wake task msgId) e := by
  cases c with
  | launch => exact .inl he
  | queuedSend t m =>
      change e ∈ (if t ∈ x.resolved then (x.finish task).send m else x).tasks at he
      split at he
      · exact .inl (mem_finish.mp (send_tasks m ▸ he)).1
      · exact .inl he
  | shutdownGrace requestTx requested =>
      cases requested
      · change e ∈ (x.setTask task (.shutdownGrace requestTx true)).tasks at he
        rcases (mem_setTask (mem_of_lookup_eq_some hc)).mp he with ⟨he, -⟩ | rfl
        · exact .inl he
        · exact .inr (.inr (.inr (.inr ⟨msgId, requestTx, rfl, .inl ⟨hc, rfl⟩⟩)))
      · exact .inl (mem_finish.mp (mem_setKernel he)).1
  | restartGrace requestTx requested =>
      cases requested
      · change e ∈ (x.setTask task (.restartGrace requestTx true)).tasks at he
        rcases (mem_setTask (mem_of_lookup_eq_some hc)).mp he with ⟨he, -⟩ | rfl
        · exact .inl he
        · exact .inr (.inr (.inr (.inr ⟨msgId, requestTx, rfl, .inr ⟨hc, rfl⟩⟩)))
      · exact (mem_startKernel he).imp (mem_finish.mp · |>.1) fun he => .inl (by rw [he])

-- The tasks after a step: those of `x`, and arrivals.
theorem mem_step_tasks {a : Action} {e : Nat × Continuation} (he : e ∈ (x.step a).tasks) :
    e ∈ x.tasks ∨ x.Arrival a e := by
  cases a with
  | execute code _ _ _ msgId =>
      change e ∈ (x.execute code msgId).tasks at he
      unfold Sched.execute Sched.dispatch at he
      split at he
      · exact .inl he
      · split at he
        · split at he
          · exact .inl (send_tasks _ ▸ he)
          · exact (mem_spawn.mp he).imp id fun he => .inr (.inl ⟨_, _, congrArg Prod.snd he, by rfl⟩)
          · exact .inl he
        · exact .inl he
  | route message => exact .inl (route_tasks message ▸ he)
  | interrupt msgId =>
      change e ∈ (x.interrupt msgId).tasks at he
      unfold Sched.interrupt at he
      split at he
      · exact .inl (send_tasks _ ▸ he)
      all_goals exact .inl he
  | shutdown =>
      change e ∈ x.shutdown.tasks at he
      dsimp only [Sched.shutdown] at he
      split at he
      · exact (mem_spawn.mp he).imp id fun he => .inr (.inr (.inl (by rw [he]; rfl)))
      · exact .inl (mem_setKernel (x := { x with kernel := .shuttingDown }) (mem_of_mem_dropKernel he))
  | restart =>
      change e ∈ x.restart.tasks at he
      dsimp only [Sched.restart] at he
      split at he
      · exact .inl he
      · exact (mem_spawn.mp he).imp id fun he => .inr (.inr (.inl (by rw [he]; rfl)))
      · exact (mem_startKernel (mem_of_mem_dropKernel he)).imp id fun he => .inl (by rw [he])
  | kernelErrored _ => exact .inl (mem_setKernel he)
  | launchDone task result =>
      change e ∈ (x.launchDone task result).tasks at he
      unfold Sched.launchDone at he
      split at he
      · let z : Sched := { x.finish task with resolved := x.resolved ++ [task] }
        have hz : ∀ kernel, e ∈ (z.setKernel kernel).tasks → e ∈ x.tasks :=
          fun _ he => (mem_finish.mp (show e ∈ (x.finish task).tasks from mem_setKernel (x := z) he)).1
        cases result <;> exact .inl (hz _ he)
      · exact .inl he
  | wake task msgId =>
      change e ∈ (x.wake task msgId).tasks at he
      unfold Sched.wake at he
      split at he
      · exact mem_resume_tasks ‹_› he
      · exact .inl he
  | bufferEvent _ | clearOutputs | close _ | edit _ | dropWorkspace => exact .inl he

/-! Only `execute` queues a send, and it queues its execute request. -/

theorem QueuesExecutes.step (hq : x.QueuesExecutes) (a : Action) : (x.step a).QueuesExecutes := by
  intro e he t m hm
  rcases mem_step_tasks he with he | hc | ⟨t', m', hc, hexec⟩ | hc | ⟨_, _, _, ⟨_, hc⟩ | ⟨_, hc⟩⟩
  · exact hq e he t m hm
  · exact absurd (hc.symm.trans hm) nofun
  · rw [hm] at hc; cases hc; exact hexec
  · rw [hm] at hc; cases hc
  · exact absurd (hc.symm.trans hm) nofun
  · exact absurd (hc.symm.trans hm) nofun

end Sched

-- The channel a grace period in its last segment has handed its `ShutdownRequest`, and the
-- request's restart flag.
def Continuation.asked : Continuation → Option (Nat × Bool)
  | .shutdownGrace requestTx true => some (requestTx, false)
  | .restartGrace requestTx true => some (requestTx, true)
  | _ => none

theorem Continuation.asked_eq_none_of_requesting {c : Continuation} (h : c.requesting = true) :
    c.asked = none := by
  unfold Continuation.requesting at h
  split at h <;> first | rfl | cases h

theorem sentTo_append (l l' : List (Nat × JupyterMessage)) (t : Nat) :
    sentTo (l ++ l') t = sentTo l t ++ sentTo l' t := by
  simp [sentTo]

namespace Sched

variable {x : Sched}

/-! A grace period's last segment follows its request. -/

-- Every grace period in its last segment handed its channel its request, and nothing since.
def Asked (x : Sched) : Prop :=
  ∀ e ∈ x.tasks, ∀ t restart, e.2.asked = some (t, restart) →
    (sentTo x.requests t).getLast?.map (·.content) = some (.shutdownRequest restart)

-- What a step may hand over goes to an open channel.
theorem Handed.open (h : x.Wf) {r : Nat × JupyterMessage} (hr : x.Handed r) : x.Open r.1 := by
  rcases hr with ⟨k, hk, ht, -⟩ | ⟨g, restart, -, hg⟩
  · exact ht ▸ (h.kernel.1 k hk).2.1
  · exact (h.requesting _ (mem_of_lookup_eq_some hg) r.1 (by cases restart <;> rfl)
      (by cases restart <;> rfl)).1

-- A channel whose last message is a `ShutdownRequest` is closed.
theorem not_open_of_getLast? {t : Nat} {restart : Bool}
    (hlast : (sentTo x.requests t).getLast?.map (·.content) = some (.shutdownRequest restart)) :
    ¬x.Open t := by
  intro hopen
  obtain ⟨m, hm, hc⟩ := Option.map_eq_some'.mp hlast
  have hm' := hopen m (List.mem_of_getLast?_eq_some hm)
  rw [hc] at hm'
  cases hm'

-- The wake that ends a grace period's first segment hands its channel the request, last.
theorem wake_sends_request {g t : Nat} (restart : Bool) (msgId : String)
    (hl : x.tasks.lookup g = some (if restart then .restartGrace t false else .shutdownGrace t false)) :
    (sentTo (x.wake g msgId).requests t).getLast?.map (·.content) = some (.shutdownRequest restart) := by
  have hw : (x.wake g msgId).requests =
      x.requests ++ [(t, ⟨⟨msgId⟩, none, .shutdownRequest restart⟩)] := by
    unfold wake; rw [hl]; cases restart <;> rfl
  rw [hw, sentTo_append_singleton, if_pos rfl, List.getLast?_concat]
  rfl

theorem Asked.step (hA : x.Asked) (h : x.Wf) (hq : x.QueuesExecutes) (a : Action) :
    (x.step a).Asked := by
  obtain ⟨sent, hreq, -, hsent⟩ := hands_step hq a
  intro e he t restart hasked
  rcases mem_step_tasks he with he | hc | ⟨_, _, hc, -⟩ | hc | ⟨msgId, t', rfl, ⟨hl, hc⟩ | ⟨hl, hc⟩⟩
  · -- its channel is closed, so the step hands it nothing
    have hlast := hA e he t restart hasked
    have hnil : sentTo sent t = [] := sentTo_eq_nil fun r hr hrt =>
      not_open_of_getLast? hlast (hrt ▸ (hsent r hr).open h)
    rw [hreq, sentTo_append, hnil, List.append_nil]
    exact hlast
  · rw [hc] at hasked; cases hasked
  · rw [hc] at hasked; cases hasked
  · rw [Continuation.asked_eq_none_of_requesting hc] at hasked; cases hasked
  · rw [hc] at hasked; cases hasked; exact wake_sends_request false msgId hl
  · rw [hc] at hasked; cases hasked; exact wake_sends_request true msgId hl

end Sched

theorem Reachable.sched_queuesExecutes {s : Session} (hs : Reachable s) : s.sched.QueuesExecutes := by
  induction hs with
  | new buffer =>
      rw [Session.new, Session.startKernel_sched]
      intro e he t m hm
      rcases Sched.mem_startKernel he with he | rfl
      · exact absurd he (List.not_mem_nil _)
      · cases hm
  | step a _ ih => rw [Session.step_sched]; exact ih.step a

theorem Reachable.sched_asked {s : Session} (hs : Reachable s) : s.sched.Asked := by
  induction hs with
  | new buffer =>
      rw [Session.new, Session.startKernel_sched]
      intro e he t restart hasked
      rcases Sched.mem_startKernel he with he | rfl
      · exact absurd he (List.not_mem_nil _)
      · cases hasked
  | step a hs ih => rw [Session.step_sched]; exact ih.step hs.sched_wf hs.sched_queuesExecutes a

-- The session's side of its kernels' request channels. A step hands over at most one message:
-- an execute or interrupt request on the running kernel's channel, or a grace period's
-- `ShutdownRequest`, with the restart flag of its kind, on the channel it holds, which is never
-- the running kernel's.
theorem requests_follow_channel_discipline {s : Session} (hs : Reachable s) (a : Action) :
    ∃ sent, (s.step a).requests = s.requests ++ sent ∧ sent.length ≤ 1 ∧ ∀ r ∈ sent,
      (∃ k, s.kernel = .runningKernel k ∧ r.1 = k.transport ∧
        (r.2.content.isExecuteRequest = true ∨ r.2.content = .interruptRequest)) ∨
      (∃ g restart, r.2.content = .shutdownRequest restart ∧
        s.tasks.lookup g = some (if restart then .restartGrace r.1 false else .shutdownGrace r.1 false) ∧
        ∀ k, s.kernel = .runningKernel k → r.1 ≠ k.transport) := by
  obtain ⟨sent, hreq, hlen, hsent⟩ := Sched.hands_step hs.sched_queuesExecutes a
  refine ⟨sent, by rw [← Session.sched_requests, Session.step_sched, hreq]; rfl, hlen, fun r hr => ?_⟩
  rcases hsent r hr with hrun | ⟨g, restart, hc, hg⟩
  · exact .inl hrun
  · refine .inr ⟨g, restart, hc, hg, fun k hk hkt => ?_⟩
    -- the running kernel's channel is held by no grace period
    exact (hs.sched_wf.kernel.1 k hk).2.2 _ (mem_of_lookup_eq_some hg)
      (by cases restart <;> exact hkt ▸ rfl)

-- The shutdown grace period of a running kernel hands it its `ShutdownRequest`.
theorem requests_follow_channel_discipline_after_shutdown :
    let s : Session := (Session.new ⟨"x".toList, fun _ => true⟩).run
      [.launchDone 1 (.ok .idle), .shutdown]
    Reachable s ∧ (s.step (.wake 2 "s")).requests = s.requests ++ [(1, ⟨⟨"s"⟩, none, .shutdownRequest false⟩)] ∧
      ∃ sent, (s.step (.wake 2 "s")).requests = s.requests ++ sent ∧ sent.length ≤ 1 ∧ ∀ r ∈ sent,
        (∃ k, s.kernel = .runningKernel k ∧ r.1 = k.transport ∧
          (r.2.content.isExecuteRequest = true ∨ r.2.content = .interruptRequest)) ∨
        (∃ g restart, r.2.content = .shutdownRequest restart ∧
          s.tasks.lookup g = some (if restart then .restartGrace r.1 false else .shutdownGrace r.1 false) ∧
          ∀ k, s.kernel = .runningKernel k → r.1 ≠ k.transport) :=
  have hs := (Reachable.new ⟨"x".toList, fun _ => true⟩).run [.launchDone 1 (.ok .idle), .shutdown]
  ⟨hs, by decide, requests_follow_channel_discipline hs _⟩

-- The shutdown handshake keeps its order: a grace period reaches its last segment, which sets
-- `Shutdown` or starts the new kernel, only once it has handed its channel the `ShutdownRequest`,
-- with `restart` set exactly for a restart, and nothing has reached that channel since.
theorem grace_period_ends_after_its_request {s : Session} (hs : Reachable s) {g t : Nat} :
    ((g, .shutdownGrace t true) ∈ s.tasks →
      (sentTo s.requests t).getLast?.map (·.content) = some (.shutdownRequest false)) ∧
    ((g, .restartGrace t true) ∈ s.tasks →
      (sentTo s.requests t).getLast?.map (·.content) = some (.shutdownRequest true)) :=
  ⟨fun he => hs.sched_asked _ he t false rfl, fun he => hs.sched_asked _ he t true rfl⟩

-- A restart past its first segment: the old kernel's channel ends on the restart request.
theorem grace_period_ends_after_its_request_on_restart :
    let s : Session := (Session.new ⟨"x".toList, fun _ => true⟩).run
      [.launchDone 1 (.ok .idle), .restart, .wake 2 "r"]
    Reachable s ∧ (2, .restartGrace 1 true) ∈ s.tasks ∧
      ((2, .shutdownGrace 1 true) ∈ s.tasks →
        (sentTo s.requests 1).getLast?.map (·.content) = some (.shutdownRequest false)) ∧
      ((2, .restartGrace 1 true) ∈ s.tasks →
        (sentTo s.requests 1).getLast?.map (·.content) = some (.shutdownRequest true)) :=
  have hs := (Reachable.new ⟨"x".toList, fun _ => true⟩).run
    [.launchDone 1 (.ok .idle), .restart, .wake 2 "r"]
  ⟨hs, by decide, grace_period_ends_after_its_request hs⟩

end ReplSession

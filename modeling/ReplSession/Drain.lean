import ReplSession.Requests

namespace ReplSession

-- The firing of a pending continuation: a launch task completing, or a task's next segment.
def Action.isFiring : Action → Bool
  | .launchDone _ _ | .wake _ _ => true
  | _ => false

-- How many firings a continuation may still need. A grace period that has yet to ask for the
-- shutdown fires twice, and the last firing of a restart starts a launch.
def Continuation.weight : Continuation → Nat
  | .launch => 1
  | .queuedSend _ _ => 1
  | .shutdownGrace _ requested => if requested then 1 else 2
  | .restartGrace _ requested => if requested then 2 else 3

theorem Continuation.weight_le (c : Continuation) : c.weight ≤ 3 := by
  unfold Continuation.weight
  split <;> (try split) <;> omega

-- The firings the continuations of `tasks` may still need.
def weightSum : List (Nat × Continuation) → Nat
  | [] => 0
  | e :: tasks => e.2.weight + weightSum tasks

theorem weightSum_append_singleton (tasks : List (Nat × Continuation)) (e : Nat × Continuation) :
    weightSum (tasks ++ [e]) = weightSum tasks + e.2.weight := by
  induction tasks with
  | nil => simp [weightSum]
  | cons f tasks ih => rw [List.cons_append, weightSum, weightSum, ih, Nat.add_assoc]

theorem weightSum_le (tasks : List (Nat × Continuation)) : weightSum tasks ≤ 3 * tasks.length := by
  induction tasks with
  | nil => exact le_rfl
  | cons e tasks ih =>
      have := e.2.weight_le
      simp only [weightSum, List.length_cons]
      omega

theorem weightSum_filter_le (tasks : List (Nat × Continuation)) (p : Nat × Continuation → Bool) :
    weightSum (tasks.filter p) ≤ weightSum tasks := by
  induction tasks with
  | nil => exact le_rfl
  | cons e tasks ih =>
      by_cases hp : p e
      · simp only [List.filter_cons_of_pos hp, weightSum]; omega
      · simp only [List.filter_cons_of_neg hp, weightSum]; omega

-- Dropping the one task of id `t`.
theorem weightSum_filter_key {tasks : List (Nat × Continuation)} (hnodup : (tasks.map (·.1)).Nodup)
    {t : Nat} {c : Continuation} (hc : (t, c) ∈ tasks) :
    weightSum (tasks.filter (·.1 ≠ t)) + c.weight = weightSum tasks := by
  induction tasks with
  | nil => cases hc
  | cons e tasks ih =>
      rw [List.map_cons, List.nodup_cons] at hnodup
      have hkey : ∀ f ∈ tasks, f.1 ≠ e.1 :=
        fun f hf heq => hnodup.1 (heq ▸ List.mem_map_of_mem _ hf)
      rcases List.mem_cons.mp hc with rfl | hc
      · have hrest : tasks.filter (·.1 ≠ t) = tasks :=
          List.filter_eq_self.mpr fun f hf => decide_eq_true (hkey f hf)
        rw [List.filter_cons_of_neg (by simp), hrest, weightSum, Nat.add_comm]
      · have hne : e.1 ≠ t := fun heq => hkey _ hc heq.symm
        simp only [List.filter_cons, ne_eq, hne, not_false_eq_true, decide_True, if_true, weightSum]
        rw [Nat.add_assoc, ih hnodup.2 hc]

-- Replacing the one task of id `g`.
theorem weightSum_setKey {tasks : List (Nat × Continuation)} (hnodup : (tasks.map (·.1)).Nodup)
    {g : Nat} {c : Continuation} (hc : (g, c) ∈ tasks) (c' : Continuation) :
    weightSum (tasks.map fun e => if e.1 = g then (g, c') else e) + c.weight =
      weightSum tasks + c'.weight := by
  induction tasks with
  | nil => cases hc
  | cons e tasks ih =>
      rw [List.map_cons, List.nodup_cons] at hnodup
      have hkey : ∀ f ∈ tasks, f.1 ≠ e.1 :=
        fun f hf heq => hnodup.1 (heq ▸ List.mem_map_of_mem _ hf)
      rcases List.mem_cons.mp hc with rfl | hc
      · have hrest : (tasks.map fun e => if e.1 = g then (g, c') else e) = tasks :=
          (List.map_congr_left fun f hf => if_neg (hkey f hf)).trans (List.map_id' tasks)
        rw [List.map_cons, hrest, if_pos rfl, weightSum, weightSum]
        dsimp only
        omega
      · have hne : ¬e.1 = g := fun heq => hkey _ hc heq.symm
        rw [List.map_cons, if_neg hne, weightSum, weightSum, Nat.add_assoc, ih hnodup.2 hc,
          Nat.add_assoc]

namespace Sched

-- The firings the pending continuations may still need.
def load (x : Sched) : Nat :=
  weightSum x.tasks

variable {x : Sched}

theorem Wf.load_finish (h : x.Wf) {task : Nat} {c : Continuation} (hc : (task, c) ∈ x.tasks) :
    (x.finish task).load + c.weight = x.load :=
  weightSum_filter_key h.nodup hc

theorem Wf.load_setTask (h : x.Wf) {g : Nat} {c : Continuation} (hc : (g, c) ∈ x.tasks)
    (c' : Continuation) : (x.setTask g c').load + c.weight = x.load + c'.weight :=
  weightSum_setKey h.nodup hc c'

theorem load_spawn (x : Sched) (c : Continuation) : (x.spawn c).2.load = x.load + c.weight :=
  weightSum_append_singleton _ _

theorem load_dropKernel_le (x : Sched) (kernel : Kernel) : (x.dropKernel kernel).load ≤ x.load := by
  unfold Sched.dropKernel
  split
  · split
    · exact le_rfl
    · exact weightSum_filter_le _ _
  · exact le_rfl

theorem load_setKernel_le (x : Sched) (kernel : Kernel) : (x.setKernel kernel).load ≤ x.load :=
  load_dropKernel_le { x with kernel := kernel } x.kernel

theorem load_startKernel_le (x : Sched) : x.startKernel.load ≤ x.load + 1 :=
  (load_setKernel_le (x.spawn .launch).2 _).trans (load_spawn x .launch).le

theorem load_send (x : Sched) (m : JupyterMessage) : (x.send m).load = x.load := by
  unfold load
  rw [send_tasks]

/-! Each firing lowers the load. -/

-- A launch completing leaves the tasks and spawns nothing.
theorem Wf.launchDone_lowers (h : x.Wf) {t : Nat} (ht : (t, .launch) ∈ x.tasks)
    (result : Except String ExecutionState) : (x.launchDone t result).load < x.load := by
  have hlt : (x.finish t).load < x.load := by
    have hfin := h.load_finish ht
    have hw : Continuation.launch.weight = 1 := rfl
    omega
  unfold Sched.launchDone
  rw [h.lookup_eq ht]
  cases result <;> exact lt_of_le_of_lt (load_setKernel_le _ _) hlt

-- Any other task's next segment, once a queued send's launch has resolved.
theorem Wf.wake_lowers (h : x.Wf) {g : Nat} {c : Continuation} (hc : (g, c) ∈ x.tasks)
    (hlaunch : c ≠ .launch) (hres : ∀ t m, c = .queuedSend t m → t ∈ x.resolved) (msgId : String) :
    (x.wake g msgId).load < x.load := by
  have hfin := h.load_finish hc
  unfold Sched.wake
  rw [h.lookup_eq hc]
  cases c with
  | launch => exact absurd rfl hlaunch
  | queuedSend t m =>
      show (if t ∈ x.resolved then (x.finish g).send m else x).load < x.load
      rw [if_pos (hres t m rfl), load_send]
      have hw : (Continuation.queuedSend t m).weight = 1 := rfl
      omega
  | shutdownGrace requestTx requested =>
      cases requested
      · have hset := h.load_setTask hc (.shutdownGrace requestTx true)
        have hw : (Continuation.shutdownGrace requestTx false).weight = 2 := rfl
        have hw' : (Continuation.shutdownGrace requestTx true).weight = 1 := rfl
        show (x.setTask g (.shutdownGrace requestTx true)).load < x.load
        omega
      · have hset := load_setKernel_le (x.finish g) .shutdown
        have hw : (Continuation.shutdownGrace requestTx true).weight = 1 := rfl
        show ((x.finish g).setKernel .shutdown).load < x.load
        omega
  | restartGrace requestTx requested =>
      cases requested
      · have hset := h.load_setTask hc (.restartGrace requestTx true)
        have hw : (Continuation.restartGrace requestTx false).weight = 3 := rfl
        have hw' : (Continuation.restartGrace requestTx true).weight = 2 := rfl
        show (x.setTask g (.restartGrace requestTx true)).load < x.load
        omega
      · have hstart := load_startKernel_le (x.finish g)
        have hw : (Continuation.restartGrace requestTx true).weight = 2 := rfl
        show (x.finish g).startKernel.load < x.load
        omega

-- While a task is pending, some firing lowers the load: a pending launch can always complete,
-- and without one every queued send's launch has resolved.
theorem Wf.exists_firing (h : x.Wf) (hne : x.tasks ≠ []) :
    ∃ a : Action, a.isFiring = true ∧ (x.step a).load < x.load := by
  by_cases hl : ∃ t, (t, Continuation.launch) ∈ x.tasks
  · obtain ⟨t, ht⟩ := hl
    exact ⟨.launchDone t (.error ""), rfl, h.launchDone_lowers ht _⟩
  · obtain ⟨⟨g, c⟩, he⟩ := List.exists_mem_of_ne_nil _ hne
    refine ⟨.wake g "", rfl, h.wake_lowers he (fun hc => hl ⟨g, hc ▸ he⟩) (fun t m hc => ?_) ""⟩
    subst hc
    exact (h.queued g t m he).1.resolve_left fun ht => hl ⟨t, ht⟩

theorem Wf.drains (h : x.Wf) :
    ∃ actions : List Action, (∀ a ∈ actions, a.isFiring = true) ∧ actions.length ≤ x.load ∧
      (x.run actions).tasks = [] := by
  suffices hn : ∀ n (y : Sched), y.Wf → y.load = n → ∃ actions : List Action,
      (∀ a ∈ actions, a.isFiring = true) ∧ actions.length ≤ y.load ∧ (y.run actions).tasks = [] from
    hn _ x h rfl
  intro n
  induction n using Nat.strongRecOn with
  | ind n ih =>
      intro y h hn
      by_cases hne : y.tasks = []
      · exact ⟨[], fun _ h => absurd h (List.not_mem_nil _), Nat.zero_le _, hne⟩
      · obtain ⟨a, ha, hlt⟩ := h.exists_firing hne
        obtain ⟨actions, hfire, hlen, hrun⟩ := ih _ (hn ▸ hlt) _ (h.step a) rfl
        refine ⟨a :: actions, fun b hb => ?_, by rw [List.length_cons]; omega, hrun⟩
        rcases List.mem_cons.mp hb with rfl | hb
        · exact ha
        · exact hfire b hb

end Sched

-- No pending continuation waits forever: from every reachable state, firing only pending
-- continuations (launches completing, tasks waking) empties the executor, within three firings
-- per pending task. In particular no queued execution awaits a launch that was cancelled.
theorem pending_tasks_always_drain {s : Session} (hs : Reachable s) :
    ∃ actions : List Action, (∀ a ∈ actions, a.isFiring = true) ∧
      actions.length ≤ 3 * s.tasks.length ∧ (s.run actions).tasks = [] := by
  obtain ⟨actions, hfire, hlen, hrun⟩ := hs.sched_wf.drains
  exact ⟨actions, hfire, hlen.trans (weightSum_le _),
    by rw [← Session.sched_tasks, Session.run_sched, hrun]⟩

-- An execution queued on the first launch, and a shutdown grace period after the launch.
theorem pending_tasks_always_drain_after_shutdown :
    let s : Session := (Session.new ⟨"x".toList, fun _ => true⟩).run
      [.execute "x" ⟨⟨0⟩, ⟨1⟩⟩ none false "a", .launchDone 1 (.ok .idle), .shutdown]
    Reachable s ∧ s.tasks.length = 2 ∧ ∃ actions : List Action, (∀ a ∈ actions, a.isFiring = true) ∧
      actions.length ≤ 3 * s.tasks.length ∧ (s.run actions).tasks = [] :=
  have hs := (Reachable.new ⟨"x".toList, fun _ => true⟩).run
    [.execute "x" ⟨⟨0⟩, ⟨1⟩⟩ none false "a", .launchDone 1 (.ok .idle), .shutdown]
  ⟨hs, by decide, pending_tasks_always_drain hs⟩

end ReplSession

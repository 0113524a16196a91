import ReplSession.Sched

namespace ReplSession

-- The request channel a grace period holds.
def Continuation.graceTx : Continuation → Option Nat
  | .shutdownGrace requestTx _ | .restartGrace requestTx _ => some requestTx
  | _ => none

-- A grace period that has yet to hand over its `ShutdownRequest`.
def Continuation.requesting : Continuation → Bool
  | .shutdownGrace _ false | .restartGrace _ false => true
  | _ => false

def JupyterMessageContent.isShutdownRequest : JupyterMessageContent → Bool
  | .shutdownRequest _ => true
  | _ => false

-- What the request channel of transport `t` was handed, in order.
def sentTo (requests : List (Nat × JupyterMessage)) (t : Nat) : List JupyterMessage :=
  (requests.filter (·.1 = t)).map (·.2)

theorem sentTo_append_singleton (requests : List (Nat × JupyterMessage)) (u t : Nat)
    (m : JupyterMessage) :
    sentTo (requests ++ [(u, m)]) t = sentTo requests t ++ if u = t then [m] else [] := by
  by_cases h : u = t <;> simp [sentTo, h]

theorem sentTo_eq_nil {requests : List (Nat × JupyterMessage)} {t : Nat}
    (h : ∀ r ∈ requests, r.1 ≠ t) : sentTo requests t = [] := by
  simpa [sentTo] using fun a b hr => h _ hr

namespace Sched

-- Transport `t` has not been asked to shut down.
def Open (x : Sched) (t : Nat) : Prop :=
  ∀ m ∈ sentTo x.requests t, m.content.isShutdownRequest = false

-- The kernels the executor may hold: a running kernel's launch has resolved, its channel is
-- open and no grace period holds it; a starting kernel's launch is pending or has resolved.
def Admits (x : Sched) (kernel : Kernel) : Prop :=
  (∀ k, kernel = .runningKernel k → k.transport ∈ x.resolved ∧ x.Open k.transport ∧
    ∀ e ∈ x.tasks, e.2.graceTx ≠ some k.transport) ∧
  ∀ task, kernel = .startingKernel task → (task, .launch) ∈ x.tasks ∨ task ∈ x.resolved

-- The executor's invariant. Task ids are distinct and fresh, and a pending task has not
-- resolved. A queued send awaits a launch that is pending or has resolved: dropping a starting
-- kernel never cancels a launch a queued send awaits. Every channel the executor has written to
-- or holds belongs to a resolved launch. A grace period that has yet to ask its kernel to shut
-- down is the only one on that channel, and the channel is still open. No channel was handed
-- anything after a `ShutdownRequest`.
structure Wf (x : Sched) : Prop where
  nodup : (x.tasks.map (·.1)).Nodup
  task_lt : ∀ e ∈ x.tasks, e.1 < x.nextTask
  resolved_lt : ∀ t ∈ x.resolved, t < x.nextTask
  unresolved : ∀ e ∈ x.tasks, e.1 ∉ x.resolved
  kernel : x.Admits x.kernel
  queued : ∀ q t m, (q, .queuedSend t m) ∈ x.tasks →
    ((t, .launch) ∈ x.tasks ∨ t ∈ x.resolved) ∧ m.content.isShutdownRequest = false
  sent : ∀ r ∈ x.requests, r.1 ∈ x.resolved
  grace : ∀ e ∈ x.tasks, ∀ t, e.2.graceTx = some t → t ∈ x.resolved
  requesting : ∀ e ∈ x.tasks, ∀ t, e.2.graceTx = some t → e.2.requesting = true →
    x.Open t ∧ ∀ f ∈ x.tasks, f.2.graceTx = some t → f = e
  last : ∀ t, ∀ m ∈ (sentTo x.requests t).dropLast, m.content.isShutdownRequest = false

variable {x : Sched}

@[simp] theorem mem_finish {task : Nat} {e : Nat × Continuation} :
    e ∈ (x.finish task).tasks ↔ e ∈ x.tasks ∧ e.1 ≠ task := by
  simp [finish]

@[simp] theorem mem_spawn {c : Continuation} {e : Nat × Continuation} :
    e ∈ (x.spawn c).2.tasks ↔ e ∈ x.tasks ∨ e = (x.nextTask, c) := by
  simp [spawn]

theorem mem_of_mem_dropKernel {kernel : Kernel} {e : Nat × Continuation}
    (he : e ∈ (x.dropKernel kernel).tasks) : e ∈ x.tasks := by
  unfold Sched.dropKernel at he
  split at he
  · next t =>
      by_cases hc : x.tasks.any fun e => e.2.awaits t
      · rw [if_pos hc] at he; exact he
      · rw [if_neg hc] at he; exact (mem_finish.mp he).1
  · exact he

theorem Wf.eq_of_mem (h : x.Wf) {e f : Nat × Continuation} (he : e ∈ x.tasks) (hf : f ∈ x.tasks)
    (hid : e.1 = f.1) : e = f :=
  List.inj_on_of_nodup_map h.nodup he hf hid

theorem Wf.lookup_eq (h : x.Wf) {task : Nat} {c : Continuation} (hc : (task, c) ∈ x.tasks) :
    x.tasks.lookup task = some c := by
  obtain ⟨c', hc'⟩ := Option.isSome_iff_exists.mp
    (List.lookup_isSome_iff.mpr ⟨(task, c), hc, beq_self_eq_true task⟩)
  rw [hc']
  exact congrArg (some ·.2) (h.eq_of_mem (mem_of_lookup_eq_some hc') hc rfl)

/-! The executor's operations keep the invariant. -/

theorem Wf.finish (h : x.Wf) {task : Nat}
    (hlaunch : (task, .launch) ∈ x.tasks → x.kernel ≠ .startingKernel task ∧
      ∀ e ∈ x.tasks, e.2.awaits task = false) : (x.finish task).Wf where
  nodup := h.nodup.sublist ((List.filter_sublist _).map _)
  task_lt e he := h.task_lt e (mem_finish.mp he).1
  resolved_lt := h.resolved_lt
  unresolved e he := h.unresolved e (mem_finish.mp he).1
  kernel := by
    refine ⟨fun k hk => ?_, fun t hk => ?_⟩
    · obtain ⟨hres, hopen, hfree⟩ := h.kernel.1 k hk
      exact ⟨hres, hopen, fun e he => hfree e (mem_finish.mp he).1⟩
    · refine (h.kernel.2 t hk).imp (fun ht => mem_finish.mpr ⟨ht, fun hid => ?_⟩) id
      subst hid
      exact (hlaunch ht).1 hk
  queued q t m hq := by
    have hmem := (mem_finish.mp hq).1
    refine ⟨(h.queued q t m hmem).1.imp (fun ht => mem_finish.mpr ⟨ht, fun hid => ?_⟩) id,
      (h.queued q t m hmem).2⟩
    subst hid
    simpa [Continuation.awaits] using (hlaunch ht).2 _ hmem
  sent := h.sent
  grace e he := h.grace e (mem_finish.mp he).1
  requesting e he t ht hreq := by
    obtain ⟨hopen, huniq⟩ := h.requesting e (mem_finish.mp he).1 t ht hreq
    exact ⟨hopen, fun f hf => huniq f (mem_finish.mp hf).1⟩
  last := h.last

theorem Wf.spawn (h : x.Wf) (c : Continuation)
    (hq : ∀ t m, c = .queuedSend t m →
      ((t, .launch) ∈ x.tasks ∨ t ∈ x.resolved) ∧ m.content.isShutdownRequest = false)
    (hg : ∀ t, c.graceTx = some t → t ∈ x.resolved ∧ x.Open t ∧
      (∀ e ∈ x.tasks, e.2.graceTx ≠ some t) ∧ ∀ k, x.kernel = .runningKernel k → k.transport ≠ t) :
    (x.spawn c).2.Wf where
  nodup := by
    show ((x.tasks ++ [(x.nextTask, c)]).map (·.1)).Nodup
    rw [List.map_append, List.map_singleton]
    refine List.nodup_append.mpr ⟨h.nodup, List.nodup_singleton _, ?_⟩
    simp only [List.disjoint_singleton, List.mem_map, not_exists, not_and]
    exact fun e he hid => Nat.lt_irrefl _ (hid ▸ h.task_lt e he)
  task_lt e he := by
    rcases mem_spawn.mp he with he | rfl
    · exact Nat.lt_succ_of_lt (h.task_lt e he)
    · exact Nat.lt_succ_self _
  resolved_lt t ht := Nat.lt_succ_of_lt (h.resolved_lt t ht)
  unresolved e he := by
    rcases mem_spawn.mp he with he | rfl
    · exact h.unresolved e he
    · exact fun hr => Nat.lt_irrefl _ (h.resolved_lt _ hr)
  kernel := by
    refine ⟨fun k hk => ?_, fun t hk => (h.kernel.2 t hk).imp (mem_spawn.mpr ∘ .inl) id⟩
    obtain ⟨hres, hopen, hfree⟩ := h.kernel.1 k hk
    refine ⟨hres, hopen, fun e he => ?_⟩
    rcases mem_spawn.mp he with he | rfl
    · exact hfree e he
    · exact fun ht => (hg _ ht).2.2.2 k hk rfl
  queued q t m hmem := by
    rcases mem_spawn.mp hmem with hmem | heq
    · exact ⟨(h.queued q t m hmem).1.imp (mem_spawn.mpr ∘ .inl) id, (h.queued q t m hmem).2⟩
    · obtain ⟨hl, hm⟩ := hq t m (Prod.ext_iff.mp heq).2.symm
      exact ⟨hl.imp (mem_spawn.mpr ∘ .inl) id, hm⟩
  sent := h.sent
  grace e he t ht := by
    rcases mem_spawn.mp he with he | rfl
    · exact h.grace e he t ht
    · exact (hg t ht).1
  requesting e he t ht hreq := by
    rcases mem_spawn.mp he with he | rfl
    · obtain ⟨hopen, huniq⟩ := h.requesting e he t ht hreq
      refine ⟨hopen, fun f hf hft => ?_⟩
      rcases mem_spawn.mp hf with hf | rfl
      · exact huniq f hf hft
      · exact absurd ht ((hg t hft).2.2.1 e he)
    · obtain ⟨-, hopen, hfree, -⟩ := hg t ht
      refine ⟨hopen, fun f hf hft => ?_⟩
      rcases mem_spawn.mp hf with hf | rfl
      · exact absurd hft (hfree f hf)
      · rfl
  last := h.last

@[simp] theorem sendOn_requests {t : Nat} {m : JupyterMessage} :
    (x.sendOn t m).requests = x.requests ++ [(t, m)] := rfl

-- Handing a channel anything but a `ShutdownRequest` leaves it open.
theorem Open.sendOn {t u : Nat} {m : JupyterMessage} (hu : x.Open u)
    (hm : t = u → m.content.isShutdownRequest = false) : (x.sendOn t m).Open u := by
  intro m' hm'
  rw [sendOn_requests, sentTo_append_singleton] at hm'
  rcases List.mem_append.mp hm' with hm' | hm'
  · exact hu m' hm'
  · split at hm'
    · rw [List.mem_singleton.mp hm']; exact hm ‹_›
    · cases hm'

theorem Wf.sendOn (h : x.Wf) {t : Nat} (m : JupyterMessage) (ht : t ∈ x.resolved)
    (hopen : x.Open t)
    (hshut : m.content.isShutdownRequest = true →
      (∀ k, x.kernel = .runningKernel k → k.transport ≠ t) ∧
      ∀ e ∈ x.tasks, e.2.graceTx = some t → e.2.requesting = false) :
    (x.sendOn t m).Wf where
  nodup := h.nodup
  task_lt := h.task_lt
  resolved_lt := h.resolved_lt
  unresolved := h.unresolved
  kernel := by
    refine ⟨fun k hk => ?_, h.kernel.2⟩
    obtain ⟨hres, hopen', hfree⟩ := h.kernel.1 k hk
    refine ⟨hres, hopen'.sendOn fun hkt => ?_, hfree⟩
    cases hm : m.content.isShutdownRequest
    · rfl
    · exact absurd hkt.symm ((hshut hm).1 k hk)
  queued := h.queued
  sent r hr := by
    rcases List.mem_append.mp hr with hr | hr
    · exact h.sent r hr
    · rw [List.mem_singleton.mp hr]; exact ht
  grace := h.grace
  requesting e he u hu hreq := by
    obtain ⟨hopen', huniq⟩ := h.requesting e he u hu hreq
    refine ⟨hopen'.sendOn fun htu => ?_, huniq⟩
    cases hm : m.content.isShutdownRequest
    · rfl
    · subst htu; simp [(hshut hm).2 e he hu] at hreq
  last u m' hm' := by
    rw [sendOn_requests, sentTo_append_singleton] at hm'
    split at hm'
    · subst u; rw [List.dropLast_concat] at hm'; exact hopen m' hm'
    · rw [List.append_nil] at hm'; exact h.last u m' hm'

theorem mem_setTask {g : Nat} {c c' : Continuation} (hg : (g, c) ∈ x.tasks)
    {e : Nat × Continuation} : e ∈ (x.setTask g c').tasks ↔ (e ∈ x.tasks ∧ e.1 ≠ g) ∨ e = (g, c') := by
  simp only [setTask, List.mem_map]
  constructor
  · rintro ⟨f, hf, rfl⟩
    split
    · exact .inr rfl
    · exact .inl ⟨hf, ‹_›⟩
  · rintro (⟨he, hne⟩ | rfl)
    · exact ⟨e, he, if_neg hne⟩
    · exact ⟨(g, c), hg, if_pos rfl⟩

-- Handing over a grace period's request: its task continues on the same channel, no longer
-- requesting.
theorem Wf.setTask (h : x.Wf) {g t : Nat} {c : Continuation} (hg : (g, c) ∈ x.tasks)
    (ht : c.graceTx = some t) (c' : Continuation) (ht' : c'.graceTx = some t)
    (hreq' : c'.requesting = false) : (x.setTask g c').Wf where
  nodup := by
    have hfst : ((x.setTask g c').tasks.map (·.1)) = x.tasks.map (·.1) := by
      simp only [Sched.setTask, List.map_map]
      exact List.map_congr_left fun f _ => by simp only [Function.comp_apply]; split <;> simp_all
    exact hfst ▸ h.nodup
  task_lt e he := by
    rcases (mem_setTask hg).mp he with ⟨he, -⟩ | rfl
    · exact h.task_lt e he
    · exact h.task_lt (g, c) hg
  resolved_lt := h.resolved_lt
  unresolved e he := by
    rcases (mem_setTask hg).mp he with ⟨he, -⟩ | rfl
    · exact h.unresolved e he
    · exact h.unresolved (g, c) hg
  kernel := by
    -- the entry of `g` holds a grace period, so no launch is lost
    have hkeep : ∀ u, (u, .launch) ∈ x.tasks → (u, .launch) ∈ (x.setTask g c').tasks :=
      fun u hu => (mem_setTask hg).mpr (.inl ⟨hu, fun hug => by
        cases h.eq_of_mem hu hg hug; cases ht⟩)
    refine ⟨fun k hk => ?_, fun u hk => (h.kernel.2 u hk).imp (hkeep u) id⟩
    obtain ⟨hres, hopen, hfree⟩ := h.kernel.1 k hk
    refine ⟨hres, hopen, fun e he => ?_⟩
    rcases (mem_setTask hg).mp he with ⟨he, -⟩ | rfl
    · exact hfree e he
    · exact ht' ▸ ht ▸ hfree _ hg
  queued q u m hq := by
    rcases (mem_setTask hg).mp hq with ⟨hq, -⟩ | heq
    · refine ⟨(h.queued q u m hq).1.imp (fun hu => (mem_setTask hg).mpr
        (.inl ⟨hu, fun hug => ?_⟩)) id, (h.queued q u m hq).2⟩
      cases h.eq_of_mem hu hg hug; cases ht
    · have hc' : c' = .queuedSend u m := (Prod.ext_iff.mp heq).2.symm
      subst hc'; cases ht'
  sent := h.sent
  grace e he u hu := by
    rcases (mem_setTask hg).mp he with ⟨he, -⟩ | rfl
    · exact h.grace e he u hu
    · exact h.grace _ hg u (ht.trans (ht'.symm.trans hu))
  requesting e he u hu hreq := by
    rcases (mem_setTask hg).mp he with ⟨he, hne⟩ | rfl
    · obtain ⟨hopen, huniq⟩ := h.requesting e he u hu hreq
      refine ⟨hopen, fun f hf hfu => ?_⟩
      rcases (mem_setTask hg).mp hf with ⟨hf, -⟩ | rfl
      · exact huniq f hf hfu
      · exact absurd (congrArg Prod.fst (huniq _ hg (ht.trans (ht'.symm.trans hfu)))).symm hne
    · simp [hreq'] at hreq
  last := h.last

-- Installing a kernel the executor admits.
theorem Wf.setKernelField (h : x.Wf) {kernel : Kernel} (hk : x.Admits kernel) :
    ({ x with kernel := kernel } : Sched).Wf :=
  { h with kernel := hk }

theorem Wf.dropKernel (h : x.Wf) (kernel : Kernel)
    (hne : ∀ t, kernel = .startingKernel t → x.kernel ≠ .startingKernel t) :
    (x.dropKernel kernel).Wf := by
  cases kernel with
  | startingKernel t =>
      by_cases hany : (x.tasks.any fun e => e.2.awaits t) = true
      · simp only [Sched.dropKernel, hany, if_true]; exact h
      · simp only [Sched.dropKernel, hany, if_false]
        exact h.finish fun _ => ⟨hne t rfl, by simpa using hany⟩
  | _ => exact h

theorem Wf.setKernel (h : x.Wf) {kernel : Kernel} (hk : x.Admits kernel)
    (hne : ∀ t, x.kernel = .startingKernel t → kernel ≠ .startingKernel t) :
    (x.setKernel kernel).Wf :=
  (h.setKernelField hk).dropKernel x.kernel fun t ht hk' => hne t ht hk'

-- A launch task resolves.
theorem Wf.resolve (h : x.Wf) {t : Nat} (ht : (t, .launch) ∈ x.tasks) :
    ({ x.finish t with resolved := x.resolved ++ [t] } : Sched).Wf where
  nodup := h.nodup.sublist ((List.filter_sublist _).map _)
  task_lt e he := h.task_lt e (mem_finish.mp he).1
  resolved_lt u hu := by
    rcases List.mem_append.mp hu with hu | hu
    · exact h.resolved_lt u hu
    · rw [List.mem_singleton.mp hu]; exact h.task_lt _ ht
  unresolved e he := by
    obtain ⟨he, hne⟩ := mem_finish.mp he
    simpa [hne] using h.unresolved e he
  kernel := by
    refine ⟨fun k hk => ?_, fun u hk => ?_⟩
    · obtain ⟨hres, hopen, hfree⟩ := h.kernel.1 k hk
      exact ⟨List.mem_append_left _ hres, hopen, fun e he => hfree e (mem_finish.mp he).1⟩
    · by_cases hu : u = t
      · exact .inr (by simp [hu])
      · exact (h.kernel.2 u hk).imp (fun hl => mem_finish.mpr ⟨hl, hu⟩) (List.mem_append_left _)
  queued q u m hq := by
    obtain ⟨hq, -⟩ := mem_finish.mp hq
    refine ⟨?_, (h.queued q u m hq).2⟩
    by_cases hu : u = t
    · exact .inr (by simp [hu])
    · exact (h.queued q u m hq).1.imp (fun hl => mem_finish.mpr ⟨hl, hu⟩) (List.mem_append_left _)
  sent r hr := List.mem_append_left _ (h.sent r hr)
  grace e he u hu := List.mem_append_left _ (h.grace e (mem_finish.mp he).1 u hu)
  requesting e he u hu hreq := by
    obtain ⟨hopen, huniq⟩ := h.requesting e (mem_finish.mp he).1 u hu hreq
    exact ⟨hopen, fun f hf => huniq f (mem_finish.mp hf).1⟩
  last := h.last

-- A grace period hands its channel its request: the only grace period there stops requesting,
-- and the session holds a kernel on another channel, if any.
theorem Wf.request (h : x.Wf) {g t : Nat} {c : Continuation} (hg : (g, c) ∈ x.tasks)
    (ht : c.graceTx = some t) (hreq : c.requesting = true) (c' : Continuation)
    (ht' : c'.graceTx = some t) (hreq' : c'.requesting = false) (m : JupyterMessage) :
    ((x.setTask g c').sendOn t m).Wf := by
  obtain ⟨hopen, huniq⟩ := h.requesting _ hg t ht hreq
  refine (h.setTask hg ht c' ht' hreq').sendOn m (h.grace _ hg t ht) hopen
    fun _ => ⟨fun k hk hkt => ?_, fun e he het => ?_⟩
  · exact (h.kernel.1 k hk).2.2 _ hg (hkt ▸ ht)
  · rcases (mem_setTask hg).mp he with ⟨he, hne⟩ | rfl
    · exact absurd (congrArg Prod.fst (huniq e he het)) hne
    · exact hreq'

theorem Admits.setExecutionState {kernel : Kernel} (hk : x.Admits kernel) (state : ExecutionState) :
    x.Admits (kernel.setExecutionState state) := by
  cases kernel with
  | runningKernel k => exact ⟨fun r hr => by cases hr; exact hk.1 k rfl, fun _ hr => nomatch hr⟩
  | _ => exact hk

theorem Admits.setKernelInfo {kernel : Kernel} (hk : x.Admits kernel) (languageName : String) :
    x.Admits (kernel.setKernelInfo languageName) := by
  cases kernel with
  | runningKernel k => exact ⟨fun r hr => by cases hr; exact hk.1 k rfl, fun _ hr => nomatch hr⟩
  | _ => exact hk

-- A kernel that is neither running nor starting is always admitted.
theorem admits_of_idle (kernel : Kernel) (hrun : ∀ k, kernel ≠ .runningKernel k)
    (hstart : ∀ t, kernel ≠ .startingKernel t) : x.Admits kernel :=
  ⟨fun k hk => absurd hk (hrun k), fun t hk => absurd hk (hstart t)⟩

/-! The executor's methods keep the invariant. -/

theorem Wf.startKernel (h : x.Wf) : x.startKernel.Wf := by
  have hs := h.spawn .launch (fun _ _ h => nomatch h) fun _ h => nomatch h
  show ((x.spawn .launch).2.setKernel (.startingKernel x.nextTask)).Wf
  refine hs.setKernel ⟨fun _ => nofun, fun t hk => ?_⟩ fun t hk hne => ?_
  · cases hk; exact .inl (mem_spawn.mpr (.inr rfl))
  · -- the kernel it replaces started on an older task
    cases hne
    exact (h.kernel.2 _ hk).elim (fun hl => Nat.lt_irrefl _ (h.task_lt _ hl))
      fun hr => Nat.lt_irrefl _ (h.resolved_lt _ hr)

theorem Wf.kernelErrored (h : x.Wf) (errorMessage : String) : (x.kernelErrored errorMessage).Wf :=
  h.setKernel (admits_of_idle _ (fun _ => nofun) fun _ => nofun) fun _ _ => nofun

theorem Wf.send (h : x.Wf) {message : JupyterMessage}
    (hm : message.content.isShutdownRequest = false) : (x.send message).Wf := by
  unfold Sched.send
  split
  · rename_i k hk
    obtain ⟨hres, hopen, -⟩ := h.kernel.1 k hk
    exact h.sendOn message hres hopen fun hs => absurd (hm.symm.trans hs) Bool.false_ne_true
  · exact h

theorem Wf.dispatch (h : x.Wf) {message : JupyterMessage}
    (hm : message.content.isShutdownRequest = false) : (x.dispatch message).Wf := by
  unfold Sched.dispatch
  split
  · exact h.send hm
  · rename_i t hk
    exact h.spawn _ (fun _ _ heq => by cases heq; exact ⟨h.kernel.2 t hk, hm⟩) fun _ hg => nomatch hg
  · exact h

theorem Wf.execute (h : x.Wf) (code msgId : String) : (x.execute code msgId).Wf := by
  unfold Sched.execute
  split
  · exact h
  · split
    · exact h.dispatch rfl
    · exact h

theorem Wf.route (h : x.Wf) (message : JupyterMessage) : (x.route message).Wf := by
  unfold Sched.route
  split
  · exact h
  · split
    · exact h.setKernelField (h.kernel.setExecutionState _)
    · exact h.setKernelField (h.kernel.setKernelInfo _)
    · exact h

theorem Wf.interrupt (h : x.Wf) (msgId : String) : (x.interrupt msgId).Wf := by
  unfold Sched.interrupt
  split
  · exact h.send rfl
  all_goals exact h

-- A running kernel's channel passes to a grace period when the kernel is set aside.
theorem Wf.spawnGrace (h : x.Wf) {k : RunningKernel} (hk : x.kernel = .runningKernel k)
    (kernel : Kernel) (hrun : ∀ r, kernel ≠ .runningKernel r) (hstart : ∀ t, kernel ≠ .startingKernel t)
    (c : Continuation) (hq : ∀ t m, c ≠ .queuedSend t m) (hc : c.graceTx = some k.transport) :
    (({ x with kernel := kernel } : Sched).spawn c).2.Wf := by
  obtain ⟨hres, hopen, hfree⟩ := h.kernel.1 k hk
  refine (h.setKernelField (admits_of_idle kernel hrun hstart)).spawn c (fun t m heq => absurd heq (hq t m))
    fun t ht => ?_
  rw [hc] at ht; cases ht
  exact ⟨hres, hopen, hfree, fun r hr => absurd hr (hrun r)⟩

theorem Wf.shutdown (h : x.Wf) : x.shutdown.Wf := by
  dsimp only [Sched.shutdown]
  split
  · exact h.spawnGrace ‹_› .shuttingDown (fun _ => nofun) (fun _ => nofun) _ (fun _ _ => nofun) rfl
  · exact ((h.setKernelField (admits_of_idle .shuttingDown (fun _ => nofun) fun _ => nofun)).setKernel
      (admits_of_idle .shutdown (fun _ => nofun) fun _ => nofun) fun _ _ => nofun).dropKernel _
      fun _ _ => nofun

theorem Wf.restart (h : x.Wf) : x.restart.Wf := by
  have hdown := h.setKernelField (admits_of_idle .restarting (fun _ => nofun) fun _ => nofun)
  dsimp only [Sched.restart]
  split
  · exact hdown
  · exact h.spawnGrace ‹_› .restarting (fun _ => nofun) (fun _ => nofun) _ (fun _ _ => nofun) rfl
  · refine hdown.startKernel.dropKernel _ fun t ht hk => ?_
    -- the new kernel starts on the next task, which no earlier kernel had
    cases hk
    exact (h.kernel.2 _ ht).elim (fun hl => Nat.lt_irrefl _ (h.task_lt _ hl))
      fun hr => Nat.lt_irrefl _ (h.resolved_lt _ hr)

-- A launch that resolves with a kernel installs it: nothing has been sent on its channel and
-- no grace period holds it.
theorem Wf.launchDone (h : x.Wf) (task : Nat) (result : Except String ExecutionState) :
    (x.launchDone task result).Wf := by
  unfold Sched.launchDone
  split
  · have ht := mem_of_lookup_eq_some ‹_›
    have hr := h.resolve ht
    cases result with
    | error err => exact hr.kernelErrored err
    | ok state =>
        refine hr.setKernel ⟨fun k hk => ?_, fun _ => nofun⟩ fun _ _ => nofun
        cases hk
        refine ⟨List.mem_append_right _ (List.mem_singleton_self _), fun m hm => ?_,
          fun e he hg => h.unresolved _ ht (h.grace e (mem_finish.mp he).1 _ hg)⟩
        rw [sentTo_eq_nil fun r hr' hrt => h.unresolved _ ht (by simpa [hrt] using h.sent r hr')] at hm
        cases hm
  · exact h

theorem Wf.resume (h : x.Wf) {task : Nat} {c : Continuation} (hc : (task, c) ∈ x.tasks)
    (msgId : String) : (x.resume task msgId c).Wf := by
  -- the task's own entry is no launch, so finishing it cancels none
  have hfinish : c ≠ .launch → (x.finish task).Wf := fun hne =>
    h.finish fun hl => absurd (congrArg Prod.snd (h.eq_of_mem hc hl rfl)) hne
  cases c with
  | launch => exact h
  | queuedSend t m =>
      show (if t ∈ x.resolved then (x.finish task).send m else x).Wf
      split
      · exact (hfinish nofun).send (h.queued task t m hc).2
      · exact h
  | shutdownGrace requestTx requested =>
      cases requested
      · exact h.request hc rfl rfl (.shutdownGrace requestTx true) rfl rfl _
      · exact (hfinish nofun).setKernel (admits_of_idle .shutdown (fun _ => nofun) fun _ => nofun)
          fun _ _ => nofun
  | restartGrace requestTx requested =>
      cases requested
      · exact h.request hc rfl rfl (.restartGrace requestTx true) rfl rfl _
      · exact (hfinish nofun).startKernel

theorem Wf.wake (h : x.Wf) (task : Nat) (msgId : String) : (x.wake task msgId).Wf := by
  unfold Sched.wake
  split
  · exact h.resume (mem_of_lookup_eq_some ‹_›) msgId
  · exact h

theorem Wf.step (h : x.Wf) (a : Action) : (x.step a).Wf := by
  cases a with
  | execute code _ _ _ msgId => exact h.execute code msgId
  | route message => exact h.route message
  | interrupt msgId => exact h.interrupt msgId
  | shutdown => exact h.shutdown
  | restart => exact h.restart
  | kernelErrored errorMessage => exact h.kernelErrored errorMessage
  | launchDone task result => exact h.launchDone task result
  | wake task msgId => exact h.wake task msgId
  | dropWorkspace => exact { h with }
  | bufferEvent _ | clearOutputs | close _ | edit _ => exact h

theorem Wf.run (h : x.Wf) (actions : List Action) : (x.run actions).Wf := by
  induction actions generalizing x with
  | nil => exact h
  | cons a actions ih => exact ih (h.step a)

end Sched

-- `Session::new` puts the ready task `0` in place, resolved, before `start_kernel`.
theorem Session.new_sched_wf (buffer : Buffer) : (Session.new buffer).sched.Wf := by
  rw [Session.new, Session.startKernel_sched]
  refine Sched.Wf.startKernel ⟨List.nodup_nil, List.forall_mem_nil _, by simp [Session.sched],
    List.forall_mem_nil _, ⟨fun _ h => (by cases h), fun _ hk => .inr (by cases hk; simp)⟩,
    fun _ _ _ h => absurd h (List.not_mem_nil _), List.forall_mem_nil _, List.forall_mem_nil _,
    List.forall_mem_nil _, fun _ => List.forall_mem_nil _⟩

theorem Reachable.sched_wf {s : Session} (hs : Reachable s) : s.sched.Wf := by
  induction hs with
  | new buffer => exact Session.new_sched_wf buffer
  | step a _ ih => rw [Session.step_sched]; exact ih.step a

end ReplSession

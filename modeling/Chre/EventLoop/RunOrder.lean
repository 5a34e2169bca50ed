import Chre.EventLoop.Order
import Chre.EventLoop.Run

/-!
# Accounting and posting order over whole runs

Every step of delivery keeps `Accounting` and `Ordered` (`ordered_preserved`). A run also starts
nanoapps and unloads them. `startNanoapp` loads a nanoapp under an instance id no nanoapp has,
with an empty queue, and drops it again, its queue still empty, if its `start` fails;
`unloadNanoapp` erases a nanoapp only after its flushes have emptied every queue; and the
`start` and `end` they log say nothing of events. Each of these keeps both invariants
(`Accounting.load`, `Accounting.unload`, `Accounting.appendLog`, and the same for `Ordered`),
so every state a run reaches satisfies them (`RunReachable.ordered`).

So a nanoapp handles the events it is given in the order they were posted, over every run,
whichever distribution gave them to it: that of `run()`, of `flushInboundEventQueue`, or of the
flush `unloadNanoapp` makes before it unloads (`handleEvent_in_posting_order`).
-/

namespace Chre

namespace List

theorem sum_map_eraseIdx {α : Type} (f : α → Nat) :
    ∀ {l : List α} {i : Nat} {a : α}, l[i]? = some a → ((l.eraseIdx i).map f).sum + f a = (l.map f).sum
  | [], _, _, h => by simp at h
  | c :: l, 0, a, h => by simp at h; subst h; simp; omega
  | c :: l, i + 1, a, h => by
    have := sum_map_eraseIdx f (l := l) (by simpa using h)
    simp only [List.eraseIdx_cons_succ, List.map_cons, List.sum_cons]
    omega

end List

namespace EventLoop

variable {s s' : EventLoop}

/-- A family every step keeps, with code that only posts, is kept with code that sends. -/
theorem Preserved.sends {I : Option Nat → EventLoop → Prop} (hI : Preserved Posts I) :
    Preserved Sends I :=
  ⟨fun h hp => hI.posts h hp.toPosts, hI.fanOut, hI.popEvent, hI.logFree, hI.release⟩

theorem queues_eraseIdx (s : EventLoop) (i : Nat) :
    ({ s with nanoapps := s.nanoapps.eraseIdx i } : EventLoop).queues = s.queues.eraseIdx i := by
  simp only [queues, List.eraseIdx_eq_take_drop_succ, List.map_append, List.map_take, List.map_drop]

/-- A stretch of the log that records no distribution, post, delivery or free of an event, such
as the `start` or the `end` of a nanoapp. -/
def EventFree (L : List Action) : Prop :=
  ∀ i event, .distributeEvent event ∉ L ∧ .postEvent i event ∉ L ∧
    .nanoappHandleEvent i event ∉ L ∧ .freeEvent event ∉ L

theorem eventFree_nanoappStart (x : UInt32) (success : Bool) :
    EventFree [.nanoappStart x success] := fun _ _ => by simp

theorem eventFree_nanoappEnd (x : UInt32) : EventFree [.nanoappEnd x] := fun _ _ => by simp

/-! ### Loading and unloading keep the accounting -/

namespace Accounting

/-- A step that keeps `mEvents`, the pool, the pointer and the log keeps the accounting when the
queues it leaves have the same references and account for the copies given. -/
theorem of_queues (h : Accounting none s) (hlog : s'.log = s.log) (hev : s'.events = s.events)
    (hpool : s'.eventPool = s.eventPool) (hnep : s'.nextEventPointer = s.nextEventPointer)
    (hids : (s'.queues.map Prod.fst).Nodup)
    (hqueue : ∀ q ∈ s'.queues, ∀ event, s.log.count (.nanoappHandleEvent q.1 event) +
      q.2.count event = s.log.count (.postEvent q.1 event))
    (hunloaded : ∀ i ∉ s'.queues.map Prod.fst, ∀ event,
      s.log.count (.nanoappHandleEvent i event) = s.log.count (.postEvent i event))
    (hqueued : ∀ event, queued s' event = queued s event) : Accounting none s' := by
  obtain ⟨events, eventPool, nextEventPointer, nanoapps, currentApp, stoppingNanoapp, running,
    lastInstanceId, log⟩ := s'
  subst hlog hev hpool hnep
  exact ⟨hids, h.events_sorted, h.events, h.pooled, h.distributed_le, h.distributed_lt, h.posted_le, hqueue,
    hunloaded, h.freed_le, fun e hf => (hqueued e).trans (h.freed_unqueued e hf),
    fun e hd hq => h.unqueued_freed e hd ((hqueued e).symm.trans hq),
    fun e ex hx hf => (h.refCount e ex hx hf).trans (hqueued e).symm, h.live, nofun, h.freedLast⟩

/-- Loading a nanoapp with an empty queue under an id no nanoapp has keeps the accounting. -/
theorem load (h : Accounting none s) {x : UInt32} (hx : x ∉ s.queues.map Prod.fst)
    (hq : s'.queues = s.queues ++ [(x, [])]) (hlog : s'.log = s.log) (hev : s'.events = s.events)
    (hpool : s'.eventPool = s.eventPool) (hnep : s'.nextEventPointer = s.nextEventPointer) :
    Accounting none s' := by
  refine h.of_queues hlog hev hpool hnep ?_ (fun q hq' event => ?_) (fun i hi event => ?_)
    (fun event => by simp [queued, hq])
  · rw [hq, List.map_append]
    exact h.ids.append (List.nodup_singleton x) (List.disjoint_singleton.2 hx)
  · rw [hq, List.mem_append, List.mem_singleton] at hq'
    rcases hq' with hq' | rfl
    · exact h.queue q hq' event
    · simpa using h.unloaded x hx event
  · exact h.unloaded i (fun hm => hi (by simp [hq, hm])) event

/-- Erasing a nanoapp whose queue is empty keeps the accounting. -/
theorem unload (h : Accounting none s) {i : Nat} {x : UInt32} (hi : s.queues[i]? = some (x, []))
    (hq : s'.queues = s.queues.eraseIdx i) (hlog : s'.log = s.log) (hev : s'.events = s.events)
    (hpool : s'.eventPool = s.eventPool) (hnep : s'.nextEventPointer = s.nextEventPointer) :
    Accounting none s' := by
  have hsub : s'.queues ⊆ s.queues := hq ▸ (List.eraseIdx_sublist _ i).subset
  refine h.of_queues hlog hev hpool hnep (hq ▸ h.ids.sublist ((List.eraseIdx_sublist _ i).map _))
    (fun q hq' => h.queue q (hsub hq')) (fun y hy event => ?_) (fun event => ?_)
  · by_cases hy' : y ∈ s.queues.map Prod.fst
    · -- the nanoapp erased, whose queue was empty
      obtain ⟨q, hqm, rfl⟩ := List.mem_map.1 hy'
      obtain ⟨j, hj⟩ := List.mem_iff_getElem?.1 hqm
      obtain rfl : j = i := by
        by_contra hji
        exact hy (List.mem_map_of_mem _ (hq ▸ List.mem_eraseIdx_iff_getElem?.2 ⟨j, hji, hj⟩))
      obtain rfl : q = (x, []) := Option.some.inj (hj.symm.trans hi)
      simpa using h.queue _ hqm event
    · exact h.unloaded y hy' event
  · have := List.sum_map_eraseIdx (fun q : UInt32 × List Nat => q.2.count event) hi
    simp only [List.count_nil] at this
    simp only [queued, hq, ← this, Nat.add_zero]

/-- Logging what says nothing of events keeps the accounting. -/
theorem appendLog (h : Accounting none s) {L : List Action} (hL : EventFree L) :
    Accounting none { s with log := s.log ++ L } := by
  have hd (e) : L.count (.distributeEvent e) = 0 := List.count_eq_zero.2 (hL 0 e).1
  have hp (i e) : L.count (.postEvent i e) = 0 := List.count_eq_zero.2 (hL i e).2.1
  have hh (i e) : L.count (.nanoappHandleEvent i e) = 0 := List.count_eq_zero.2 (hL i e).2.2.1
  have hf (e) : L.count (.freeEvent e) = 0 := List.count_eq_zero.2 (hL 0 e).2.2.2
  refine ⟨h.ids, h.events_sorted, ?_, h.pooled, ?_, ?_, ?_, ?_, ?_, ?_, ?_, ?_, ?_, ?_, nofun,
    h.freedLast.append (fun e => (hL 0 e).2.2.2) fun e i _ => (hL i e).2.2.1⟩
  all_goals simp only [List.count_append, hd, hp, hh, hf, Nat.add_zero, queued_log]
  exacts [h.events, h.distributed_le, h.distributed_lt, h.posted_le, h.queue, h.unloaded,
    h.freed_le, h.freed_unqueued, h.unqueued_freed, h.refCount, h.live]

end Accounting

/-! ### Loading and unloading keep the order -/

namespace Ordered

theorem of_queues (ho : Ordered s) (hlog : s'.log = s.log) (hev : s'.events = s.events)
    (hqueue : ∀ q ∈ s'.queues, (handledEvents s.log q.1 ++ q.2).Sorted (· < ·)) : Ordered s' :=
  ⟨by simpa only [hlog] using ho.handled, by simpa only [hlog] using hqueue,
    by simpa only [hlog, hev] using ho.before_events⟩

theorem load (ho : Ordered s) {x : UInt32} (hq : s'.queues = s.queues ++ [(x, [])])
    (hlog : s'.log = s.log) (hev : s'.events = s.events) : Ordered s' := by
  refine ho.of_queues hlog hev fun q hq' => ?_
  rw [hq, List.mem_append, List.mem_singleton] at hq'
  rcases hq' with hq' | rfl
  · exact ho.queue q hq'
  · simpa using ho.handled x

theorem unload (ho : Ordered s) {i : Nat} (hq : s'.queues = s.queues.eraseIdx i)
    (hlog : s'.log = s.log) (hev : s'.events = s.events) : Ordered s' :=
  ho.of_queues hlog hev fun q hq' => ho.queue q ((List.eraseIdx_sublist _ i).subset (hq ▸ hq'))

theorem appendLog (ho : Ordered s) {L : List Action} (hL : EventFree L) :
    Ordered { s with log := s.log ++ L } := by
  have hh (i) : handledEvents L i = [] :=
    List.eq_nil_iff_forall_not_mem.2 fun e he => (hL i e).2.2.1 (mem_handledEvents.1 he)
  have hd (e) : L.count (.distributeEvent e) = 0 := List.count_eq_zero.2 (hL 0 e).1
  exact ⟨by simpa only [handledEvents_append, hh, List.append_nil] using ho.handled,
    by simpa only [handledEvents_append, hh, List.append_nil] using ho.queue,
    by simpa only [List.count_append, hd, Nat.add_zero] using ho.before_events⟩

end Ordered

/-! ### Starting and unloading a nanoapp -/

variable {env : Env}

/-- **Starting a nanoapp keeps the accounting and the order.** Its instance id is fresh, its
queue empty, and its queue is still empty if it is dropped after a failed `start`. -/
theorem startNanoapp_ordered (henv : env.NoNestedLifecycle) {fuel : Nat} {appId : UInt64}
    {isSystemNanoapp : Bool} {r : Bool × EventLoop} (hl : Lifecycle s)
    (h : Accounting none s ∧ Ordered s)
    (hs : startNanoapp env (runRequests env fuel) appId isSystemNanoapp s = some r) :
    Accounting none r.2 ∧ Ordered r.2 := by
  unfold startNanoapp at hs
  split_ifs at hs
  · cases hs; exact h
  · cases hs; exact h
  obtain ⟨x, hx, hs⟩ := Option.bind_eq_some.1 hs
  obtain ⟨s₁, h₁, hs⟩ := Option.bind_eq_some.1 hs
  obtain rfl : x = s.lastInstanceId + 1 := by
    unfold getNextInstanceId at hx
    split_ifs at hx
    exact (Option.some.inj hx).symm
  have hfresh : s.lastInstanceId + 1 ∉ s.queues.map Prod.fst := fun hmem => by
    have := (hl.log.started _ true ((hl.log.loaded _).1 (instanceIds_eq_map_fst s ▸ hmem)).1).2
    rw [UInt32.toNat_add_one hl.log.last_ne] at this
    omega
  set app : Nanoapp := ⟨appId, s.lastInstanceId + 1, isSystemNanoapp, [], []⟩
  -- the nanoapp loaded and its `start` logged
  have hq₀ : ({ s with
      lastInstanceId := app.instanceId
      nanoapps := s.nanoapps ++ [app]
      currentApp := some app.instanceId } : EventLoop).queues =
      s.queues ++ [(s.lastInstanceId + 1, [])] := by simp [queues, app]
  have hp₁ := (runRequests_sends env (henv.nanoappStart _ app)
    (fun y hy => by simp [instanceIds, ← Option.some.inj hy]) h₁).toPosts
  have hI₁ := ordered_preserved.posts (ordered_preserved.posts
    ⟨(h.1.load hfresh hq₀ rfl rfl rfl rfl).appendLog (eventFree_nanoappStart _ _),
      (h.2.load hq₀ rfl rfl).appendLog (eventFree_nanoappStart _ _)⟩ hp₁)
    (Posts.setCurrentApp s₁ none)
  split at hs <;> obtain rfl := Option.some.inj hs
  · exact hI₁
  · -- a failed `start`: the nanoapp dropped, its queue still empty
    have hq₁ : s₁.queues = s.queues ++ [(s.lastInstanceId + 1, [])] := hp₁.queues.trans hq₀
    have hlen : s₁.queues.length = s.queues.length + 1 := by rw [hq₁]; simp
    have hq : ({ s₁ with currentApp := none, nanoapps := s₁.nanoapps.dropLast } : EventLoop).queues
        = s₁.queues.eraseIdx s.queues.length := by
      rw [← List.dropLast_eq_eraseIdx hlen.symm]
      simp [queues, List.map_dropLast]
    have hi : s₁.queues[s.queues.length]? = some (s.lastInstanceId + 1, []) := by
      rw [hq₁]; simp
    exact ⟨hI₁.1.unload hi hq rfl rfl rfl rfl, hI₁.2.unload hq rfl rfl⟩

/-- **Unloading a nanoapp keeps the accounting and the order.** Its flushes are steps of
delivery, and it erases the nanoapp once they have emptied every queue. -/
theorem unloadNanoapp_ordered (henv : env.NoNestedLifecycle) {fuel : Nat} {instanceId : UInt32}
    {allowSystemNanoappUnload : Bool} {r : Bool × EventLoop} (hl : Lifecycle s)
    (h : Accounting none s ∧ Ordered s)
    (hu : unloadNanoapp env (runRequests env fuel) fuel instanceId allowSystemNanoappUnload s =
      some r) :
    Accounting none r.2 ∧ Ordered r.2 := by
  cases hi : s.nanoapps.findIdx? (·.instanceId == instanceId) with
  | none =>
    simp only [unloadNanoapp, hi, Option.some.injEq] at hu
    exact hu ▸ h
  | some i =>
    obtain ⟨hlt, -, -⟩ := List.findIdx?_eq_some_iff_getElem.1 hi
    by_cases hallow : allowSystemNanoappUnload = true ∨ s.nanoapps[i].isSystemNanoapp = false
    · obtain ⟨s₁, s₂, N₂, s₄, s₅, h₁, h₂, -, h₄, h₅, rfl⟩ :=
        unloadNanoapp_cases env hi (List.getElem?_eq_getElem hlt) hallow hu
      have hq := henv.toNoLifecycle.quiet fuel
      -- the host's messages, `mEvents` and the queues flushed
      have hI₂ := ordered_preserved.flushInboundEventQueue Posts.codeRel hq (ordered_preserved.posts
        h (runRequests_sends env (henv.flushMessagesSentByNanoapp _ _) hl.currentApp h₁).toPosts) h₂
      have hI₄ := ordered_preserved.flushNanoappEventQueues Posts.codeRel hq
        (by exact ordered_preserved.posts hI₂ (Posts.of_eq rfl rfl rfl rfl rfl)) h₄
      have hdr₄ := flushNanoappEventQueues_drained env Posts.codeRel hq h₄
      -- `end`, then the nanoapp at index `i` erased with its queue empty
      obtain ⟨app, -, happ, -, -⟩ := unloadNanoappAtIndex_cases env h₅
      obtain ⟨s₆, hp₆, rfl⟩ := unloadNanoappAtIndex_sends henv happ h₅
      have hI₅ : Accounting none (logEnd app s₄) ∧ Ordered (logEnd app s₄) :=
        have hc := ordered_preserved.posts hI₄ (Posts.setCurrentApp s₄ (some app.instanceId))
        ⟨hc.1.appendLog (eventFree_nanoappEnd app.instanceId),
          hc.2.appendLog (eventFree_nanoappEnd app.instanceId)⟩
      have hI₆ := ordered_preserved.posts hI₅ hp₆.toPosts
      have hqi : s₄.queues[i]? = some (app.instanceId, app.eventQueue) := by simp [queues, happ]
      have hi₆ : s₆.queues[i]? = some (app.instanceId, []) := by
        rw [hp₆.queues, ← hdr₄ _ (List.mem_iff_getElem?.2 ⟨i, hqi⟩)]
        exact hqi
      have hI₇ : Accounting none { s₆ with currentApp := none, nanoapps := s₆.nanoapps.eraseIdx i } ∧
          Ordered { s₆ with currentApp := none, nanoapps := s₆.nanoapps.eraseIdx i } :=
        ⟨hI₆.1.unload hi₆ (queues_eraseIdx _ i) rfl rfl rfl rfl,
          hI₆.2.unload (queues_eraseIdx _ i) rfl rfl⟩
      exact ordered_preserved.posts hI₇ (Posts.of_eq rfl rfl rfl rfl rfl)
    · obtain ⟨ha, hsys⟩ := not_or.1 hallow
      simp only [unloadNanoapp, hi, List.getElem?_eq_getElem hlt, Option.bind_eq_bind,
        Option.some_bind, Bool.eq_false_iff.2 ha, Bool.of_not_eq_false hsys, Bool.not_false,
        Bool.and_self, ↓reduceIte, Option.some.injEq] at hu
      exact hu ▸ h

/-- **Every state a run reaches keeps the accounting and the order**, when no code the loop
calls starts or unloads a nanoapp. -/
theorem RunReachable.ordered (henv : env.NoNestedLifecycle) {fuel : Nat}
    (hs : RunReachable env fuel s) : Accounting none s ∧ Ordered s := by
  induction hs with
  | init => exact ⟨Accounting.init .nil nofun, Ordered.init nofun⟩
  | step job hprev h ih =>
    cases job with
    | op o =>
      simp only [Job.run] at h
      split at h
      · exact ordered_preserved.sends.stepAsSystem henv.toNoLifecycle ‹_› ih h
      · cases h
    | startNanoapp =>
      obtain ⟨r, hr, rfl⟩ := Option.map_eq_some'.1 h
      exact startNanoapp_ordered henv (hprev.lifecycle henv) ih hr
    | unloadNanoapp =>
      obtain ⟨r, hr, rfl⟩ := Option.map_eq_some'.1 h
      exact unloadNanoapp_ordered henv (hprev.lifecycle henv) ih hr
    | stop =>
      cases h
      exact ordered_preserved.posts ih (Posts.of_eq rfl rfl rfl rfl rfl)

/-- **A nanoapp handles the events it is given in the order they were posted**, over every run
in which no code the loop calls starts or unloads a nanoapp: of two events, the one with the
smaller pointer, which was posted first, is not handled after the other. This holds whichever
distribution gave the events to the nanoapp, that of `run()`, of `flushInboundEventQueue`, or of
the flush `unloadNanoapp` makes before it unloads, and for a nanoapp since unloaded. -/
theorem handleEvent_in_posting_order (henv : env.NoNestedLifecycle) {fuel : Nat}
    (hs : RunReachable env fuel s) {instanceId : UInt32} {e₁ e₂ : Nat} (hlt : e₁ < e₂)
    {pre post : List Action} (hlog : s.log = pre ++ .nanoappHandleEvent instanceId e₂ :: post) :
    .nanoappHandleEvent instanceId e₁ ∉ post := by
  intro hmem
  have hsorted := (hs.ordered henv).2.handled instanceId
  rw [hlog, handledEvents_append, show handledEvents (.nanoappHandleEvent instanceId e₂ :: post)
    instanceId = e₂ :: handledEvents post instanceId by simp [handledEvents]] at hsorted
  exact absurd (List.rel_of_pairwise_cons (List.pairwise_append.1 hsorted).2.1
    (mem_handledEvents.2 hmem)) (by omega)

/-- A nanoapp started, then sent two events by the system, then unloaded: the unload's flush of
`mEvents` gives both events to the nanoapp, and its flush of the queues has the nanoapp handle
them, in the order they were posted, before its `end`. -/
theorem handleEvent_in_posting_order_unload :
    ∃ s, RunReachable quietEnv 3 s ∧
      s.log = [.nanoappStart 1 true, .distributeEvent 0, .postEvent 1 0, .distributeEvent 1,
        .postEvent 1 1, .nanoappHandleEvent 1 0, .freeEvent 0] ++
        .nanoappHandleEvent 1 1 :: [.freeEvent 1, .nanoappEnd 1] ∧
      Action.nanoappHandleEvent 1 0 ∉ [Action.freeEvent 1, .nanoappEnd 1] := by
  obtain ⟨s, hrun, hlog⟩ : ∃ s, Job.runAll quietEnv 3 {} [.startNanoapp 0x10 false,
      .op (.postEvent 0 0 none kSystemInstanceId 1), .op (.postEvent 0 0 none kSystemInstanceId 1),
      .unloadNanoapp 1 false] = some s ∧
      s.log = [.nanoappStart 1 true, .distributeEvent 0, .postEvent 1 0, .distributeEvent 1,
        .postEvent 1 1, .nanoappHandleEvent 1 0, .freeEvent 0] ++
        .nanoappHandleEvent 1 1 :: [.freeEvent 1, .nanoappEnd 1] := by
    have hid : ({} : EventLoop).getNextInstanceId = some 1 := by decide
    simp only [Job.runAll, Job.run, Op.run, Op.postsAsSystem, EventLoop.startNanoapp,
      findNanoappInstanceIdByAppId, hid, quietEnv, runRequests, postEvent, allocateAndPushEvent,
      distributeEvent, Nanoapp.takes, Event.isUnreferenced, Nanoapp.postEvent, unloadNanoapp,
      flushInboundEventQueue, flushNanoappEventQueues, deliverEvents, deliverEventsFrom,
      deliverNextEvent, freeEvent, unloadNanoappAtIndex, Nanoapp.hasPendingEvent, ↓reduceIte,
      beq_iff_eq, beq_self_eq_true, Bool.or_true, Bool.false_or, Bool.true_and, Bool.not_true,
      Bool.not_false, Bool.false_eq_true, Bool.not_eq_eq_eq_not, ite_not, Nat.add_eq_zero_iff,
      Nat.lt_add_one, and_false, false_and, exists_false, exists_eq_left', and_self,
      Option.bind_eq_bind, Option.some_bind, Option.pure_def, Option.map_some', Option.isSome_map',
      Option.isSome_some, Option.getD_some, Option.some.injEq, Function.update_same,
      List.foldlM_nil, List.foldlM_cons, List.find?_isSome, List.not_mem_nil, List.nil_append,
      List.mem_singleton, List.map_cons, List.map_nil, List.filter_cons_of_pos, List.filter_nil,
      List.length_singleton, List.length_eq_zero, List.cons_ne_self, List.findIdx?_cons,
      List.getElem?_eq_getElem, List.getElem_cons_zero, List.isEmpty_eq_false, List.set_cons_zero,
      List.head?_cons, List.tail_cons, List.cons_append, Nat.zero_add, Function.update_noteq, ne_eq,
      zero_lt_one, reduceCtorEq, Bool.or_eq_true, or_true, not_false_eq_true, List.isEmpty_cons,
      List.isEmpty_nil]
  have hs := RunReachable.init.runAll hrun
  exact ⟨s, hs, hlog, handleEvent_in_posting_order quietEnv_noNestedLifecycle hs (by decide) hlog⟩

end EventLoop

end Chre

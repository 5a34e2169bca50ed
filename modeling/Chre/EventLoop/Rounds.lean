import Chre.EventLoop.Accounting
import Chre.EventLoop.Drain
import Chre.EventLoop.Shutdown

/-!
# Rounds of delivery

When the code that delivery runs only posts (`Quiet env Posts run`), one round of
`deliverEvents` pops the head of every non-empty queue, in index order, hands it to its
nanoapp's `handleEvent`, and reports whether a queue still holds an event
(`deliverEvents_round`).

So a round that reports a pending event has lowered the number of queued events
(`queuedTotal`), and `flushNanoappEventQueues` returns, with every queue empty, given one unit
of fuel more than the events queued (`flushNanoappEventQueues_returns`); a round returns
because the events it pops are in the pool (`Accounting`) and the runner returns from the
code it runs (`Returns`).

In `run()`, `havePendingEvents` is false only when every queue is empty, and nothing but
delivery touches a queue, so the loop thread waits in `mEvents.pop()` only with every queue
empty or `mEvents` non-empty (`RunInvariant`, `interleave_pop`).
-/

namespace Chre

namespace EventLoop

/-- The deliveries a stretch of the log records, in order: the nanoapp and the event. -/
def deliveries (L : List Action) : List (UInt32 × Nat) :=
  L.filterMap fun
    | .nanoappHandleEvent instanceId event => some (instanceId, event)
    | _ => none

@[simp] theorem deliveries_append (L L' : List Action) :
    deliveries (L ++ L') = deliveries L ++ deliveries L' :=
  List.filterMap_append _ _ _

@[simp] theorem deliveries_cons_nanoappHandleEvent (instanceId : UInt32) (event : Nat)
    (L : List Action) :
    deliveries (.nanoappHandleEvent instanceId event :: L) = (instanceId, event) :: deliveries L :=
  rfl

/-- The delivery a round makes from a queue: its head, to its nanoapp. -/
def headDelivery (q : UInt32 × List Nat) : Option (UInt32 × Nat) :=
  q.2.head?.map (q.1, ·)

/-- The queue `q` after a round: its head popped. -/
def popHead (q : UInt32 × List Nat) : UInt32 × List Nat :=
  (q.1, q.2.tail)

theorem length_queues (s : EventLoop) : s.queues.length = s.nanoapps.length :=
  List.length_map _ _

section Round

variable (env : Env) {run : Runner} {R : EventLoop → EventLoop → Prop} (hR : CodeRel R)
  (hq : Quiet env R run)
include hR hq

/-- One delivery logs the call of `handleEvent` on the head of the queue, then at most the
event's free. -/
theorem deliverNextEvent_log {i : Nat} {s : EventLoop} {r : Bool × EventLoop}
    (h : deliverNextEvent env run i s = some r) :
    ∃ app event L, s.nanoapps[i]? = some app ∧ app.eventQueue.head? = some event ∧
      r.2.log = s.log ++ .nanoappHandleEvent app.instanceId event :: L ∧ deliveries L = [] := by
  obtain ⟨app, event, e, s₁, happ, hevent, -, hp, hfree, -⟩ := deliverNextEvent_cases env hR hq h
  have hlog₁ : s₁.log = s.log ++ [.nanoappHandleEvent app.instanceId event] := by
    rw [(hR.toPosts hp).log, popEvent_log]
  split_ifs at hfree
  · obtain ⟨_, s₂, -, hp₂, hr₂⟩ := freeEvent_cases env hR hq hfree
    refine ⟨app, event, [.freeEvent event], happ, hevent, ?_, rfl⟩
    rw [hr₂]
    simp [(hR.toPosts hp₂).log, hlog₁]
  · exact ⟨app, event, [], happ, hevent, by simp [hfree, hlog₁], rfl⟩

/-- **A round over the indices `is`** pops the head of each of their queues once, leaves the
other queues as they were, logs the deliveries of those heads in the order of `is`, and reports
a pending event exactly when one of the queues it visited still holds one. -/
theorem deliverEventsFrom_round :
    ∀ {is : List Nat} {b : Bool} {s : EventLoop} {r : Bool × EventLoop}, is.Nodup →
      deliverEventsFrom env run is b s = some r →
      (∀ j, r.2.queues[j]? = if j ∈ is then s.queues[j]?.map popHead else s.queues[j]?) ∧
      (∃ L, r.2.log = s.log ++ L ∧
        deliveries L = is.filterMap fun j => s.queues[j]?.bind headDelivery) ∧
      (r.1 = true ↔ b = true ∨ ∃ j ∈ is, ∃ q, r.2.queues[j]? = some q ∧ q.2 ≠ [])
  | [], _, _, _, _, h => by cases h; exact ⟨by simp, ⟨[], by simp, rfl⟩, by simp⟩
  | i :: is, b, s, r, hnd, h => by
    obtain ⟨app, happ, h⟩ := Option.bind_eq_some.1 h
    have hi : s.queues[i]? = some (app.instanceId, app.eventQueue) := by simp [queues, happ]
    have hlen : i < s.queues.length := (List.getElem?_eq_some_iff.1 hi).1
    obtain ⟨hni, hnd⟩ := List.nodup_cons.1 hnd
    split at h
    · rename_i hpend
      obtain ⟨r₁, h₁, h⟩ := Option.bind_eq_some.1 h
      obtain ⟨hqs, ⟨L, hL, hdel⟩, hr⟩ := deliverEventsFrom_round hnd h
      obtain ⟨app', happ', hq₁, hr₁⟩ := deliverNextEvent_queues env hR hq h₁
      obtain ⟨app'', event, L₁, happ'', hevent, hL₁, hdel₁⟩ := deliverNextEvent_log env hR hq h₁
      obtain rfl : app = app' := Option.some.inj (happ.symm.trans happ')
      obtain rfl : app = app'' := Option.some.inj (happ.symm.trans happ'')
      have hri : r.2.queues[i]? = some (app.instanceId, app.eventQueue.tail) := by
        rw [hqs i, if_neg hni, hq₁, List.getElem?_set_self hlen]
      have hother : ∀ j ≠ i, r₁.2.queues[j]? = s.queues[j]? := fun j hj => by
        rw [hq₁, List.getElem?_set_ne (Ne.symm hj)]
      refine ⟨fun j => ?_, ⟨_, by rw [hL, hL₁, List.append_assoc], ?_⟩, ?_⟩
      · by_cases hj : j = i
        · subst hj
          simp [hri, hi, popHead]
        · rw [hqs j, hother j hj]
          simp [hj]
      · simp only [deliveries_append, deliveries_cons_nanoappHandleEvent, hdel₁, hdel,
          List.filterMap_cons, hi, Option.some_bind, headDelivery, hevent, Option.map_some',
          List.singleton_append]
        congr 1
        exact List.filterMap_congr fun j hj => by rw [hother j fun h => hni (h ▸ hj)]
      · rw [hr, Bool.or_eq_true, hr₁]
        simp only [List.mem_cons, exists_eq_or_imp, hri, Option.some.injEq, exists_eq_left',
          Bool.not_eq_true', List.isEmpty_eq_false, or_assoc]
    · rename_i hpend
      have hnil : app.eventQueue = [] := by
        simpa [Nanoapp.hasPendingEvent] using hpend
      obtain ⟨hqs, ⟨L, hL, hdel⟩, hr⟩ := deliverEventsFrom_round hnd h
      have hri : r.2.queues[i]? = some (app.instanceId, []) := by
        rw [hqs i, if_neg hni, hi, hnil]
      refine ⟨fun j => ?_, ⟨L, hL, ?_⟩, ?_⟩
      · by_cases hj : j = i
        · subst hj
          simp [hri, hi, hnil, popHead]
        · rw [hqs j]
          simp [hj]
      · rw [hdel, List.filterMap_cons_none (by simp [hi, headDelivery, hnil])]
      · rw [hr]
        simp only [List.mem_cons, exists_eq_or_imp, hri, Option.some.injEq, exists_eq_left',
          ne_eq, not_true_eq_false, false_or]

/-- **One round of `deliverEvents`** pops the head of every non-empty queue, hands the heads to
their nanoapps in the order of `mNanoapps`, one each, and returns true exactly when a queue
still holds an event. -/
theorem deliverEvents_round {s : EventLoop} {r : Bool × EventLoop}
    (h : deliverEvents env run s = some r) :
    r.2.queues = s.queues.map popHead ∧
      (∃ L, r.2.log = s.log ++ L ∧ deliveries L =
        (List.range s.nanoapps.length).filterMap fun j => s.queues[j]?.bind headDelivery) ∧
      (r.1 = true ↔ ∃ q ∈ r.2.queues, q.2 ≠ []) := by
  obtain ⟨hqs, hlog, hr⟩ := deliverEventsFrom_round env hR hq (List.nodup_range _) h
  have hout : ∀ j, s.nanoapps.length ≤ j → r.2.queues[j]? = none := fun j hj => by
    rw [hqs j, if_neg (by simpa using hj)]
    exact List.getElem?_eq_none (by rw [length_queues]; exact hj)
  refine ⟨List.ext_getElem? fun j => ?_, hlog, ?_⟩
  · by_cases hj : j < s.nanoapps.length
    · rw [hqs j, if_pos (List.mem_range.2 hj), List.getElem?_map]
    · rw [hout j (not_lt.1 hj), List.getElem?_map,
        List.getElem?_eq_none (by rw [length_queues]; exact not_lt.1 hj), Option.map_none']
  · rw [hr]
    simp only [Bool.false_eq_true, false_or]
    constructor
    · rintro ⟨j, -, q, hjq, hq⟩
      exact ⟨q, List.mem_iff_getElem?.2 ⟨j, hjq⟩, hq⟩
    · rintro ⟨q, hmem, hq⟩
      obtain ⟨j, hjq⟩ := List.mem_iff_getElem?.1 hmem
      refine ⟨j, List.mem_range.2 ?_, q, hjq, hq⟩
      by_contra hj
      rw [hout j (not_lt.1 hj)] at hjq
      cases hjq

end Round

/-! ### The flush returns -/

/-- The events the nanoapps' queues hold, counted with multiplicity. -/
def queuedTotal (s : EventLoop) : Nat :=
  (s.queues.map fun q => q.2.length).sum

theorem sum_length_popHead_le :
    ∀ l : List (UInt32 × List Nat),
      ((l.map popHead).map fun q => q.2.length).sum ≤ (l.map fun q => q.2.length).sum
  | [] => le_rfl
  | a :: l => by
    simp only [List.map_cons, List.sum_cons, popHead, List.length_tail]
    have := sum_length_popHead_le l
    omega

/-- Popping the heads lowers the number of events held when some queue still holds one after. -/
theorem sum_length_popHead_lt :
    ∀ {l : List (UInt32 × List Nat)}, (∃ q ∈ l.map popHead, q.2 ≠ []) →
      ((l.map popHead).map fun q => q.2.length).sum < (l.map fun q => q.2.length).sum
  | [], ⟨_, hq, _⟩ => by cases hq
  | a :: l, ⟨q, hq, hne⟩ => by
    simp only [List.map_cons, List.sum_cons, popHead, List.length_tail] at hq ⊢
    rcases List.mem_cons.1 hq with rfl | hq
    · have := sum_length_popHead_le l
      have := List.length_pos.2 hne
      simp only [List.length_tail] at this
      omega
    · have := sum_length_popHead_lt ⟨q, hq, hne⟩
      omega

/-- **A round that reports a pending event lowers the number of queued events.** -/
theorem deliverEvents_queuedTotal_lt (env : Env) {run : Runner} (hq : Quiet env Posts run)
    {s : EventLoop} {r : Bool × EventLoop} (h : deliverEvents env run s = some r)
    (hr : r.1 = true) : queuedTotal r.2 < queuedTotal s := by
  obtain ⟨hqs, -, hpend⟩ := deliverEvents_round env Posts.codeRel hq h
  unfold queuedTotal
  rw [hqs]
  exact sum_length_popHead_lt (hqs ▸ hpend.1 hr)

/-- The runner returns from the code delivery and freeing run. -/
structure Returns (env : Env) (run : Runner) : Prop where
  nanoappHandleEvent : ∀ s app e, run (env.nanoappHandleEvent s app e) s ≠ none
  freeCallback : ∀ s callback e, run (env.freeCallback s callback e) s ≠ none

variable {env : Env} {run : Runner}

theorem interpret_ne_none {fuel : Nat} {s : EventLoop} {r : Request}
    (hr : r.isLifecycle = false) : interpret env run fuel s r ≠ none := by
  cases r with
  | sendEvent =>
    simp only [interpret]
    split
    · split_ifs <;> simp
    · simp
  | postEvent => simp [interpret]
  | registerForBroadcastEvent => simp [interpret]
  | unregisterForBroadcastEvent => simp [interpret]
  | startNanoapp => simp [Request.isLifecycle] at hr
  | unloadNanoapp => simp [Request.isLifecycle] at hr

/-- Requests that start and unload nothing are run to the end. -/
theorem runRequests_ne_none {fuel : Nat} {rs : List Request} {s : EventLoop}
    (hrs : ∀ r ∈ rs, r.isLifecycle = false) : runRequests env fuel rs s ≠ none := by
  have key : ∀ {run : Runner} {fuel : Nat} {rs : List Request} {s : EventLoop},
      (∀ r ∈ rs, r.isLifecycle = false) → rs.foldlM (interpret env run fuel) s ≠ none := by
    intro run fuel rs
    induction rs with
    | nil => intro s _; simp
    | cons r rs ih =>
      intro s hrs
      obtain ⟨s₁, h₁⟩ := Option.ne_none_iff_exists'.1 (interpret_ne_none (hrs r (.head _)))
      rw [List.foldlM_cons, h₁]
      exact ih fun r hr => hrs r (.tail _ hr)
  cases fuel <;> exact key hrs

/-- Freeing an event in the pool returns. -/
theorem freeEvent_ne_none (hret : Returns env run) {event : Nat} {s : EventLoop}
    (he : s.eventPool event ≠ none) : freeEvent env run event s ≠ none := by
  obtain ⟨e, he⟩ := Option.ne_none_iff_exists'.1 he
  intro h
  simp only [freeEvent, he, Option.bind_eq_bind, Option.some_bind] at h
  split at h
  · simp at h
  · simp only [Option.bind_eq_bind, Option.bind_eq_none, Option.map_eq_some', Option.some_bind,
      forall_exists_index, and_imp] at h
    exact hret.freeCallback _ _ _
      (Option.eq_none_iff_forall_not_mem.2 fun x hx => Option.noConfusion (h _ x hx rfl))

/-- A delivery to a nanoapp with a queued event returns: the event is in the pool, and stays
there while `handleEvent` runs. -/
theorem deliverNextEvent_ne_none (hq : Quiet env Posts run) (hret : Returns env run) {i : Nat}
    {s : EventLoop} {app : Nanoapp} (hs : Accounting none s) (happ : s.nanoapps[i]? = some app)
    (hne : app.eventQueue ≠ []) : deliverNextEvent env run i s ≠ none := by
  obtain ⟨event, rest, hqueue⟩ := List.exists_cons_of_ne_nil hne
  have hqd : 0 < queued s event := by
    have hmem : (app.instanceId, app.eventQueue) ∈ s.queues :=
      List.mem_map_of_mem (fun app => (app.instanceId, app.eventQueue))
        (List.mem_iff_getElem?.2 ⟨i, happ⟩)
    have := Accounting.count_queue_le_queued hmem event
    simp only [hqueue, List.count_cons_self] at this
    omega
  have hlt := hs.distributed_lt event (hs.distributed_of_queued hqd)
  obtain ⟨e, he⟩ := Option.isSome_iff_exists.1
    (hs.live event (hs.distributed_of_queued hqd) (hs.unfreed_of_queued hqd))
  have hhead : app.eventQueue.head? = some event := by rw [hqueue]; rfl
  intro h
  simp only [deliverNextEvent, happ, hhead, he, Option.bind_eq_bind, Option.some_bind,
    Option.bind_eq_none] at h
  refine hret.nanoappHandleEvent (popEvent i app event e s)
    { app with eventQueue := app.eventQueue.tail } { e with refCount := e.refCount - 1 }
    (Option.eq_none_iff_forall_not_mem.2 fun s₁ h₁ => ?_)
  have hp := hq.nanoappHandleEvent _ _ _ _ (popEvent_currentAppLoaded happ) h₁
  have hpool : s₁.eventPool event = some { e with refCount := e.refCount - 1 } := by
    rcases hp.eventPool event with hpool | ⟨hle, -⟩
    · rw [hpool, popEvent_eventPool, Function.update_same]
    · exact absurd hle (not_le.2 hlt)
  have h₂ := h s₁ h₁
  split at h₂
  · cases hf : freeEvent env run event { s₁ with currentApp := none } with
    | none => exact freeEvent_ne_none hret (by simp [hpool]) hf
    | some y => rw [hf] at h₂; cases h₂
  · cases h₂

/-- A round over indices of loaded nanoapps returns. -/
theorem deliverEventsFrom_ne_none (hq : Quiet env Posts run) (hret : Returns env run) :
    ∀ {is : List Nat} {b : Bool} {s : EventLoop}, Accounting none s →
      (∀ j ∈ is, j < s.nanoapps.length) → deliverEventsFrom env run is b s ≠ none
  | [], _, _, _, _ => by simp [deliverEventsFrom]
  | i :: is, b, s, hs, hlt => by
    have hi := hlt i (.head _)
    have happ : s.nanoapps[i]? = some s.nanoapps[i] := List.getElem?_eq_getElem hi
    intro h
    simp only [deliverEventsFrom, happ, Option.bind_eq_bind, Option.some_bind] at h
    split at h
    · rename_i hpend
      cases hd : deliverNextEvent env run i s with
      | none =>
        exact deliverNextEvent_ne_none hq hret hs happ
          (by simpa [Nanoapp.hasPendingEvent] using hpend) hd
      | some r₁ =>
        rw [hd] at h
        obtain ⟨_, -, hq₁, -⟩ := deliverNextEvent_queues env Posts.codeRel hq hd
        have hlen : r₁.2.nanoapps.length = s.nanoapps.length := by
          rw [← length_queues, ← length_queues, hq₁, List.length_set]
        exact deliverEventsFrom_ne_none hq hret (accounting_preserved.deliverNextEvent Posts.codeRel hq hs hd)
          (fun j hj => hlen ▸ hlt j (.tail _ hj)) h
    · exact deliverEventsFrom_ne_none hq hret hs (fun j hj => hlt j (.tail _ hj)) h

/-- **`flushNanoappEventQueues` returns with one unit of fuel more than the events queued**,
every queue empty. -/
theorem flushNanoappEventQueues_returns (hq : Quiet env Posts run) (hret : Returns env run) :
    ∀ {n : Nat} {s : EventLoop}, Accounting none s → queuedTotal s < n →
      ∃ s', flushNanoappEventQueues env run n s = some s' ∧ ∀ q ∈ s'.queues, q.2 = []
  | 0, _, _, hn => absurd hn (Nat.not_lt_zero _)
  | n + 1, s, hs, hn => by
    obtain ⟨r, hr⟩ := Option.ne_none_iff_exists'.1
      (deliverEventsFrom_ne_none hq hret (b := false) hs fun j hj => List.mem_range.1 hj)
    have hr' : deliverEvents env run s = some r := hr
    suffices ∃ s', flushNanoappEventQueues env run (n + 1) s = some s' from
      this.imp fun s' h => ⟨h, flushNanoappEventQueues_drained env Posts.codeRel hq h⟩
    simp only [flushNanoappEventQueues, hr', Option.bind_eq_bind, Option.some_bind]
    split
    · rename_i hpend
      have hlt := deliverEvents_queuedTotal_lt env hq hr' hpend
      obtain ⟨s', h, -⟩ := flushNanoappEventQueues_returns hq hret
        (accounting_preserved.deliverEvents Posts.codeRel hq hs hr') (n := n) (by omega)
      exact ⟨s', h⟩
    · exact ⟨_, rfl⟩

end EventLoop

theorem Env.NoLifecycle.returns {env : Env} (henv : env.NoLifecycle) (fuel : Nat) :
    EventLoop.Returns env (EventLoop.runRequests env fuel) :=
  ⟨fun s app e => EventLoop.runRequests_ne_none (henv.nanoappHandleEvent s app e),
    fun s callback e => EventLoop.runRequests_ne_none (henv.freeCallback s callback e)⟩

/-! ### `run()` waits only when no nanoapp has work -/

namespace Shutdown

open EventLoop

/-- What `run()` knows of the queues where it stands: at the test of `mRunning` and of
`mEvents`, `havePendingEvents` false means every queue is empty; in `mEvents.pop()`, every queue
is empty or `mEvents` is not. -/
structure RunInvariant (t : Threads) : Prop where
  pending : t.runPc = .loop ∨ t.runPc = .receive → t.havePendingEvents = false →
    ∀ q ∈ t.loop.queues, q.2 = []
  pop : t.runPc = .pop → (∀ q ∈ t.loop.queues, q.2 = []) ∨ t.loop.events ≠ []

variable {env : Env} {fuel : Nat} {t t' : Threads}

/-- Other threads only add events to `mEvents`: the invariant holds on. -/
theorem RunInvariant.frame (ht : RunInvariant t) (hpc : t'.runPc = t.runPc)
    (hp : t'.havePendingEvents = t.havePendingEvents) (hq : t'.loop.queues = t.loop.queues)
    (hev : ∃ l, t'.loop.events = t.loop.events ++ l) : RunInvariant t' := by
  obtain ⟨l, hl⟩ := hev
  refine ⟨fun h hpend => hq ▸ ht.pending (hpc ▸ h) (hp ▸ hpend), fun h => ?_⟩
  rw [hq, hl]
  exact (ht.pop (hpc ▸ h)).imp_right fun hne => by simp [hne]

/-- At any point of `run()` after its loop, the invariant says nothing. -/
theorem RunInvariant.of_runPc (h : t.runPc ≠ .loop ∧ t.runPc ≠ .receive ∧ t.runPc ≠ .pop) :
    RunInvariant t :=
  ⟨fun h' => absurd h' (by tauto), fun h' => absurd h' h.2.2⟩

theorem postEventStep_frame {s : EventLoop} {c : PostCall} {r : PostPc × EventLoop}
    (h : postEventStep env s c = some r) :
    r.2.queues = s.queues ∧ ∃ l, r.2.events = s.events ++ l := by
  unfold postEventStep at h
  split at h
  · cases h; exact ⟨rfl, [], by simp⟩
  · cases h
    have hp := allocateAndPushEvent_posts env s c.eventType c.eventData c.freeCallback
      c.senderInstanceId c.targetInstanceId
    obtain ⟨fresh, hev, -⟩ := hp.events
    exact ⟨hp.queues, fresh, hev⟩
  · cases h

theorem runStep_runInvariant (henv : env.NoLifecycle) (ht : RunInvariant t)
    (h : runStep env fuel t = some t') : RunInvariant t' := by
  unfold runStep at h
  split at h <;> rename_i hpc
  · cases h
    by_cases hr : t.loop.running
    · exact ⟨fun _ => ht.pending (.inl hpc), by simp [hr]⟩
    · exact .of_runPc (by simp [hr])
  · cases h
    refine ⟨fun h => by split_ifs at h <;> simp at h, fun hpop => ?_⟩
    by_cases hp : t.havePendingEvents
    · refine .inr fun hnil => ?_
      have hnil' : t.loop.events = [] := hnil
      simp [hp, hnil'] at hpop
    · exact .inl (ht.pending (.inr hpc) (by simpa using hp))
  · split at h
    · cases h
    · obtain ⟨s, -, rfl⟩ := Option.map_eq_some'.1 h
      exact .of_runPc (by simp)
  · obtain ⟨r, hr, rfl⟩ := Option.map_eq_some'.1 h
    refine ⟨fun _ hpend q hq => ?_, by simp⟩
    have hround := (deliverEvents_round env Posts.codeRel (henv.quiet fuel) hr).2.2
    by_contra hne
    have hpend' : r.1 = false := hpend
    exact absurd (hround.2 ⟨q, hq, hne⟩) (by simp [hpend'])
  · obtain ⟨s, -, rfl⟩ := Option.map_eq_some'.1 h
    exact .of_runPc (by simp)
  · split at h
    · cases h; exact .of_runPc (by simp)
    · obtain ⟨s, -, rfl⟩ := Option.map_eq_some'.1 h
      exact .of_runPc (by simp [hpc])
  · split_ifs at h
    · cases h; exact .of_runPc (by simp)
    · obtain ⟨s, -, rfl⟩ := Option.map_eq_some'.1 h
      exact .of_runPc (by simp [hpc])
  · cases h

theorem stopStep_frame (h : stopStep env t = some t') :
    t'.runPc = t.runPc ∧ t'.havePendingEvents = t.havePendingEvents ∧
      t'.loop.queues = t.loop.queues ∧ ∃ l, t'.loop.events = t.loop.events ++ l := by
  unfold stopStep at h
  split at h
  · cases h; exact ⟨rfl, rfl, rfl, [], by simp⟩
  · obtain ⟨r, hr, rfl⟩ := Option.map_eq_some'.1 h
    obtain ⟨hq, hev⟩ := postEventStep_frame hr
    exact ⟨rfl, rfl, hq, hev⟩
  · cases h; exact ⟨rfl, rfl, rfl, [], by simp⟩
  · cases h

/-- **Every move of every thread keeps `RunInvariant`.** -/
theorem step_runInvariant (henv : env.NoLifecycle) (ht : RunInvariant t) :
    ∀ {m : Move}, step env fuel t m = some t' → RunInvariant t'
  | .run, h => runStep_runInvariant henv ht h
  | .stop, h => by
    obtain ⟨hpc, hp, hq, hev⟩ := stopStep_frame h
    exact ht.frame hpc hp hq hev
  | .call .., h => by
    cases h
    exact ht.frame rfl rfl rfl ⟨[], by simp⟩
  | .post _, h => by
    obtain ⟨c, -, h⟩ := Option.bind_eq_some.1 h
    obtain ⟨r, hr, h⟩ := Option.bind_eq_some.1 h
    cases h
    obtain ⟨hq, hev⟩ := postEventStep_frame hr
    exact ht.frame rfl rfl hq hev

theorem interleave_runInvariant (henv : env.NoLifecycle) :
    ∀ {moves : List Move} {t t' : Threads}, RunInvariant t →
      interleave env fuel t moves = some t' → RunInvariant t'
  | [], _, _, ht, h => by cases h; exact ht
  | m :: moves, _, _, ht, h => by
    obtain ⟨t₁, h₁, h⟩ := Option.bind_eq_some.1 h
    exact interleave_runInvariant henv (step_runInvariant henv ht h₁) h

end Shutdown

namespace EventLoop

/-- **Rounds of delivery, the flush, and the wait of `run()`.** When the code delivery runs only
posts, a round of `deliverEvents` pops the head of every non-empty queue and hands it to its
nanoapp, one each, in the order of `mNanoapps`, and returns true exactly when a queue still
holds an event. When no code the loop calls starts or unloads a nanoapp, every round from a
reachable state that returns true lowers the number of queued events, so
`flushNanoappEventQueues` returns with every queue empty; and, from queues all empty, the loop
thread of `run()` reaches `mEvents.pop()` only with every queue empty or `mEvents` non-empty,
whatever `stop()` and the posting threads do. -/
theorem deliverEvents_havePendingEvents :
    (∀ (env : Env) (run : Runner), Quiet env Posts run →
      ∀ (s : EventLoop) (r : Bool × EventLoop), deliverEvents env run s = some r →
        r.2.queues = s.queues.map popHead ∧
        (∃ L, r.2.log = s.log ++ L ∧ deliveries L =
          (List.range s.nanoapps.length).filterMap fun j => s.queues[j]?.bind headDelivery) ∧
        (r.1 = true ↔ ∃ q ∈ r.2.queues, q.2 ≠ [])) ∧
    (∀ env : Env, env.NoLifecycle → ∀ (fuel : Nat) (s : EventLoop), Reachable env fuel s →
      (∀ r, deliverEvents env (runRequests env fuel) s = some r → r.1 = true →
        queuedTotal r.2 < queuedTotal s) ∧
      ∀ n, queuedTotal s < n → ∃ s', flushNanoappEventQueues env (runRequests env fuel) n s =
        some s' ∧ ∀ q ∈ s'.queues, q.2 = []) ∧
    (∀ env : Env, env.NoLifecycle → ∀ (fuel : Nat) (s : EventLoop), (∀ q ∈ s.queues, q.2 = []) →
      ∀ (moves : List Shutdown.Move) (t : Shutdown.Threads),
        Shutdown.interleave env fuel { loop := s } moves = some t → t.runPc = .pop →
          (∀ q ∈ t.loop.queues, q.2 = []) ∨ t.loop.events ≠ []) := by
  refine ⟨fun env run hq s r h => deliverEvents_round env Posts.codeRel hq h,
    fun env henv fuel s hs => ⟨fun r h hr => deliverEvents_queuedTotal_lt env (henv.quiet fuel) h hr,
      fun n hn => flushNanoappEventQueues_returns (henv.quiet fuel) (henv.returns fuel)
        (accounting_preserved.reachable henv (fun _ ids empty => Accounting.init ids empty) hs) hn⟩,
    fun env henv fuel s hs moves t h hpop => ?_⟩
  exact (Shutdown.interleave_runInvariant henv ⟨fun _ _ => hs, fun h => by cases h⟩ h).pop hpop

/-! ### Every event delivered and freed -/

/-- Every step only appends to the log. -/
theorem log_extends_preserved (s : EventLoop) : Preserved Posts fun _ t => ∃ L, t.log = s.log ++ L :=
  ⟨fun ⟨L, hL⟩ hp => ⟨L, hp.log.trans hL⟩,
    fun ⟨L, hL⟩ _ _ => ⟨L ++ _, by rw [fanOut_log, hL, List.append_assoc]⟩,
    fun ⟨L, hL⟩ _ _ _ => ⟨L ++ _, by rw [popEvent_log, hL, List.append_assoc]⟩,
    fun ⟨L, hL⟩ => ⟨L ++ _, by rw [hL, List.append_assoc]⟩, fun h _ => h⟩

/-- What the flush of the queues leaves of `s`: the log extended, every queue empty, each copy a
nanoapp was given handled, and every event distributed freed. -/
structure Drained (s s' : EventLoop) : Prop where
  log : ∃ L, s'.log = s.log ++ L
  queues : ∀ q ∈ s'.queues, q.2 = []
  handled : ∀ q ∈ s'.queues, ∀ event,
    s'.log.count (.nanoappHandleEvent q.1 event) = s'.log.count (.postEvent q.1 event)
  freed : ∀ event, s'.log.count (.distributeEvent event) = 1 → s'.log.count (.freeEvent event) = 1

/-- **Every event is delivered once to each nanoapp that takes it, then freed once, right after
its last delivery**, over every run that starts and unloads no nanoapp. Every state the run
reaches accounts for each event (`DeliveredOnce`): the distribution appends it to the queues of
exactly the nanoapps that take it, each is given it at most once and has handled every copy its
queue no longer holds, and it is freed at most once, exactly when it has been distributed and no
queue holds it, right after its distribution or a delivery. And from that state the flush of the
queues, given one unit of fuel more than the events queued, returns having delivered every copy
still queued and freed every event distributed (`Drained`). -/
theorem reachable_deliveredOnce (henv : env.NoLifecycle) {fuel : Nat} {s : EventLoop}
    (hs : Reachable env fuel s) :
    DeliveredOnce env fuel s ∧ ∃ s',
      flushNanoappEventQueues env (runRequests env fuel) (queuedTotal s + 1) s = some s' ∧
        Drained s s' := by
  have hq := henv.quiet fuel
  have h := accounting_preserved.reachable henv (fun _ ids empty => Accounting.init ids empty) hs
  obtain ⟨s', hf, hdr⟩ := flushNanoappEventQueues_returns hq (henv.returns fuel) h
    (Nat.lt_succ_self _)
  have h' := accounting_preserved.flushNanoappEventQueues Posts.codeRel hq h hf
  have hq0 (event) : queued s' event = 0 :=
    Accounting.queued_eq_zero_iff.2 fun q hq => by simp [hdr q hq]
  exact ⟨hs.deliveredOnce env henv, s', hf,
    (log_extends_preserved s).flushNanoappEventQueues Posts.codeRel hq ⟨[], by simp⟩ hf, hdr,
    fun q hq event => by simpa [hdr q hq] using h'.queue q hq event,
    fun event hd => (h'.unqueued_freed event hd (hq0 event)).resolve_right (by simp)⟩

/-- Two events posted to one nanoapp: the first distributed, handled and freed by a round of
`run()`, the second distributed and still queued, which the flush then delivers and frees. -/
theorem reachable_deliveredOnce_queued :
    ∃ s, Reachable quietEnv 2 s ∧
      s.log = [.distributeEvent 0, .postEvent 1 0, .nanoappHandleEvent 1 0, .freeEvent 0,
        .distributeEvent 1, .postEvent 1 1] ∧ s.queues = [(1, [1])] ∧
      DeliveredOnce quietEnv 2 s ∧ ∃ s',
        flushNanoappEventQueues quietEnv (runRequests quietEnv 2) (queuedTotal s + 1) s = some s' ∧
        Drained s s' := by
  obtain ⟨s, hrun, hlog, hq⟩ : ∃ s, Op.runAll quietEnv 2 { nanoapps := [⟨0x10, 1, false, [], []⟩] }
      [.postEvent 0 0 none kSystemInstanceId 1, .distributeNextEvent, .deliverEvents,
        .postEvent 0 0 none kSystemInstanceId 1, .distributeNextEvent] = some s ∧
      s.log = [.distributeEvent 0, .postEvent 1 0, .nanoappHandleEvent 1 0, .freeEvent 0,
        .distributeEvent 1, .postEvent 1 1] ∧ s.queues = [(1, [1])] := by
    simp only [Op.runAll, Op.run, postEvent, allocateAndPushEvent, quietEnv, flushInboundEventQueue,
      distributeEvent, flushNanoappEventQueues, deliverEvents, deliverEventsFrom, deliverNextEvent,
      runRequests, freeEvent, Nanoapp.takes, Nanoapp.hasPendingEvent, Event.isUnreferenced,
      Nanoapp.postEvent, queues, ↓reduceIte, beq_iff_eq, Bool.or_eq_true, Bool.false_or, Bool.not_true,
      Bool.not_false, or_true, ne_eq, not_false_eq_true, zero_lt_one, reduceCtorEq, Option.bind_eq_bind,
      Option.some_bind, Option.pure_def, Option.map_some', Option.getD_some, Option.some.injEq,
      Function.update_same, Function.update_noteq, List.foldlM_nil, List.foldlM_cons, List.nil_append,
      List.cons_append, List.mem_singleton, List.map_cons, List.map_nil, List.filter_cons_of_pos,
      List.filter_nil, List.length_singleton, List.getElem?_eq_getElem, List.getElem_cons_zero,
      List.set_cons_zero, List.head?_cons, List.tail_cons, List.isEmpty_cons, List.isEmpty_nil,
      exists_eq_left', and_self, List.range, List.range.loop, Nat.zero_add]
  have hs := (Reachable.init _ (by simp) (by simp)).runAll quietEnv hrun
  exact ⟨s, hs, hlog, hq, reachable_deliveredOnce quietEnv_noLifecycle hs⟩

end EventLoop

end Chre

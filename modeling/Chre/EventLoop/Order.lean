import Chre.EventLoop.Accounting

/-!
# Each nanoapp receives its events in the order they were posted

Pointers are allocated in increasing order (`postEvent_allocates`, `nextEventPointer_le`), so
an event posted before another has the smaller pointer. Every step of delivery keeps `Ordered`
(`ordered_preserved`): the events each nanoapp has handled are strictly increasing, and followed
by its queue they still are, and every event distributed is below every event still in
`mEvents`. `RunOrder` carries this over the starts and unloads of whole runs.
-/

namespace Chre

namespace EventLoop

/-- The events the nanoapp with this instance id has handled, in order. -/
def handledEvents (log : List Action) (instanceId : UInt32) : List Nat :=
  log.filterMap fun
    | .nanoappHandleEvent i event => if i = instanceId then some event else none
    | _ => none

@[simp] theorem handledEvents_append (log log' : List Action) (instanceId : UInt32) :
    handledEvents (log ++ log') instanceId = handledEvents log instanceId ++
      handledEvents log' instanceId := by
  simp [handledEvents]

theorem mem_handledEvents {log : List Action} {instanceId : UInt32} {event : Nat} :
    event ∈ handledEvents log instanceId ↔ .nanoappHandleEvent instanceId event ∈ log := by
  simp only [handledEvents, List.mem_filterMap]
  constructor
  · rintro ⟨a, ha, h⟩
    cases a <;> simp at h
    obtain ⟨rfl, rfl⟩ := h
    exact ha
  · exact fun h => ⟨_, h, by simp⟩

/-- Every nanoapp has handled, and holds, events in increasing order, all of them below the
events still in `mEvents`. -/
structure Ordered (s : EventLoop) : Prop where
  /-- Loaded or not, a nanoapp has handled events in increasing order. -/
  handled : ∀ i, (handledEvents s.log i).Sorted (· < ·)
  queue : ∀ q ∈ s.queues, (handledEvents s.log q.1 ++ q.2).Sorted (· < ·)
  before_events : ∀ event, s.log.count (.distributeEvent event) = 1 → ∀ m ∈ s.events, event < m

namespace Ordered

variable {p : Option Nat} {s : EventLoop}

/-- An event a nanoapp has handled or holds has been distributed. -/
theorem distributed_of_mem (h : Accounting p s) {q : UInt32 × List Nat} (hq : q ∈ s.queues)
    {event : Nat} (hmem : event ∈ handledEvents s.log q.1 ++ q.2) :
    s.log.count (.distributeEvent event) = 1 := by
  have hq' := h.queue q hq event
  refine h.distributed_of_posted (i := q.1) ?_
  rcases List.mem_append.1 hmem with hmem | hmem
  · have := List.count_pos_iff.2 (mem_handledEvents.1 hmem)
    omega
  · have := List.count_pos_iff.2 hmem
    omega

theorem posts {s' : EventLoop} (h : Accounting p s) (ho : Ordered s) (hp : Posts s s') :
    Ordered s' := by
  obtain ⟨fresh, hev, -, hfresh⟩ := hp.events
  refine ⟨by simpa only [hp.log] using ho.handled, by simpa only [hp.log, hp.queues] using ho.queue,
    fun event hd m hm => ?_⟩
  rw [hp.log] at hd
  rw [hev] at hm
  rcases List.mem_append.1 hm with hm | hm
  · exact ho.before_events event hd m hm
  · exact (h.distributed_lt event hd).trans_le (hfresh m hm).1

theorem fanOut {event : Nat} {rest : List Nat} {e : Event} (h : Accounting none s) (ho : Ordered s)
    (hev : s.events = event :: rest) :
    Ordered (EventLoop.fanOut event e { s with events := rest }) := by
  have hd := (h.events event (hev ▸ List.mem_cons_self _ _)).1
  have hsorted : (event :: rest).Sorted (· < ·) := hev ▸ h.events_sorted
  have hnone : ∀ i, handledEvents (.distributeEvent event ::
      (s.nanoapps.filter (·.takes e)).map (.postEvent ·.instanceId event)) i = [] := fun i => by
    simp [handledEvents, List.filterMap_cons, List.filterMap_map, Function.comp_def]
  refine ⟨fun i => ?_, fun q hq => ?_, fun x hx m hm => ?_⟩
  · simpa only [fanOut_log, handledEvents_append, hnone, List.append_nil] using ho.handled i
  · rw [fanOut_queues] at hq
    obtain ⟨app, happ, rfl⟩ := List.mem_map.1 hq
    have hmem : (app.instanceId, app.eventQueue) ∈ s.queues := List.mem_map_of_mem _ happ
    have hold := ho.queue _ hmem
    simp only [fanOut_log, handledEvents_append, hnone, List.append_nil]
    split_ifs
    · rw [← List.append_assoc]
      refine List.pairwise_append.2 ⟨hold, by simp, fun y hy z hz => ?_⟩
      rw [List.mem_singleton.1 hz]
      exact ho.before_events y (distributed_of_mem h hmem hy) event (hev ▸ List.mem_cons_self _ _)
    · exact hold
  · replace hm : m ∈ rest := hm
    by_cases hxe : x = event
    · exact hxe ▸ List.rel_of_sorted_cons hsorted m hm
    · exact ho.before_events x (by simpa [List.count_cons, Ne.symm hxe] using hx) m
        (hev ▸ List.mem_cons_of_mem _ hm)

theorem popEvent {i : Nat} {app : Nanoapp} {event : Nat} {e : Event} (h : Accounting none s)
    (ho : Ordered s) (happ : s.nanoapps[i]? = some app) (hhead : app.eventQueue.head? = some event) :
    Ordered (EventLoop.popEvent i app event e s) := by
  have hqi : s.queues[i]? = some (app.instanceId, app.eventQueue) := by simp [queues, happ]
  have hmem : (app.instanceId, app.eventQueue) ∈ s.queues := List.mem_iff_getElem?.2 ⟨i, hqi⟩
  obtain ⟨tail, htail⟩ : ∃ tail, app.eventQueue = event :: tail := by
    cases hq : app.eventQueue with
    | nil => simp [hq] at hhead
    | cons a l => exact ⟨l, by simpa [hq] using hhead⟩
  refine ⟨fun j => ?_, fun q hq => ?_, fun x hx m hm =>
    ho.before_events x (by simpa [List.count_cons] using hx) m hm⟩
  · by_cases hj : app.instanceId = j
    · subst hj
      have hq := ho.queue _ hmem
      rw [htail, ← List.singleton_append, ← List.append_assoc] at hq
      simpa [handledEvents] using hq.sublist (List.sublist_append_left _ _)
    · simpa [handledEvents, hj] using ho.handled j
  rw [popEvent_queues] at hq
  rcases List.mem_set_of_nodup h.ids hqi hq with rfl | ⟨hq, hne⟩
  · simpa [handledEvents, htail] using ho.queue _ hmem
  · simpa [handledEvents, hne, Ne.symm hne] using ho.queue q hq

theorem init {nanoapps : List Nanoapp} (empty : ∀ app ∈ nanoapps, app.eventQueue = []) :
    Ordered { nanoapps := nanoapps } := by
  refine ⟨fun _ => by simp [handledEvents], fun q hq => ?_, by simp⟩
  obtain ⟨app, happ, rfl⟩ := List.mem_map.1 hq
  simp [handledEvents, empty app happ]

theorem logFree {event : Nat} (ho : Ordered s) :
    Ordered { s with log := s.log ++ [.freeEvent event] } :=
  ⟨by simpa [handledEvents] using ho.handled, by simpa [handledEvents] using ho.queue,
    by simpa [List.count_cons] using ho.before_events⟩

theorem release {event : Nat} (ho : Ordered s) :
    Ordered { s with eventPool := Function.update s.eventPool event none } :=
  ⟨ho.handled, ho.queue, ho.before_events⟩

end Ordered

theorem ordered_preserved : Preserved Posts fun p s => Accounting p s ∧ Ordered s :=
  ⟨fun h hp => ⟨h.1.posts hp, Ordered.posts h.1 h.2 hp⟩,
    fun h hev he => ⟨h.1.fanOut hev he, Ordered.fanOut h.1 h.2 hev⟩,
    fun h happ hhead he => ⟨h.1.popEvent happ hhead he, Ordered.popEvent h.1 h.2 happ hhead⟩,
    fun h => ⟨h.1.logFree, h.2.logFree⟩,
    fun h hmem => ⟨h.1.release hmem, h.2.release⟩⟩

/-! ### Posting order -/

variable (env : Env)

/-- An accepted post allocates its event at `nextEventPointer` and moves past it. -/
theorem postEvent_allocates {s : EventLoop} {eventType : UInt16} {eventData : Nat}
    {freeCallback : Option Nat} {senderInstanceId targetInstanceId : UInt32}
    (h : (postEvent env s eventType eventData freeCallback senderInstanceId targetInstanceId).1) :
    (postEvent env s eventType eventData freeCallback senderInstanceId targetInstanceId).2 =
      { s with
        events := s.events ++ [s.nextEventPointer]
        eventPool := Function.update s.eventPool s.nextEventPointer
          (some ⟨eventType, eventData, freeCallback, senderInstanceId, targetInstanceId, 0⟩)
        nextEventPointer := s.nextEventPointer + 1 } := by
  unfold postEvent allocateAndPushEvent at *
  dsimp only at h ⊢
  split_ifs at h ⊢
  simp_all

/-- `nextEventPointer` never decreases along a run. -/
theorem nextEventPointer_le (henv : env.NoLifecycle) {fuel : Nat} {s s' : EventLoop} {op : Op}
    (h : op.run env fuel s = some s') : s.nextEventPointer ≤ s'.nextEventPointer := by
  have hI : Preserved Posts fun _ t => s.nextEventPointer ≤ t.nextEventPointer :=
    ⟨fun h hp => h.trans hp.nextEventPointer_le, fun h _ _ => h, fun h _ _ _ => h, id, fun h _ => h⟩
  exact hI.step henv le_rfl h

end EventLoop

end Chre

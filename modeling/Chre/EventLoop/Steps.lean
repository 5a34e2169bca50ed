import Chre.EventLoop.Frame

/-!
# The steps of delivery, and runs of the loop that start and unload nothing

Each function of the loop that moves events is cut at the points where it runs foreign code:

* `distributeEvent` builds `fanOut` (the event on the taker's queues, logged), then frees the
  event if no nanoapp took it (`distributeEvent_cases`);
* `deliverNextEvent` builds `popEvent` (the head of one queue popped, its reference dropped,
  the call of `handleEvent` logged), runs the handler, then frees the event if that was its
  last reference (`deliverNextEvent_cases`);
* `freeEvent` logs the free, runs the free callback and releases the pool slot
  (`freeEvent_cases`).

The foreign code is known only through a relation `R` it keeps between the states before and
after it (a `CodeRel`: `Posts` for what it may do to queues and the pool, `Sends` for who may
post as well), assumed of the code as `Quiet R`. A family of invariants indexed by the event a
step still has to free (`Preserved R`) that each of these pieces keeps is kept by every
function built from them, and so by every run (`Preserved.reachable`). Runs are the
operations of `Op`: posts from other threads, the two halves of an iteration of `run()`, the
two flushes, and registrations.
-/

namespace Chre

namespace EventLoop

/-- The state `distributeEvent` builds: `event` at the back of the queue of every nanoapp that
takes `e`, with one reference more for each, and the distribution logged. -/
def fanOut (event : Nat) (e : Event) (s : EventLoop) : EventLoop :=
  let takers := s.nanoapps.filter (·.takes e)
  { s with
    nanoapps := s.nanoapps.map fun app => if app.takes e then app.postEvent event else app
    eventPool := Function.update s.eventPool event
      (some { e with refCount := e.refCount + takers.length })
    log := s.log ++ .distributeEvent event :: takers.map (.postEvent ·.instanceId event) }

/-- The state in which `deliverNextEvent` calls `handleEvent`: `event` popped from the head of
the queue of `app`, at index `i`, with its reference dropped, and the call logged. -/
def popEvent (i : Nat) (app : Nanoapp) (event : Nat) (e : Event) (s : EventLoop) : EventLoop :=
  { s with
    nanoapps := s.nanoapps.set i { app with eventQueue := app.eventQueue.tail }
    eventPool := Function.update s.eventPool event (some { e with refCount := e.refCount - 1 })
    currentApp := some app.instanceId
    log := s.log ++ [.nanoappHandleEvent app.instanceId event] }

section Views

variable {event : Nat} {e : Event} {s : EventLoop} {i : Nat} {app : Nanoapp}

@[simp] theorem fanOut_events : (fanOut event e s).events = s.events := rfl

@[simp] theorem fanOut_nextEventPointer : (fanOut event e s).nextEventPointer = s.nextEventPointer :=
  rfl

@[simp] theorem fanOut_nanoapps : (fanOut event e s).nanoapps =
    s.nanoapps.map fun app => if app.takes e then app.postEvent event else app := rfl

@[simp] theorem fanOut_eventPool : (fanOut event e s).eventPool = Function.update s.eventPool event
    (some { e with refCount := e.refCount + (s.nanoapps.filter (·.takes e)).length }) := rfl

@[simp] theorem fanOut_log : (fanOut event e s).log = s.log ++
    .distributeEvent event :: (s.nanoapps.filter (·.takes e)).map (.postEvent ·.instanceId event) :=
  rfl

theorem fanOut_queues : (fanOut event e s).queues = s.nanoapps.map fun app =>
    (app.instanceId, if app.takes e then app.eventQueue ++ [event] else app.eventQueue) := by
  simp only [queues, fanOut_nanoapps, List.map_map]
  congr 1
  funext app
  by_cases h : app.takes e <;> simp [h, Nanoapp.postEvent]

@[simp] theorem popEvent_events : (popEvent i app event e s).events = s.events := rfl

@[simp] theorem popEvent_nextEventPointer :
    (popEvent i app event e s).nextEventPointer = s.nextEventPointer := rfl

@[simp] theorem popEvent_eventPool : (popEvent i app event e s).eventPool =
    Function.update s.eventPool event (some { e with refCount := e.refCount - 1 }) := rfl

@[simp] theorem popEvent_log : (popEvent i app event e s).log =
    s.log ++ [.nanoappHandleEvent app.instanceId event] := rfl

theorem popEvent_queues : (popEvent i app event e s).queues =
    s.queues.set i (app.instanceId, app.eventQueue.tail) := by
  simp [popEvent, queues, List.map_set]

end Views

/-- The nanoapp `lookupAppByInstanceId` finds is loaded. -/
theorem lookupAppByInstanceId_mem {s : EventLoop} {instanceId : UInt32} {app : Nanoapp}
    (h : s.lookupAppByInstanceId instanceId = some app) : app ∈ s.nanoapps := by
  unfold lookupAppByInstanceId at h
  split_ifs at h
  exact List.mem_of_find?_eq_some h

/-- `deliverNextEvent` runs the handler with a loaded nanoapp current. -/
theorem popEvent_currentAppLoaded {s : EventLoop} {i : Nat} {app : Nanoapp} {event : Nat}
    {e : Event} (happ : s.nanoapps[i]? = some app) : (popEvent i app event e s).CurrentAppLoaded := by
  rintro x ⟨⟩
  obtain ⟨hi, -⟩ := List.getElem?_eq_some_iff.1 happ
  exact List.mem_map.2 ⟨_, List.mem_iff_getElem?.2 ⟨i, List.getElem?_set_self hi⟩, rfl⟩

section Pieces

variable (env : Env) {run : Runner} {R : EventLoop → EventLoop → Prop}

theorem distributeEvent_cases {event : Nat} {s s' : EventLoop}
    (h : distributeEvent env run event s = some s') :
    ∃ e, s.eventPool event = some e ∧
      if e.refCount + (s.nanoapps.filter (·.takes e)).length = 0 then
        freeEvent env run event (fanOut event e s) = some s'
      else s' = fanOut event e s := by
  obtain ⟨e, he, h⟩ := Option.bind_eq_some.1 h
  refine ⟨e, he, ?_⟩
  simp only [Event.isUnreferenced, beq_iff_eq] at h
  split_ifs at h ⊢
  · exact h
  · exact (Option.some.inj h).symm

theorem freeEvent_cases (hR : CodeRel R) (hq : Quiet env R run) {event : Nat} {s s' : EventLoop}
    (h : freeEvent env run event s = some s') :
    ∃ e s₁, s.eventPool event = some e ∧ R { s with log := s.log ++ [.freeEvent event] } s₁ ∧
      s' = { s₁ with eventPool := Function.update s₁.eventPool event none } := by
  obtain ⟨e, he, h⟩ := Option.bind_eq_some.1 h
  dsimp only at h
  split at h
  · simp only [Option.bind_eq_bind, Option.some_bind, Option.some.injEq] at h
    exact ⟨e, _, he, hR.refl _, h.symm⟩
  · simp only [Option.bind_eq_bind, Option.bind_eq_some, Option.map_eq_some',
      Option.some.injEq] at h
    obtain ⟨_, ⟨s₂, h₂, rfl⟩, rfl⟩ := h
    have hc : ∀ x, ((s.lookupAppByInstanceId e.senderInstanceId).map (·.instanceId)) = some x →
        x ∈ s.instanceIds := fun x hx => by
      obtain ⟨app, happ, rfl⟩ := Option.map_eq_some'.1 hx
      exact List.mem_map_of_mem _ (lookupAppByInstanceId_mem happ)
    exact ⟨e, _, he, hR.trans (hR.trans (hR.setCurrentApp _ _ hc)
      (hq.freeCallback _ _ _ _ hc h₂)) (hR.setCurrentApp _ none (by simp)), rfl⟩

theorem deliverNextEvent_cases (hR : CodeRel R) (hq : Quiet env R run) {i : Nat} {s : EventLoop}
    {r : Bool × EventLoop} (h : deliverNextEvent env run i s = some r) :
    ∃ app event e s₁, s.nanoapps[i]? = some app ∧ app.eventQueue.head? = some event ∧
      s.eventPool event = some e ∧ R (popEvent i app event e s) s₁ ∧
      (if e.refCount - 1 = 0 then freeEvent env run event s₁ = some r.2 else r.2 = s₁) ∧
      r.1 = (r.2.nanoapps[i]?.map Nanoapp.hasPendingEvent).getD false := by
  obtain ⟨app, happ, h⟩ := Option.bind_eq_some.1 h
  obtain ⟨event, hevent, h⟩ := Option.bind_eq_some.1 h
  obtain ⟨e, he, h⟩ := Option.bind_eq_some.1 h
  obtain ⟨s₁, h₁, h⟩ := Option.bind_eq_some.1 h
  have hp := hR.trans (hq.nanoappHandleEvent _ _ _ _ (popEvent_currentAppLoaded happ) h₁)
    (hR.setCurrentApp _ none (by simp))
  refine ⟨app, event, e, _, happ, hevent, he, hp, ?_⟩
  dsimp only [Event.isUnreferenced] at h
  split at h <;> rename_i hu <;> simp only [beq_iff_eq] at hu <;>
    simp only [Option.bind_eq_bind, Option.bind_eq_some, Option.some_bind, Option.some.injEq] at h
  · obtain ⟨s₂, h₂, rfl⟩ := h
    exact ⟨by simpa [hu] using h₂, rfl⟩
  · subst h
    exact ⟨by simp [hu], rfl⟩

/-! ### Invariants kept by every step -/

/-- A family of invariants, indexed by the event a step has yet to free, that each piece of
delivery and freeing keeps: code that only posts, `fanOut` of the head of `mEvents`, `popEvent`
of the head of a queue, logging the free of the pending event, and releasing a freed event. -/
structure Preserved (R : EventLoop → EventLoop → Prop) (I : Option Nat → EventLoop → Prop) :
    Prop where
  posts : ∀ {p s s'}, I p s → R s s' → I p s'
  fanOut : ∀ {s event rest e}, I none s → s.events = event :: rest → s.eventPool event = some e →
    I (if e.refCount + (s.nanoapps.filter (·.takes e)).length = 0 then some event else none)
      (fanOut event e { s with events := rest })
  popEvent : ∀ {s i app event e}, I none s → s.nanoapps[i]? = some app →
    app.eventQueue.head? = some event → s.eventPool event = some e →
    I (if e.refCount - 1 = 0 then some event else none) (popEvent i app event e s)
  logFree : ∀ {s event}, I (some event) s → I none { s with log := s.log ++ [.freeEvent event] }
  release : ∀ {s event}, I none s → .freeEvent event ∈ s.log →
    I none { s with eventPool := Function.update s.eventPool event none }

namespace Preserved

variable {I : Option Nat → EventLoop → Prop} (hI : Preserved R I) (hR : CodeRel R) {env}
  (hq : Quiet env R run)
include hI hR hq

omit hR hq in
/-- Two families kept by every step are kept together. -/
theorem and {J : Option Nat → EventLoop → Prop} (hJ : Preserved R J) :
    Preserved R fun p s => I p s ∧ J p s :=
  ⟨fun h hp => ⟨hI.posts h.1 hp, hJ.posts h.2 hp⟩,
    fun h hev he => ⟨hI.fanOut h.1 hev he, hJ.fanOut h.2 hev he⟩,
    fun h happ hhead he => ⟨hI.popEvent h.1 happ hhead he, hJ.popEvent h.2 happ hhead he⟩,
    fun h => ⟨hI.logFree h.1, hJ.logFree h.2⟩, fun h hmem => ⟨hI.release h.1 hmem, hJ.release h.2 hmem⟩⟩

theorem freeEvent {event : Nat} {s s' : EventLoop} (hs : I (some event) s)
    (h : EventLoop.freeEvent env run event s = some s') : I none s' := by
  obtain ⟨e, s₁, -, hp, rfl⟩ := freeEvent_cases env hR hq h
  exact hI.release (hI.posts (hI.logFree hs) hp) (by rw [(hR.toPosts hp).log]; simp)

theorem distributeEvent {event : Nat} {rest : List Nat} {s s' : EventLoop} (hs : I none s)
    (hevents : s.events = event :: rest)
    (h : EventLoop.distributeEvent env run event { s with events := rest } = some s') :
    I none s' := by
  obtain ⟨e, he, h⟩ := distributeEvent_cases env h
  have h₁ := hI.fanOut hs hevents he
  split_ifs at h h₁
  · exact hI.freeEvent hR hq h₁ h
  · exact h ▸ h₁

theorem deliverNextEvent {i : Nat} {s : EventLoop} {r : Bool × EventLoop} (hs : I none s)
    (h : EventLoop.deliverNextEvent env run i s = some r) : I none r.2 := by
  obtain ⟨app, event, e, s₁, happ, hevent, he, hp, hfree, -⟩ := deliverNextEvent_cases env hR hq h
  have h₁ := hI.posts (hI.popEvent hs happ hevent he) hp
  split_ifs at hfree h₁
  · exact hI.freeEvent hR hq h₁ hfree
  · exact hfree ▸ h₁

theorem deliverEventsFrom :
    ∀ {is : List Nat} {havePendingEvents : Bool} {s : EventLoop} {r : Bool × EventLoop},
      I none s → EventLoop.deliverEventsFrom env run is havePendingEvents s = some r → I none r.2
  | [], _, _, _, hs, h => by cases h; exact hs
  | i :: is, _, s, _, hs, h => by
    obtain ⟨app, -, h⟩ := Option.bind_eq_some.1 h
    split at h
    · obtain ⟨r₁, h₁, h⟩ := Option.bind_eq_some.1 h
      exact deliverEventsFrom (hI.deliverNextEvent hR hq hs h₁) h
    · exact deliverEventsFrom hs h

theorem deliverEvents {s : EventLoop} {r : Bool × EventLoop} (hs : I none s)
    (h : EventLoop.deliverEvents env run s = some r) : I none r.2 :=
  hI.deliverEventsFrom hR hq hs h

theorem flushNanoappEventQueues :
    ∀ {fuel : Nat} {s s' : EventLoop},
      I none s → EventLoop.flushNanoappEventQueues env run fuel s = some s' → I none s'
  | 0, _, _, _, h => by cases h
  | fuel + 1, s, _, hs, h => by
    obtain ⟨r, h₁, h⟩ := Option.bind_eq_some.1 h
    have hr := hI.deliverEvents hR hq hs h₁
    split at h
    · exact flushNanoappEventQueues hr h
    · exact Option.some.inj h ▸ hr

theorem flushInboundEventQueue :
    ∀ {fuel : Nat} {s s' : EventLoop},
      I none s → EventLoop.flushInboundEventQueue env run fuel s = some s' → I none s'
  | 0, _, _, _, h => by cases h
  | fuel + 1, s, _, hs, h => by
    unfold EventLoop.flushInboundEventQueue at h
    split at h
    · exact Option.some.inj h ▸ hs
    · obtain ⟨s₁, h₁, h⟩ := Option.bind_eq_some.1 h
      exact flushInboundEventQueue (hI.distributeEvent hR hq hs ‹_› h₁) h

end Preserved

end Pieces

/-! ### Runs that start and unload nothing -/

variable (env : Env)

/-- What a run of the loop does while no nanoapp is started or unloaded. -/
inductive Op
  /-- `postEvent` called on another thread. -/
  | postEvent (eventType : UInt16) (eventData : Nat) (freeCallback : Option Nat)
      (senderInstanceId targetInstanceId : UInt32)
  /-- In `run()`: `distributeEvent(mEvents.pop())`, which waits while `mEvents` is empty. -/
  | distributeNextEvent
  /-- In `run()`: `havePendingEvents = deliverEvents()`. -/
  | deliverEvents
  | flushInboundEventQueue
  | flushNanoappEventQueues
  /-- The nanoapp with this instance id registers for a broadcast event type. -/
  | registerForBroadcastEvent (instanceId : UInt32) (eventType : UInt16)
  | unregisterForBroadcastEvent (instanceId : UInt32) (eventType : UInt16)
  deriving DecidableEq, Repr

/-- One operation, with the requests of the code it calls run with fuel `fuel`, which is also
the fuel of the flushes. -/
def Op.run (fuel : Nat) (s : EventLoop) : Op → Option EventLoop
  | .postEvent eventType eventData freeCallback senderInstanceId targetInstanceId =>
    some (EventLoop.postEvent env s eventType eventData freeCallback senderInstanceId
      targetInstanceId).2
  | .distributeNextEvent =>
    match s.events with
    | [] => none
    | event :: events =>
      distributeEvent env (runRequests env fuel) event { s with events := events }
  | .deliverEvents => (EventLoop.deliverEvents env (runRequests env fuel) s).map (·.2)
  | .flushInboundEventQueue => EventLoop.flushInboundEventQueue env (runRequests env fuel) fuel s
  | .flushNanoappEventQueues =>
    EventLoop.flushNanoappEventQueues env (runRequests env fuel) fuel s
  | .registerForBroadcastEvent instanceId eventType =>
    some (s.modifyNanoapp instanceId (·.registerForBroadcastEvent eventType))
  | .unregisterForBroadcastEvent instanceId eventType =>
    some (s.modifyNanoapp instanceId (·.unregisterForBroadcastEvent eventType))

/-- The states a run reaches from nanoapps with distinct instance ids and empty queues. -/
inductive Reachable (fuel : Nat) : EventLoop → Prop
  | init (nanoapps : List Nanoapp) (ids : (nanoapps.map (·.instanceId)).Nodup)
      (empty : ∀ app ∈ nanoapps, app.eventQueue = []) : Reachable fuel { nanoapps := nanoapps }
  | step {s s' : EventLoop} (op : Op) : Reachable fuel s → op.run env fuel s = some s' →
      Reachable fuel s'

/-- Runs the operations in order. -/
def Op.runAll (fuel : Nat) (s : EventLoop) (ops : List Op) : Option EventLoop :=
  ops.foldlM (fun s op => op.run env fuel s) s

theorem Reachable.runAll {fuel : Nat} {s : EventLoop} (hs : Reachable env fuel s) :
    ∀ {ops : List Op} {s' : EventLoop}, Op.runAll env fuel s ops = some s' → Reachable env fuel s' := by
  intro ops
  induction ops generalizing s with
  | nil => intro s' h; cases h; exact hs
  | cons op ops ih =>
    intro s' h
    obtain ⟨s₁, h₁, h₂⟩ := Option.bind_eq_some.1 h
    exact ih (hs.step op h₁) h₂

namespace Preserved

variable {I : Option Nat → EventLoop → Prop} (hI : Preserved Posts I) {env}
include hI

theorem step (henv : env.NoLifecycle) {fuel : Nat} {s s' : EventLoop} {op : Op}
    (hs : I none s) (h : op.run env fuel s = some s') : I none s' := by
  have hq := henv.quiet fuel
  cases op with
  | postEvent => cases h; exact hI.posts hs (postEvent_posts env s _ _ _ _ _)
  | distributeNextEvent =>
    simp only [Op.run] at h
    split at h
    · cases h
    · exact hI.distributeEvent Posts.codeRel hq hs ‹_› h
  | deliverEvents =>
    obtain ⟨r, h₁, rfl⟩ := Option.map_eq_some'.1 h
    exact hI.deliverEvents Posts.codeRel hq hs h₁
  | flushInboundEventQueue => exact hI.flushInboundEventQueue Posts.codeRel hq hs h
  | flushNanoappEventQueues => exact hI.flushNanoappEventQueues Posts.codeRel hq hs h
  | registerForBroadcastEvent =>
    cases h; exact hI.posts hs (modifyNanoapp_posts s _ _ fun _ => ⟨rfl, rfl⟩)
  | unregisterForBroadcastEvent =>
    cases h; exact hI.posts hs (modifyNanoapp_posts s _ _ fun _ => ⟨rfl, rfl⟩)

/-- **What every step keeps holds along every run.** -/
theorem reachable (henv : env.NoLifecycle) {fuel : Nat}
    (hinit : ∀ nanoapps : List Nanoapp, (nanoapps.map (·.instanceId)).Nodup →
      (∀ app ∈ nanoapps, app.eventQueue = []) → I none { nanoapps := nanoapps })
    {s : EventLoop} (hs : Reachable env fuel s) : I none s := by
  induction hs with
  | init nanoapps ids empty => exact hinit nanoapps ids empty
  | step _ _ h ih => exact hI.step henv ih h

end Preserved

end EventLoop

end Chre

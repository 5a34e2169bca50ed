import Mathlib.Data.List.Basic

/-!
# The event loop

A shallow embedding of `EventLoop` (`core/event_loop.cc`) and the `Event` record
(`core/include/chre/core/event.h`). Events and nanoapps live where the source keeps them:
events in the pool `eventPool`, addressed by their pointer (a `Nat`), with `mEvents` a queue of
pointers; nanoapps in `nanoapps`, each with its own queue of event pointers. `mCurrentApp` and
`mStoppingNanoapp` point at a nanoapp, which the model names by its instance id.

Code outside the loop is a parameter (`Env`): the nanoapps' entry points and the free
callbacks return the requests they make of the runtime (`Request`), computed from the state
they run in, and the containers not under `src/` answer whether they have room. The loop logs
what it does with events and nanoapps (`Action`), which is what later statements count.

A free callback may unload or start a nanoapp, which re-enters the loop's own functions. Each
function that runs foreign code is given the runner of requests as an argument (`Runner`), and
`runRequests` ties the knot, spending one unit of fuel for each nested start or unload. The
loops that may run forever (`flushInboundEventQueue`, `flushNanoappEventQueues`) take fuel as
well; `none` is a call that does not return within it, or that reaches undefined behaviour.
-/

namespace Chre

/-- `kSystemInstanceId`. -/
def kSystemInstanceId : UInt32 := 0

/-- `kBroadcastInstanceId`, `UINT32_MAX`. -/
def kBroadcastInstanceId : UInt32 := 0xFFFFFFFF

/-- An event in the pool. All fields but `refCount` are fixed when it is allocated;
`freeCallback` is a function pointer, `none` for `nullptr`. -/
structure Event where
  eventType : UInt16
  eventData : Nat
  freeCallback : Option Nat
  senderInstanceId : UInt32
  targetInstanceId : UInt32
  refCount : Nat := 0
  deriving DecidableEq, Repr

namespace Event

def isUnreferenced (e : Event) : Bool :=
  e.refCount == 0

end Event

/-- Modelled from the spec: a loaded nanoapp (the `Nanoapp` class, whose source is not under
`src/`), with its identity, the broadcast event types it is registered for, and its queue of
event pointers, head first. -/
structure Nanoapp where
  appId : UInt64
  instanceId : UInt32
  isSystemNanoapp : Bool
  registeredEvents : List UInt16 := []
  eventQueue : List Nat := []
  deriving DecidableEq, Repr

namespace Nanoapp

/-- Modelled from the spec: `Nanoapp::isRegisteredForBroadcastEvent`, membership in the set of
subscribed broadcast event types. -/
def isRegisteredForBroadcastEvent (app : Nanoapp) (eventType : UInt16) : Bool :=
  app.registeredEvents.contains eventType

/-- Modelled from the spec: `Nanoapp::registerForBroadcastEvent`. -/
def registerForBroadcastEvent (app : Nanoapp) (eventType : UInt16) : Nanoapp :=
  { app with registeredEvents := eventType :: app.registeredEvents }

/-- Modelled from the spec: `Nanoapp::unregisterForBroadcastEvent`. -/
def unregisterForBroadcastEvent (app : Nanoapp) (eventType : UInt16) : Nanoapp :=
  { app with registeredEvents := app.registeredEvents.filter (· != eventType) }

/-- Modelled from the spec: `Nanoapp::hasPendingEvent`, whether the queue is non-empty. -/
def hasPendingEvent (app : Nanoapp) : Bool :=
  !app.eventQueue.isEmpty

/-- Modelled from the spec: `Nanoapp::postEvent`, the event joins the back of the nanoapp's
queue. -/
def postEvent (app : Nanoapp) (event : Nat) : Nanoapp :=
  { app with eventQueue := app.eventQueue ++ [event] }

@[simp] theorem postEvent_instanceId (app : Nanoapp) (event : Nat) :
    (app.postEvent event).instanceId = app.instanceId := rfl

@[simp] theorem postEvent_eventQueue (app : Nanoapp) (event : Nat) :
    (app.postEvent event).eventQueue = app.eventQueue ++ [event] := rfl

/-- Whether `distributeEvent` hands the event to this nanoapp. -/
def takes (app : Nanoapp) (e : Event) : Bool :=
  (e.targetInstanceId == kBroadcastInstanceId && app.isRegisteredForBroadcastEvent e.eventType) ||
    e.targetInstanceId == app.instanceId

end Nanoapp

/-- What the loop does with events and nanoapps, in the order it does it. -/
inductive Action
  /-- `distributeEvent` takes the event. -/
  | distributeEvent (event : Nat)
  /-- The event joins the queue of the nanoapp with this instance id. -/
  | postEvent (instanceId : UInt32) (event : Nat)
  /-- The nanoapp's `handleEvent` entry point is called with the event. -/
  | nanoappHandleEvent (instanceId : UInt32) (event : Nat)
  /-- `freeEvent` runs on the event: its free callback, then its release to the pool. -/
  | freeEvent (event : Nat)
  /-- The nanoapp's `start` entry point is called and returns `success`. -/
  | nanoappStart (instanceId : UInt32) (success : Bool)
  /-- The nanoapp's `end` entry point is called. -/
  | nanoappEnd (instanceId : UInt32)
  deriving DecidableEq, Repr

/-- What code running on the loop asks of it. -/
inductive Request
  /-- `chreSendEvent` from the current nanoapp. -/
  | sendEvent (eventType : UInt16) (eventData : Nat) (freeCallback : Option Nat)
      (targetInstanceId : UInt32)
  /-- `EventLoopManager::postEvent` from system code, sent by `kSystemInstanceId`. -/
  | postEvent (eventType : UInt16) (eventData : Nat) (freeCallback : Option Nat)
      (targetInstanceId : UInt32)
  | registerForBroadcastEvent (eventType : UInt16)
  | unregisterForBroadcastEvent (eventType : UInt16)
  /-- A system callback starting a nanoapp. -/
  | startNanoapp (appId : UInt64) (isSystemNanoapp : Bool)
  /-- A system callback unloading a nanoapp. -/
  | unloadNanoapp (instanceId : UInt32) (allowSystemNanoappUnload : Bool)
  deriving DecidableEq, Repr

/-- The state of an `EventLoop`. `nextEventPointer` is where the pool allocates next, so that
every allocation is a fresh pointer; `lastInstanceId` is `EventLoopManager`'s. -/
structure EventLoop where
  events : List Nat := []
  eventPool : Nat → Option Event := fun _ => none
  nextEventPointer : Nat := 0
  nanoapps : List Nanoapp := []
  currentApp : Option UInt32 := none
  stoppingNanoapp : Option UInt32 := none
  running : Bool := true
  lastInstanceId : UInt32 := kSystemInstanceId
  log : List Action := []

/-- Code outside `src/` that the loop calls: the nanoapps' entry points, the free callbacks by
their pointer, the host bridge's `flushMessagesSentByNanoapp`, and whether `mEventPool`,
`mEvents` and `mNanoapps` have room in a given state. -/
structure Env where
  nanoappStart : EventLoop → Nanoapp → Bool × List Request
  nanoappHandleEvent : EventLoop → Nanoapp → Event → List Request
  nanoappEnd : EventLoop → Nanoapp → List Request
  freeCallback : EventLoop → Nat → Event → List Request
  flushMessagesSentByNanoapp : EventLoop → UInt64 → List Request
  allocate : EventLoop → Bool
  push : EventLoop → Bool
  prepareForPush : EventLoop → Bool

/-- How the loop runs the requests of the code it calls. -/
abbrev Runner := List Request → EventLoop → Option EventLoop

namespace EventLoop

variable (env : Env)

def lookupAppByInstanceId (s : EventLoop) (instanceId : UInt32) : Option Nanoapp :=
  if instanceId != kSystemInstanceId then s.nanoapps.find? (·.instanceId == instanceId) else none

def lookupAppByAppId (s : EventLoop) (appId : UInt64) : Option Nanoapp :=
  s.nanoapps.find? (·.appId == appId)

/-- `findNanoappInstanceIdByAppId`, with the instance id it writes out when it finds one. -/
def findNanoappInstanceIdByAppId (s : EventLoop) (appId : UInt64) : Option UInt32 :=
  (s.nanoapps.find? (·.appId == appId)).map (·.instanceId)

def currentNanoappIsStopping (s : EventLoop) : Bool :=
  s.currentApp == s.stoppingNanoapp || !s.running

/-- Modelled from the spec: `EventLoopManager::getNextInstanceId` (not under `src/`) assigns
fresh, monotonically increasing instance ids that are never the reserved ones; past the last
id below `kBroadcastInstanceId` it has none to give. -/
def getNextInstanceId (s : EventLoop) : Option UInt32 :=
  if s.lastInstanceId + 1 = kBroadcastInstanceId then none else some (s.lastInstanceId + 1)

/-- Applies `f` to the nanoapp with instance id `instanceId`. -/
def modifyNanoapp (s : EventLoop) (instanceId : UInt32) (f : Nanoapp → Nanoapp) : EventLoop :=
  { s with nanoapps := s.nanoapps.map fun app => if app.instanceId = instanceId then f app else app }

/-- The body of `EventLoop::postEvent` once it has read `mRunning` as true: `mEventPool`
allocates the event at a fresh pointer, and `mEvents` takes it. An event that `mEvents` refuses
stays allocated. -/
def allocateAndPushEvent (s : EventLoop) (eventType : UInt16) (eventData : Nat)
    (freeCallback : Option Nat) (senderInstanceId targetInstanceId : UInt32) : Bool × EventLoop :=
  if env.allocate s then
    let event := s.nextEventPointer
    let s := { s with
      eventPool := Function.update s.eventPool event
        (some ⟨eventType, eventData, freeCallback, senderInstanceId, targetInstanceId, 0⟩)
      nextEventPointer := event + 1 }
    if env.push s then (true, { s with events := s.events ++ [event] }) else (false, s)
  else (false, s)

/-- `EventLoop::postEvent`, with the result it returns. -/
def postEvent (s : EventLoop) (eventType : UInt16) (eventData : Nat) (freeCallback : Option Nat)
    (senderInstanceId targetInstanceId : UInt32) : Bool × EventLoop :=
  if s.running then
    allocateAndPushEvent env s eventType eventData freeCallback senderInstanceId targetInstanceId
  else (false, s)

section Procedures

variable (run : Runner)

/-- `freeEvent`: the free callback, if any, runs with the sender as the current nanoapp, then
the event is released to the pool. -/
def freeEvent (event : Nat) (s : EventLoop) : Option EventLoop := do
  let e ← s.eventPool event
  let s := { s with log := s.log ++ [.freeEvent event] }
  let s ← match e.freeCallback with
    | none => some s
    | some callback =>
      let s := { s with
        currentApp := (s.lookupAppByInstanceId e.senderInstanceId).map (·.instanceId) }
      (run (env.freeCallback s callback e) s).map fun s => { s with currentApp := none }
  some { s with eventPool := Function.update s.eventPool event none }

/-- `distributeEvent`: the event joins the queue of every nanoapp that takes it, each adding a
reference, and is freed at once if none does. -/
def distributeEvent (event : Nat) (s : EventLoop) : Option EventLoop := do
  let e ← s.eventPool event
  let takers := s.nanoapps.filter (·.takes e)
  let e := { e with refCount := e.refCount + takers.length }
  let s := { s with
    nanoapps := s.nanoapps.map fun app => if app.takes e then app.postEvent event else app
    eventPool := Function.update s.eventPool event (some e)
    log := s.log ++ .distributeEvent event :: takers.map (.postEvent ·.instanceId event) }
  if e.isUnreferenced then freeEvent env run event s else some s

def flushInboundEventQueue : Nat → EventLoop → Option EventLoop
  | 0, _ => none
  | fuel + 1, s =>
    match s.events with
    | [] => some s
    | event :: events => do
      let s ← distributeEvent env run event { s with events := events }
      flushInboundEventQueue fuel s

/-- `deliverNextEvent` for the nanoapp at index `i`. `processNextEvent` pops the head of its
queue, dropping the event's reference, and calls `handleEvent` with the nanoapp current; an
event left unreferenced is freed. Returns whether the nanoapp still has an event pending. -/
def deliverNextEvent (i : Nat) (s : EventLoop) : Option (Bool × EventLoop) := do
  let app ← s.nanoapps[i]?
  let event ← app.eventQueue.head?
  let e ← s.eventPool event
  let e := { e with refCount := e.refCount - 1 }
  let app := { app with eventQueue := app.eventQueue.tail }
  let s := { s with
    nanoapps := s.nanoapps.set i app
    eventPool := Function.update s.eventPool event (some e)
    currentApp := some app.instanceId
    log := s.log ++ [.nanoappHandleEvent app.instanceId event] }
  let s ← run (env.nanoappHandleEvent s app e) s
  let s := { s with currentApp := none }
  let s ← if e.isUnreferenced then freeEvent env run event s else some s
  some ((s.nanoapps[i]?.map Nanoapp.hasPendingEvent).getD false, s)

/-- The round-robin loop of `deliverEvents` over the indices `is`. -/
def deliverEventsFrom : List Nat → Bool → EventLoop → Option (Bool × EventLoop)
  | [], havePendingEvents, s => some (havePendingEvents, s)
  | i :: is, havePendingEvents, s => do
    let app ← s.nanoapps[i]?
    if app.hasPendingEvent then
      let r ← deliverNextEvent env run i s
      deliverEventsFrom is (havePendingEvents || r.1) r.2
    else deliverEventsFrom is havePendingEvents s

/-- `deliverEvents`: one round of round-robin over `mNanoapps`, whose end the range-for reads
once. -/
def deliverEvents (s : EventLoop) : Option (Bool × EventLoop) :=
  deliverEventsFrom env run (List.range s.nanoapps.length) false s

def flushNanoappEventQueues : Nat → EventLoop → Option EventLoop
  | 0, _ => none
  | fuel + 1, s => do
    let r ← deliverEvents env run s
    if r.1 then flushNanoappEventQueues fuel r.2 else some r.2

def unloadNanoappAtIndex (index : Nat) (s : EventLoop) : Option EventLoop := do
  let app ← s.nanoapps[index]?
  let s := { s with currentApp := some app.instanceId, log := s.log ++ [.nanoappEnd app.instanceId] }
  let s ← run (env.nanoappEnd s app) s
  some { s with currentApp := none, nanoapps := s.nanoapps.eraseIdx index }

/-- `unloadNanoapp`, with the result it returns. The index `i` is found before the flushes and
used after them. -/
def unloadNanoapp (fuel : Nat) (instanceId : UInt32) (allowSystemNanoappUnload : Bool)
    (s : EventLoop) : Option (Bool × EventLoop) :=
  match s.nanoapps.findIdx? (·.instanceId == instanceId) with
  | none => some (false, s)
  | some i => do
    let app ← s.nanoapps[i]?
    if !allowSystemNanoappUnload && app.isSystemNanoapp then some (false, s)
    else
      let s ← run (env.flushMessagesSentByNanoapp s app.appId) s
      let s ← flushInboundEventQueue env run fuel s
      let stopping ← s.nanoapps[i]?
      let s := { s with stoppingNanoapp := some stopping.instanceId }
      let s ← flushNanoappEventQueues env run fuel s
      let s ← unloadNanoappAtIndex env run i s
      some (true, { s with stoppingNanoapp := none })

/-- `startNanoapp` for a nanoapp with the given identity, with the result it returns. -/
def startNanoapp (appId : UInt64) (isSystemNanoapp : Bool) (s : EventLoop) :
    Option (Bool × EventLoop) :=
  if (s.findNanoappInstanceIdByAppId appId).isSome then some (false, s)
  else if !env.prepareForPush s then some (false, s)
  else do
    let instanceId ← s.getNextInstanceId
    let app : Nanoapp := ⟨appId, instanceId, isSystemNanoapp, [], []⟩
    let s := { s with
      lastInstanceId := instanceId
      nanoapps := s.nanoapps ++ [app]
      currentApp := some instanceId }
    let started := env.nanoappStart s app
    let s ← run started.2 { s with log := s.log ++ [.nanoappStart instanceId started.1] }
    let s := { s with currentApp := none }
    if started.1 then some (true, s) else some (false, { s with nanoapps := s.nanoapps.dropLast })

/-- `while (!mEvents.empty()) freeEvent(mEvents.pop())` after the loop of `run()`. -/
def purgeEvents : Nat → EventLoop → Option EventLoop
  | 0, _ => none
  | fuel + 1, s =>
    match s.events with
    | [] => some s
    | event :: events => do
      let s ← freeEvent env run event { s with events := events }
      purgeEvents fuel s

/-- `while (!mNanoapps.empty()) unloadNanoappAtIndex(mNanoapps.size() - 1)` after the loop of
`run()`. -/
def unloadNanoapps : Nat → EventLoop → Option EventLoop
  | 0, _ => none
  | fuel + 1, s =>
    if s.nanoapps.isEmpty then some s
    else do
      let s ← unloadNanoappAtIndex env run (s.nanoapps.length - 1) s
      unloadNanoapps fuel s

/-- What `run()` does once its loop has read `mRunning` as false: the nanoapps' queues flushed,
`mEvents` purged, and every nanoapp unloaded, the last first. -/
def finishRun (fuel : Nat) (s : EventLoop) : Option EventLoop := do
  let s ← flushNanoappEventQueues env run fuel s
  let s ← purgeEvents env run fuel s
  unloadNanoapps env run fuel s

/-- One request of the code running on the loop, lifecycle requests with loop fuel `fuel`.
Modelled from the spec: `chreSendEvent` (not under `src/`) sends from the current nanoapp, and
is refused while `currentNanoappIsStopping()`. -/
def interpret (fuel : Nat) (s : EventLoop) : Request → Option EventLoop
  | .sendEvent eventType eventData freeCallback targetInstanceId =>
    match s.currentApp with
    | some instanceId =>
      if s.currentNanoappIsStopping then some s
      else some (postEvent env s eventType eventData freeCallback instanceId targetInstanceId).2
    | none => some s
  | .postEvent eventType eventData freeCallback targetInstanceId =>
    some (postEvent env s eventType eventData freeCallback kSystemInstanceId targetInstanceId).2
  | .registerForBroadcastEvent eventType =>
    some (s.modifyNanoapp ((s.currentApp.getD kSystemInstanceId))
      (·.registerForBroadcastEvent eventType))
  | .unregisterForBroadcastEvent eventType =>
    some (s.modifyNanoapp ((s.currentApp.getD kSystemInstanceId))
      (·.unregisterForBroadcastEvent eventType))
  | .startNanoapp appId isSystemNanoapp =>
    (startNanoapp env run appId isSystemNanoapp s).map (·.2)
  | .unloadNanoapp instanceId allowSystemNanoappUnload =>
    (unloadNanoapp env run fuel instanceId allowSystemNanoappUnload s).map (·.2)

end Procedures

/-- Runs the requests of the code the loop calls, in order; a start or unload among them runs
the loop's functions again, with one unit of fuel less. -/
def runRequests : Nat → Runner
  | 0 => fun rs s => rs.foldlM (interpret env (fun _ _ => none) 0) s
  | fuel + 1 => fun rs s => rs.foldlM (interpret env (runRequests fuel) fuel) s

end EventLoop

/-- Code on the loop that makes no requests, with room in every container. -/
def quietEnv : Env where
  nanoappStart _ _ := (true, [])
  nanoappHandleEvent _ _ _ := []
  nanoappEnd _ _ := []
  freeCallback _ _ _ := []
  flushMessagesSentByNanoapp _ _ := []
  allocate _ := true
  push _ := true
  prepareForPush _ := true

end Chre

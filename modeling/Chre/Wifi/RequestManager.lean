import Mathlib.Data.List.Basic

/-!
# The wifi request manager's scan monitor

A shallow embedding of the scan-monitor half of `WifiRequestManager`
(`core/wifi_request_manager.cc`): the list of monitoring nanoapps `mScanMonitorNanoapps`, the
queue of pending requests `mScanMonitorStateTransitions`, and the functions that read and
update them, each under its source name.

The calls that leave the manager are given their results as arguments (`Outcome`): the
platform's `configureScanMonitor`, `DynamicVector::push_back`, `memoryAlloc` and
`EventLoopManager::postEvent`. What the manager does outside itself is appended to `log`
(`Effect`), and `FATAL_ERROR` is an `Except.error` carrying its message. `step` is one call
into the manager from outside, and `Reachable` the states that runs of such calls reach.
-/

namespace Chre

/-- `CHRE_ERROR_NONE` of the CHRE API. -/
def chreErrorNone : UInt8 := 0

/-- `CHRE_ERROR` of the CHRE API. -/
def chreError : UInt8 := 1

/-- `DynamicVector::find` (its header is not under `src/`): the index of the first element
equal to `value`, or `size()` when there is none. -/
def DynamicVector.find (v : List UInt32) (value : UInt32) : Nat :=
  v.indexOf value

/-- A request waiting in `mScanMonitorStateTransitions`. -/
structure ScanMonitorStateTransition where
  nanoappInstanceId : UInt32
  cookie : Nat
  enable : Bool
  deriving DecidableEq, Repr

/-- What the manager does outside itself. -/
inductive Effect
  /-- `mPlatformWifi.configureScanMonitor(t.enable)`, called for the request `t`, and its
  result. -/
  | configureScanMonitor (t : ScanMonitorStateTransition) (accepted : Bool)
  /-- The driver reports the scan monitor's state (`handleScanMonitorStateChangeSync`). -/
  | scanMonitorStateChange (enabled : Bool) (errorCode : UInt8)
  /-- A `CHRE_EVENT_WIFI_ASYNC_RESULT` event answering the request `t`: posted to
  `t.nanoappInstanceId`, carrying `t.cookie`, `success` and `errorCode`. -/
  | asyncResult (t : ScanMonitorStateTransition) (success : Bool) (errorCode : UInt8)
  /-- `configureScanMonitor` returned `success` for the request `t`. -/
  | configured (t : ScanMonitorStateTransition) (success : Bool)
  /-- A `CHRE_ASSERT_LOG` that failed, with its message. -/
  | assertionFailed (message : String)
  /-- `mScanMonitorNanoapps.erase(index)`, on the list when it holds `size` nanoapps. -/
  | erase (index size : Nat)
  deriving DecidableEq, Repr

/-- How an effect moves the driver's outstanding transition: a call the driver accepts starts
one, a reported state change ends it. -/
@[simp] def Effect.track (o : Option ScanMonitorStateTransition) :
    Effect → Option ScanMonitorStateTransition
  | .configureScanMonitor t accepted => if accepted then some t else o
  | .scanMonitorStateChange _ _ => none
  | _ => o

/-- The results of the calls one pass of the manager makes outside itself; all succeed by
default. -/
structure Outcome where
  configureScanMonitor : Bool := true
  pushBack : Bool := true
  memoryAlloc : Bool := true
  postEvent : Bool := true

/-- The scan-monitor state of `WifiRequestManager`, with the log of its effects. -/
structure WifiRequestManager where
  scanMonitorNanoapps : List UInt32 := []
  scanMonitorStateTransitions : List ScanMonitorStateTransition := []
  log : List Effect := []
  deriving DecidableEq, Repr

namespace WifiRequestManager

/- `kMaxScanMonitorStateTransitions`, the capacity of the `ArrayQueue` behind
`mScanMonitorStateTransitions`, is declared in a header that is not under `src/`. -/
variable (kMaxScanMonitorStateTransitions : Nat)

/-- Appends an effect to the log. -/
def record (m : WifiRequestManager) (e : Effect) : WifiRequestManager :=
  { m with log := m.log ++ [e] }

def scanMonitorIsEnabled (m : WifiRequestManager) : Bool :=
  !m.scanMonitorNanoapps.isEmpty

/-- `nanoappHasScanMonitorRequest`, with the index it writes to `nanoappIndex`: the answer is
`index == mScanMonitorNanoapps.size()`. -/
def nanoappHasScanMonitorRequest (m : WifiRequestManager) (instanceId : UInt32) : Bool × Nat :=
  let index := DynamicVector.find m.scanMonitorNanoapps instanceId
  (index == m.scanMonitorNanoapps.length, index)

def scanMonitorIsInRequestedState (m : WifiRequestManager)
    (requestedState nanoappHasRequest : Bool) : Bool :=
  requestedState == m.scanMonitorIsEnabled ||
    (!requestedState && (!nanoappHasRequest || m.scanMonitorNanoapps.length > 1))

def scanMonitorStateTransitionIsRequired (m : WifiRequestManager)
    (requestedState nanoappHasRequest : Bool) : Bool :=
  (requestedState && m.scanMonitorNanoapps.isEmpty) ||
    (!requestedState && nanoappHasRequest && m.scanMonitorNanoapps.length == 1)

def addScanMonitorRequestToQueue (m : WifiRequestManager) (nanoappInstanceId : UInt32)
    (enable : Bool) (cookie : Nat) : Bool × WifiRequestManager :=
  if m.scanMonitorStateTransitions.length < kMaxScanMonitorStateTransitions then
    (true, { m with scanMonitorStateTransitions :=
      m.scanMonitorStateTransitions ++ [⟨nanoappInstanceId, cookie, enable⟩] })
  else (false, m)

/-- `updateNanoappScanMonitoringList`; `pushBack` is the result of `push_back`. The `erase` is
logged with its index and the list's size; one at an index past the end changes nothing. -/
def updateNanoappScanMonitoringList (m : WifiRequestManager) (enable : Bool)
    (instanceId : UInt32) (pushBack : Bool) : Bool × WifiRequestManager :=
  let hasExistingRequest := (m.nanoappHasScanMonitorRequest instanceId).1
  let nanoappIndex := (m.nanoappHasScanMonitorRequest instanceId).2
  if enable then
    if !hasExistingRequest then
      if pushBack then
        (true, { m with scanMonitorNanoapps := m.scanMonitorNanoapps ++ [instanceId] })
      else (false, m)
    else (true, m)
  else if !hasExistingRequest then (false, m)
  else
    (true, { m.record (.erase nanoappIndex m.scanMonitorNanoapps.length) with
      scanMonitorNanoapps := m.scanMonitorNanoapps.eraseIdx nanoappIndex })

/-- `postScanMonitorAsyncResultEvent` for the request `t`: the list is updated only for a
success, and the event is posted only when that update, `memoryAlloc` and `postEvent`
succeed. -/
def postScanMonitorAsyncResultEvent (m : WifiRequestManager) (t : ScanMonitorStateTransition)
    (success : Bool) (errorCode : UInt8) (o : Outcome) : Bool × WifiRequestManager :=
  let updated :=
    if !success then (true, m)
    else m.updateNanoappScanMonitoringList t.enable t.nanoappInstanceId o.pushBack
  if updated.1 && o.memoryAlloc && o.postEvent then
    (true, updated.2.record (.asyncResult t success errorCode))
  else (false, updated.2)

def postScanMonitorAsyncResultEventFatal (m : WifiRequestManager)
    (t : ScanMonitorStateTransition) (success : Bool) (errorCode : UInt8) (o : Outcome) :
    Except String WifiRequestManager :=
  let posted := m.postScanMonitorAsyncResultEvent t success errorCode o
  if posted.1 then .ok posted.2
  else .error "Failed to send WiFi scan monitor async result event"

/-- `configureScanMonitor` for the nanoapp with instance id `instanceId`. The source passes
`instanceId` itself where `nanoappHasRequest` is expected, so the flag is `instanceId != 0`. -/
def configureScanMonitor (m : WifiRequestManager) (instanceId : UInt32) (enable : Bool)
    (cookie : Nat) (o : Outcome) : Bool × WifiRequestManager :=
  if !m.scanMonitorStateTransitions.isEmpty then
    m.addScanMonitorRequestToQueue kMaxScanMonitorStateTransitions instanceId enable cookie
  else if m.scanMonitorIsInRequestedState enable (instanceId != 0) then
    m.postScanMonitorAsyncResultEvent ⟨instanceId, cookie, enable⟩ true chreErrorNone o
  else if m.scanMonitorStateTransitionIsRequired enable (instanceId != 0) then
    let queued :=
      m.addScanMonitorRequestToQueue kMaxScanMonitorStateTransitions instanceId enable cookie
    if queued.1 then
      let m := queued.2.record (.configureScanMonitor ⟨instanceId, cookie, enable⟩
        o.configureScanMonitor)
      if o.configureScanMonitor then (true, m)
      else (false, { m with scanMonitorStateTransitions := m.scanMonitorStateTransitions.dropLast })
    else (false, queued.2)
  else (false, m.record (.assertionFailed "Invalid scan monitor configuration"))

/-- The `while` loop of `handleScanMonitorStateChangeSync` over the queue `pending`. The loop
owns the queue while it runs: each pass pops its head or leaves, and the queue is written back
to `mScanMonitorStateTransitions` when it leaves. `success` and `errorCode` are those computed
for the head the loop started behind; pass `i` uses the outcomes `o i`. -/
def processScanMonitorStateTransitions (success : Bool) (errorCode : UInt8) :
    List ScanMonitorStateTransition → (Nat → Outcome) → WifiRequestManager →
      Except String WifiRequestManager
  | [], _, m => .ok { m with scanMonitorStateTransitions := [] }
  | t :: rest, o, m =>
    let hasScanMonitorRequest := (m.nanoappHasScanMonitorRequest t.nanoappInstanceId).1
    if m.scanMonitorIsInRequestedState t.enable hasScanMonitorRequest then do
      let m ← m.postScanMonitorAsyncResultEventFatal t success errorCode (o 0)
      processScanMonitorStateTransitions success errorCode rest (fun i => o (i + 1)) m
    else if m.scanMonitorStateTransitionIsRequired t.enable hasScanMonitorRequest then
      let m := m.record (.configureScanMonitor t (o 0).configureScanMonitor)
      if (o 0).configureScanMonitor then .ok { m with scanMonitorStateTransitions := t :: rest }
      else do
        let m ← m.postScanMonitorAsyncResultEventFatal t false chreError (o 0)
        processScanMonitorStateTransitions success errorCode rest (fun i => o (i + 1)) m
    else
      .ok { m.record (.assertionFailed "Invalid scan monitor state") with
        scanMonitorStateTransitions := t :: rest }

def handleScanMonitorStateChangeSync (m : WifiRequestManager) (enabled : Bool)
    (errorCode : UInt8) (o : Nat → Outcome) : Except String WifiRequestManager :=
  let success := errorCode == chreErrorNone
  match m.scanMonitorStateTransitions with
  | [] =>
    processScanMonitorStateTransitions success errorCode [] o
      (m.record (.assertionFailed "handleScanMonitorStateChange called with no transitions"))
  | t :: rest => do
    let success := success && t.enable == enabled
    let m ← m.postScanMonitorAsyncResultEventFatal t success errorCode (o 0)
    processScanMonitorStateTransitions success errorCode rest (fun i => o (i + 1)) m

/-! ### Runs -/

/-- One call into the manager from outside: a nanoapp's request, or the driver's report of a
state change. -/
inductive Op
  | configureScanMonitor (nanoappInstanceId : UInt32) (enable : Bool) (cookie : Nat)
      (o : Outcome)
  | handleScanMonitorStateChangeSync (enabled : Bool) (errorCode : UInt8) (o : Nat → Outcome)

/-- Runs one call, recording what `configureScanMonitor` returns and what the driver
reports. -/
def step (m : WifiRequestManager) : Op → Except String WifiRequestManager
  | .configureScanMonitor instanceId enable cookie o =>
    let r := m.configureScanMonitor kMaxScanMonitorStateTransitions instanceId enable cookie o
    .ok (r.2.record (.configured ⟨instanceId, cookie, enable⟩ r.1))
  | .handleScanMonitorStateChangeSync enabled errorCode o =>
    (m.record (.scanMonitorStateChange enabled errorCode)).handleScanMonitorStateChangeSync
      enabled errorCode o

/-- The driver transition outstanding after `log`: the last call the driver accepted, unless a
state change has been reported since. -/
def outstandingTransition (log : List Effect) : Option ScanMonitorStateTransition :=
  log.foldl Effect.track none

/-- The states reached from the constructor's by nanoapp requests, with any outcomes, and by
state changes, which the driver reports only while it has a transition outstanding. -/
inductive Reachable : WifiRequestManager → Prop
  | init : Reachable {}
  | configureScanMonitor {m m' : WifiRequestManager} (instanceId : UInt32) (enable : Bool)
      (cookie : Nat) (o : Outcome) : Reachable m →
      m.step kMaxScanMonitorStateTransitions (.configureScanMonitor instanceId enable cookie o) =
        .ok m' → Reachable m'
  | handleScanMonitorStateChangeSync {m m' : WifiRequestManager} (enabled : Bool)
      (errorCode : UInt8) (o : Nat → Outcome) : Reachable m →
      (outstandingTransition m.log).isSome →
      m.step kMaxScanMonitorStateTransitions
        (.handleScanMonitorStateChangeSync enabled errorCode o) = .ok m' → Reachable m'

end WifiRequestManager

end Chre

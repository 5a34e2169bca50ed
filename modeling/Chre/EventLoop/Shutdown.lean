import Chre.EventLoop.Model

/-!
# Shutdown: `run()`, `stop()` and `postEvent()` on their threads

The loop thread runs `EventLoop::run`; another thread calls `stop()`, and any number of threads
call `postEvent`. The threads share `mRunning` and `mEvents` (in `Threads.loop`), and each
takes steps at the points where it reads or writes them (`RunPc`, `StopPc`, `PostPc`):
`postEvent` reads `mRunning` in one step and pushes in a later one, and `stop()` posts its
sentinel before it stores `false`. The loop thread's calls that touch neither are single
steps. `interleave` runs a list of `Move`s, each naming the thread that moves.

* `stop_returned_loop_blocked`: `stop()` can return while the loop thread waits in
  `mEvents.pop()` on an empty queue, having consumed the sentinel before `mRunning` was
  cleared; from there it waits forever (`blocked_forever`).
* `postEvent_accepted_after_run_returned`: a `postEvent` that read `mRunning` before `stop()`
  can push after `run()` has drained `mEvents` and returned; its event is never freed.
-/

namespace Chre

namespace Shutdown

/-- Where the loop thread is in `run()`. -/
inductive RunPc
  /-- Testing `mRunning` at `while (mRunning)`. -/
  | loop
  /-- Testing `!havePendingEvents || !mEvents.empty()`. -/
  | receive
  /-- In `mEvents.pop()`, which waits while `mEvents` is empty, then `distributeEvent`. -/
  | pop
  /-- At `havePendingEvents = deliverEvents()`. -/
  | deliver
  /-- At `flushNanoappEventQueues()` after the loop. -/
  | flush
  /-- In `while (!mEvents.empty()) freeEvent(mEvents.pop())`. -/
  | purge
  /-- In `while (!mNanoapps.empty()) unloadNanoappAtIndex(mNanoapps.size() - 1)`. -/
  | unload
  /-- `run()` has returned. -/
  | done
  deriving DecidableEq, Repr

/-- Where a call of `postEvent` is. -/
inductive PostPc
  /-- Testing `mRunning`. -/
  | check
  /-- Read `mRunning` as true: about to allocate and push. -/
  | push
  | returned (success : Bool)
  deriving DecidableEq, Repr

/-- Where the thread calling `stop()` is: its own `postEvent` of the sentinel, then the store
of `mRunning = false`. -/
inductive StopPc
  | idle
  | post (pc : PostPc)
  | store
  | returned
  deriving DecidableEq, Repr

/-- A call of `postEvent` in progress on some thread. -/
structure PostCall where
  eventType : UInt16
  eventData : Nat
  freeCallback : Option Nat
  senderInstanceId : UInt32
  targetInstanceId : UInt32
  pc : PostPc := .check
  deriving DecidableEq, Repr

/-- The threads' positions, with the loop they share. `havePendingEvents` is `run()`'s local. -/
structure Threads where
  loop : EventLoop
  runPc : RunPc := .loop
  havePendingEvents : Bool := false
  stopPc : StopPc := .idle
  posts : List PostCall := []

/-- Which thread moves. -/
inductive Move
  | run
  | stop
  /-- A thread calls `postEvent`. -/
  | call (eventType : UInt16) (eventData : Nat) (freeCallback : Option Nat)
      (senderInstanceId targetInstanceId : UInt32)
  /-- The `i`-th call of `postEvent` moves. -/
  | post (i : Nat)
  deriving DecidableEq, Repr

variable (env : Env) (fuel : Nat)

open EventLoop

/-- The loop thread's next step; `none` while it waits in `mEvents.pop()` and once `run()` has
returned. -/
def runStep (t : Threads) : Option Threads :=
  match t.runPc with
  | .loop => some { t with runPc := if t.loop.running then .receive else .flush }
  | .receive =>
    some { t with
      runPc := if !t.havePendingEvents || !t.loop.events.isEmpty then .pop else .deliver }
  | .pop =>
    match t.loop.events with
    | [] => none
    | event :: events =>
      (distributeEvent env (runRequests env fuel) event { t.loop with events := events }).map
        fun s => { t with loop := s, runPc := .deliver }
  | .deliver =>
    (deliverEvents env (runRequests env fuel) t.loop).map fun r =>
      { t with loop := r.2, havePendingEvents := r.1, runPc := .loop }
  | .flush =>
    (flushNanoappEventQueues env (runRequests env fuel) fuel t.loop).map fun s =>
      { t with loop := s, runPc := .purge }
  | .purge =>
    match t.loop.events with
    | [] => some { t with runPc := .unload }
    | event :: events =>
      (freeEvent env (runRequests env fuel) event { t.loop with events := events }).map
        fun s => { t with loop := s }
  | .unload =>
    if t.loop.nanoapps.isEmpty then some { t with runPc := .done }
    else (unloadNanoappAtIndex env (runRequests env fuel) (t.loop.nanoapps.length - 1)
      t.loop).map fun s => { t with loop := s }
  | .done => none

/-- One step of `postEvent` from `pc`, with the result on `loop`. -/
def postEventStep (s : EventLoop) (c : PostCall) : Option (PostPc × EventLoop) :=
  match c.pc with
  | .check => some (if s.running then .push else .returned false, s)
  | .push =>
    let r := allocateAndPushEvent env s c.eventType c.eventData c.freeCallback
      c.senderInstanceId c.targetInstanceId
    some (.returned r.1, r.2)
  | .returned _ => none

/-- The sentinel `stop()` posts. -/
def sentinel (pc : PostPc) : PostCall :=
  ⟨0, 0, none, kSystemInstanceId, kSystemInstanceId, pc⟩

def stopStep (t : Threads) : Option Threads :=
  match t.stopPc with
  | .idle => some { t with stopPc := .post .check }
  | .post pc =>
    (postEventStep env t.loop (sentinel pc)).map fun r =>
      { t with loop := r.2, stopPc := match r.1 with | .returned _ => .store | pc => .post pc }
  | .store => some { t with loop := { t.loop with running := false }, stopPc := .returned }
  | .returned => none

def step (t : Threads) : Move → Option Threads
  | .run => runStep env fuel t
  | .stop => stopStep env t
  | .call eventType eventData freeCallback senderInstanceId targetInstanceId =>
    some { t with posts := t.posts ++
      [⟨eventType, eventData, freeCallback, senderInstanceId, targetInstanceId, .check⟩] }
  | .post i => do
    let c ← t.posts[i]?
    let r ← postEventStep env t.loop c
    some { t with loop := r.2, posts := t.posts.set i { c with pc := r.1 } }

/-- Runs the moves in order; `none` if some thread named cannot move. -/
def interleave (t : Threads) (moves : List Move) : Option Threads :=
  moves.foldlM (step env fuel) t

/-! ### Stuck states -/

/-- `run()` waits in `mEvents.pop()` on an empty queue after `stop()` has returned, and no call
of `postEvent` has passed its test of `mRunning`. -/
structure Blocked (t : Threads) : Prop where
  runPc : t.runPc = .pop
  events : t.loop.events = []
  running : t.loop.running = false
  stopPc : t.stopPc = .returned
  posts : ∀ c ∈ t.posts, c.pc ≠ .push

@[simp] theorem allocateAndPushEvent_log (s : EventLoop) (eventType : UInt16) (eventData : Nat)
    (freeCallback : Option Nat) (senderInstanceId targetInstanceId : UInt32) :
    (allocateAndPushEvent env s eventType eventData freeCallback senderInstanceId
      targetInstanceId).2.log = s.log := by
  unfold allocateAndPushEvent; dsimp only; split_ifs <;> rfl

theorem postEventStep_log {s s' : EventLoop} {c : PostCall} {pc : PostPc}
    (h : postEventStep env s c = some (pc, s')) : s'.log = s.log := by
  unfold postEventStep at h
  split at h <;> cases h <;> simp

theorem Blocked.next {t t' : Threads} {m : Move} (hb : Blocked t)
    (h : Shutdown.step env fuel t m = some t') : Blocked t' := by
  cases m with
  | run => simp [Shutdown.step, runStep, hb.runPc, hb.events] at h
  | stop => simp [Shutdown.step, stopStep, hb.stopPc] at h
  | call =>
    cases h
    refine ⟨hb.runPc, hb.events, hb.running, hb.stopPc, fun c hc => ?_⟩
    rcases List.mem_append.1 hc with hc | hc
    · exact hb.posts c hc
    · simp only [List.mem_singleton] at hc
      simp [hc]
  | post i =>
    simp only [Shutdown.step, Option.bind_eq_bind, Option.bind_eq_some, Option.some.injEq] at h
    obtain ⟨c, hc, r, hr, rfl⟩ := h
    have hcpc := hb.posts c (List.getElem?_mem hc)
    unfold postEventStep at hr
    split at hr
    · cases hr
      refine ⟨hb.runPc, hb.events, hb.running, hb.stopPc, fun c' hc' => ?_⟩
      rcases List.mem_or_eq_of_mem_set hc' with hc' | rfl
      · exact hb.posts c' hc'
      · simp [hb.running]
    · contradiction
    · cases hr

/-- **A blocked loop stays blocked** under every interleaving: the loop thread never moves
again and `mEvents` stays empty, so no `postEvent` succeeds. -/
theorem blocked_forever {t t' : Threads} (hb : Blocked t) :
    ∀ {moves : List Move}, interleave env fuel t moves = some t' → Blocked t' := by
  intro moves
  induction moves generalizing t with
  | nil => intro h; cases h; exact hb
  | cons m moves ih =>
    intro h
    obtain ⟨t₁, h₁, h₂⟩ := Option.bind_eq_some.1 h
    exact ih (hb.next env fuel h₁) h₂

/-- After `run()` has returned only the other threads move, and they log nothing. -/
theorem step_log_of_done {t t' : Threads} {m : Move} (hd : t.runPc = .done)
    (h : Shutdown.step env fuel t m = some t') : t'.runPc = .done ∧ t'.loop.log = t.loop.log := by
  cases m with
  | run => simp [Shutdown.step, runStep, hd] at h
  | stop =>
    simp only [Shutdown.step, stopStep] at h
    split at h
    · cases h; exact ⟨hd, rfl⟩
    · obtain ⟨r, hr, rfl⟩ := Option.map_eq_some'.1 h
      exact ⟨hd, postEventStep_log env hr⟩
    · cases h; exact ⟨hd, rfl⟩
    · cases h
  | call => cases h; exact ⟨hd, rfl⟩
  | post i =>
    simp only [Shutdown.step, Option.bind_eq_bind, Option.bind_eq_some, Option.some.injEq] at h
    obtain ⟨c, -, r, hr, rfl⟩ := h
    exact ⟨hd, postEventStep_log env hr⟩

/-- Once `run()` has returned, the loop logs nothing more: no event is freed after it. -/
theorem log_frozen_of_done {t t' : Threads} (hd : t.runPc = .done) :
    ∀ {moves : List Move}, interleave env fuel t moves = some t' → t'.loop.log = t.loop.log := by
  intro moves
  induction moves generalizing t with
  | nil => intro h; cases h; rfl
  | cons m moves ih =>
    intro h
    obtain ⟨t₁, h₁, h₂⟩ := Option.bind_eq_some.1 h
    obtain ⟨hd₁, hl₁⟩ := step_log_of_done env fuel hd h₁
    exact (ih hd₁ h₂).trans hl₁

/-! ### Two interleavings -/

/-- The loop thread tests `mRunning` and reaches `mEvents.pop()`; `stop()` posts its sentinel;
the loop distributes it, tests `mRunning` (still true) and waits in `mEvents.pop()` again; only
then does `stop()` store `false` and return. Every continuation leaves the loop there. -/
theorem stop_returned_loop_blocked :
    ∃ moves t, interleave quietEnv 1 { loop := {} } moves = some t ∧ Blocked t ∧
      ∀ moves' t', interleave quietEnv 1 t moves' = some t' → Blocked t' := by
  have h : (interleave quietEnv 1 { loop := {} }
      [.run, .run, .stop, .stop, .stop, .run, .run, .run, .run, .stop]).map
        (fun t => (t.runPc, t.loop.events, t.loop.running, t.stopPc, t.posts)) =
      some (.pop, [], false, .returned, []) := by rfl
  obtain ⟨t, ht, hv⟩ := Option.map_eq_some'.1 h
  simp only [Prod.mk.injEq] at hv
  have hb : Blocked t := ⟨hv.1, hv.2.1, hv.2.2.1, hv.2.2.2.1, by simp [hv.2.2.2.2]⟩
  exact ⟨_, t, ht, hb, fun _ _ => blocked_forever quietEnv 1 hb⟩

/-- A thread calls `postEvent` for a broadcast and reads `mRunning` as true; `stop()` runs to
completion; `run()` leaves its loop, drains and purges `mEvents` (the sentinel) and returns;
then the call pushes its event, at pointer 1, and returns true. The event stays in `mEvents`,
and whatever the threads do next, it is never freed. -/
theorem postEvent_accepted_after_run_returned :
    ∃ moves t, interleave quietEnv 1 { loop := {} } moves = some t ∧ t.runPc = .done ∧
      t.posts.map (·.pc) = [.returned true] ∧ t.loop.events = [1] ∧
      t.loop.eventPool 1 = some ⟨1, 0, none, kSystemInstanceId, kBroadcastInstanceId, 0⟩ ∧
      ∀ moves' t', interleave quietEnv 1 t moves' = some t' → Action.freeEvent 1 ∉ t'.loop.log := by
  have h : (interleave quietEnv 1 { loop := {} }
      [.call 1 0 none kSystemInstanceId kBroadcastInstanceId, .post 0, .stop, .stop, .stop, .stop,
        .run, .run, .run, .run, .run, .post 0]).map
        (fun t => ((t.runPc, t.posts.map (·.pc), t.loop.events), t.loop.eventPool 1, t.loop.log)) =
      some ((.done, [.returned true], [1]),
        some ⟨1, 0, none, kSystemInstanceId, kBroadcastInstanceId, 0⟩, [.freeEvent 0]) := by
    rfl
  obtain ⟨t, ht, hv⟩ := Option.map_eq_some'.1 h
  simp only [Prod.mk.injEq] at hv
  obtain ⟨⟨hd, hp, he⟩, hpool, hlog⟩ := hv
  refine ⟨_, t, ht, hd, hp, he, hpool, fun _ _ h' => ?_⟩
  rw [log_frozen_of_done quietEnv 1 hd h', hlog]
  simp

end Shutdown

end Chre

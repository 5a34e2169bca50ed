import Chre.EventLoop.Unload

/-!
# Whole runs: every nanoapp started is ended once

A run is a sequence of `Job`s from the loop with no nanoapp: the operations of `Op`, with posts
from other threads sent as the system (as every caller of `postEvent` under `src/` sends them),
nanoapps started and unloaded from the top of the loop, and `stop()` clearing `mRunning`.
Every state a run reaches satisfies `Lifecycle` (`RunReachable.lifecycle`), and once `mRunning`
is false the end of `run()` unloads every nanoapp (`Lifecycle.finishRun`).

`unloadNanoapp_endsOnce` puts the pieces together: a call of `unloadNanoapp` from a reachable
state does what it is for, and `end` runs exactly once on each nanoapp whose `start` succeeded,
and never on one whose `start` failed.
-/

namespace Chre

namespace EventLoop

/-- Whether an operation that posts does so as the system, as `stop()`, the sensors and the WiFi
request manager do. -/
def Op.postsAsSystem : Op → Bool
  | .postEvent _ _ _ senderInstanceId _ => senderInstanceId == kSystemInstanceId
  | _ => true

/-- What a run does: an operation of `Op`, a nanoapp started or unloaded from the top of the
loop, or `stop()` clearing `mRunning`. -/
inductive Job
  | op (op : Op)
  | startNanoapp (appId : UInt64) (isSystemNanoapp : Bool)
  | unloadNanoapp (instanceId : UInt32) (allowSystemNanoappUnload : Bool)
  | stop
  deriving DecidableEq, Repr

variable (env : Env)

/-- One job, with the requests of the code it calls run with fuel `fuel`. -/
def Job.run (fuel : Nat) (s : EventLoop) : Job → Option EventLoop
  | .op o => if o.postsAsSystem then o.run env fuel s else none
  | .startNanoapp appId isSystemNanoapp =>
    (EventLoop.startNanoapp env (runRequests env fuel) appId isSystemNanoapp s).map (·.2)
  | .unloadNanoapp instanceId allowSystemNanoappUnload =>
    (EventLoop.unloadNanoapp env (runRequests env fuel) fuel instanceId allowSystemNanoappUnload
      s).map (·.2)
  | .stop => some { s with running := false }

/-- The states a run reaches from the loop with no nanoapp. -/
inductive RunReachable (fuel : Nat) : EventLoop → Prop
  | init : RunReachable fuel {}
  | step {s s' : EventLoop} (job : Job) : RunReachable fuel s → job.run env fuel s = some s' →
      RunReachable fuel s'

variable {env}

theorem running_preserved (b : Bool) : Preserved Sends fun _ t => t.running = b :=
  ⟨fun h hp => hp.running.trans h, fun h _ _ => h, fun h _ _ _ => h, fun h => h, fun h _ => h⟩

namespace Preserved

variable {I : Option Nat → EventLoop → Prop} (hI : Preserved Sends I)
include hI

/-- What every step keeps, an operation keeps, posts being sent as the system. -/
theorem stepAsSystem (henv : env.NoLifecycle) {fuel : Nat} {s s' : EventLoop} {op : Op}
    (hsys : op.postsAsSystem = true) (hs : I none s) (h : op.run env fuel s = some s') :
    I none s' := by
  have hq := henv.sends fuel
  cases op with
  | postEvent =>
    cases h
    exact hI.posts hs (postEvent_sends env s _ _ _ _ _ (.inl (by simpa [Op.postsAsSystem] using hsys)))
  | distributeNextEvent =>
    simp only [Op.run] at h
    split at h
    · cases h
    · exact hI.distributeEvent Sends.codeRel hq hs ‹_› h
  | deliverEvents =>
    obtain ⟨r, h₁, rfl⟩ := Option.map_eq_some'.1 h
    exact hI.deliverEvents Sends.codeRel hq hs h₁
  | flushInboundEventQueue => exact hI.flushInboundEventQueue Sends.codeRel hq hs h
  | flushNanoappEventQueues => exact hI.flushNanoappEventQueues Sends.codeRel hq hs h
  | registerForBroadcastEvent =>
    cases h; exact hI.posts hs (modifyNanoapp_sends s _ _ fun _ => ⟨rfl, rfl⟩)
  | unregisterForBroadcastEvent =>
    cases h; exact hI.posts hs (modifyNanoapp_sends s _ _ fun _ => ⟨rfl, rfl⟩)

/-- What every step keeps, and dropping the head of `mEvents` turns into the pending free of
that event, `purgeEvents` keeps. -/
theorem purgeEvents (henv : env.NoLifecycle) {fuel : Nat}
    (hdrop : ∀ {s event rest}, I none s → s.events = event :: rest →
      I (some event) { s with events := rest }) :
    ∀ {n : Nat} {s s' : EventLoop}, I none s →
      EventLoop.purgeEvents env (runRequests env fuel) n s = some s' → I none s'
  | 0, _, _, _, h => by cases h
  | n + 1, s, _, hs, h => by
    unfold EventLoop.purgeEvents at h
    split at h
    · exact Option.some.inj h ▸ hs
    · obtain ⟨s₁, h₁, h⟩ := Option.bind_eq_some.1 h
      exact purgeEvents henv hdrop (hI.freeEvent Sends.codeRel (henv.sends fuel) (hdrop hs ‹_›) h₁) h

end Preserved

/-- `purgeEvents` returns with `mEvents` empty, the queues as they were. -/
theorem purgeEvents_spec (henv : env.NoLifecycle) {fuel : Nat} :
    ∀ {n : Nat} {s s' : EventLoop}, purgeEvents env (runRequests env fuel) n s = some s' →
      s'.events = [] ∧ s'.queues = s.queues
  | 0, _, _, h => by cases h
  | n + 1, s, _, h => by
    unfold purgeEvents at h
    split at h
    · rename_i hev
      exact Option.some.inj h ▸ ⟨hev, rfl⟩
    · obtain ⟨s₁, h₁, h⟩ := Option.bind_eq_some.1 h
      obtain ⟨_, s₂, -, hp, rfl⟩ := freeEvent_cases env Posts.codeRel (henv.quiet fuel) h₁
      obtain ⟨hev, hq⟩ := purgeEvents_spec henv h
      exact ⟨hev, hq.trans hp.queues⟩

namespace Lifecycle

variable {s s' : EventLoop}

theorem init : Lifecycle {} :=
  ⟨LogLifecycle.nil, fun _ hx => by simp at hx, fun _ _ => ⟨rfl, by simp [Held, queues]⟩,
    by simp [CurrentAppLoaded]⟩

theorem stop (h : Lifecycle s) : Lifecycle { s with running := false } :=
  ⟨h.log, h.sentBeforeEnd, h.unallocated, h.currentApp⟩

theorem dropEvent (h : Lifecycle s) {event : Nat} {rest : List Nat}
    (hev : s.events = event :: rest) : Lifecycle { s with events := rest } :=
  h.of_held h.log (fun _ hx => hx) rfl
    (fun _ hp => hp.imp_left fun hp => hev ▸ List.mem_cons_of_mem _ hp)
    (fun _ e' hp => ⟨e', hp, rfl⟩) h.currentApp

/-- An unload that finds no nanoapp, or is refused one, changes nothing; any other is
`unloadNanoapp_unloaded`. -/
theorem unloadNanoapp (henv : env.NoNestedLifecycle) {fuel : Nat} {instanceId : UInt32}
    {allowSystemNanoappUnload : Bool} {r : Bool × EventLoop} (h : Lifecycle s)
    (hu : EventLoop.unloadNanoapp env (runRequests env fuel) fuel instanceId
      allowSystemNanoappUnload s = some r) : Lifecycle r.2 := by
  cases hi : s.nanoapps.findIdx? (·.instanceId == instanceId) with
  | none =>
    simp only [EventLoop.unloadNanoapp, hi, Option.some.injEq] at hu
    exact hu ▸ h
  | some i =>
    obtain ⟨hlt, hp, -⟩ := List.findIdx?_eq_some_iff_getElem.1 hi
    obtain rfl : s.nanoapps[i].instanceId = instanceId := beq_iff_eq.1 hp
    by_cases hallow : allowSystemNanoappUnload = true ∨ s.nanoapps[i].isSystemNanoapp = false
    · exact (unloadNanoapp_unloaded henv h (List.getElem_mem hlt) hallow hu).2.2
    · obtain ⟨ha, hsys⟩ := not_or.1 hallow
      simp only [EventLoop.unloadNanoapp, hi, List.getElem?_eq_getElem hlt, Option.bind_eq_bind,
        Option.some_bind, Bool.eq_false_iff.2 ha, Bool.of_not_eq_false hsys, Bool.not_false,
        Bool.and_self, ↓reduceIte, Option.some.injEq] at hu
      exact hu ▸ h

end Lifecycle

/-- While the end of `run()` unloads the nanoapps: `Lifecycle`, the loop stopped, every queue
empty, and every event held sent by the system. -/
structure Unloading (s : EventLoop) : Prop where
  lifecycle : Lifecycle s
  running : s.running = false
  drained : ∀ q ∈ s.queues, q.2 = []
  system : ∀ p e, s.Held p → s.eventPool p = some e → e.senderInstanceId = kSystemInstanceId

namespace Unloading

variable {s s' : EventLoop}

/-- `end` runs once the loop has stopped, so it posts nothing as the nanoapp. -/
theorem unloadNanoappAtIndex (henv : env.NoNestedLifecycle) {fuel i : Nat} {app : Nanoapp}
    (h : Unloading s) (happ : s.nanoapps[i]? = some app)
    (hu : EventLoop.unloadNanoappAtIndex env (runRequests env fuel) i s = some s') :
    Unloading s' := by
  have hl := h.lifecycle.unloadNanoappAtIndex henv happ (.inr h.running)
    (fun p e hp he => by
      rw [h.system p e hp he]
      exact (h.lifecycle.log.loaded_ne (List.mem_map_of_mem _ (List.mem_iff_getElem?.2 ⟨i, happ⟩))).symm)
    hu
  obtain ⟨s₁, hp₁, rfl⟩ := unloadNanoappAtIndex_sends henv happ hu
  obtain ⟨fresh, hev, -, hfresh⟩ := hp₁.events
  have hq : ∀ q ∈ (s₁.nanoapps.eraseIdx i).map (fun app => (app.instanceId, app.eventQueue)),
      q.2 = [] := fun q hq =>
    h.drained q (hp₁.queues ▸ ((List.eraseIdx_sublist _ i).map _).subset hq)
  refine ⟨hl, hp₁.running.trans h.running, hq, fun p e hp he => ?_⟩
  rcases hp with hp | ⟨q, hq', hpq⟩
  · rw [hev] at hp
    rcases List.mem_append.1 hp with hp | hpf
    · have hold := (hp₁.eventPool p).resolve_right fun hn =>
        absurd (h.lifecycle.held_lt (.inl hp)) (not_lt.2 hn.1)
      exact h.system p e (.inl hp) (hold ▸ he)
    · have hnone := (h.lifecycle.unallocated p (hfresh p hpf).1).1
      rcases hp₁.sender p e he with hsame | hsys | ⟨-, -, hrun⟩
      · simp [hsame, logEnd, hnone] at he
      · exact hsys
      · simp [logEnd, h.running] at hrun
  · simp [hq q hq'] at hpq

theorem unloadNanoapps (henv : env.NoNestedLifecycle) {fuel : Nat} :
    ∀ {n : Nat} {s s' : EventLoop}, Unloading s →
      EventLoop.unloadNanoapps env (runRequests env fuel) n s = some s' →
      Unloading s' ∧ s'.nanoapps = []
  | 0, _, _, _, h => by cases h
  | n + 1, s, _, hs, h => by
    unfold EventLoop.unloadNanoapps at h
    split_ifs at h with hempty
    · exact Option.some.inj h ▸ ⟨hs, List.isEmpty_iff.1 hempty⟩
    · obtain ⟨s₁, h₁, h⟩ := Option.bind_eq_some.1 h
      have hlt : s.nanoapps.length - 1 < s.nanoapps.length := by
        cases hn : s.nanoapps with
        | nil => simp [hn] at hempty
        | cons _ _ => simp
      exact unloadNanoapps henv
        (hs.unloadNanoappAtIndex henv (List.getElem?_eq_getElem hlt) h₁) h

end Unloading

/-- **The end of `run()` ends every nanoapp still loaded**, once `mRunning` is false. -/
theorem Lifecycle.finishRun (henv : env.NoNestedLifecycle) {fuel : Nat} {s s' : EventLoop}
    (h : Lifecycle s) (hrun : s.running = false)
    (hf : EventLoop.finishRun env (runRequests env fuel) fuel s = some s') :
    Lifecycle s' ∧ s'.nanoapps = [] := by
  obtain ⟨s₁, h₁, hf⟩ := Option.bind_eq_some.1 hf
  obtain ⟨s₂, h₂, h₃⟩ := Option.bind_eq_some.1 hf
  have hI := lifecycle_preserved.and (running_preserved false)
  have hl₁ := hI.flushNanoappEventQueues Sends.codeRel (henv.sends fuel) ⟨h, hrun⟩ h₁
  have hq₁ := flushNanoappEventQueues_drained env Posts.codeRel (henv.quiet fuel) h₁
  have hl₂ := hI.purgeEvents henv.toNoLifecycle (fun hs hev => ⟨hs.1.dropEvent hev, hs.2⟩) hl₁ h₂
  obtain ⟨hev₂, hq₂⟩ := purgeEvents_spec henv.toNoLifecycle h₂
  have hdrained : ∀ q ∈ s₂.queues, q.2 = [] := fun q hq => hq₁ q (hq₂ ▸ hq)
  obtain ⟨hu, hnil⟩ := Unloading.unloadNanoapps henv
    ⟨hl₂.1, hl₂.2, hdrained, fun p e hp _ => by
      rcases hp with hp | ⟨q, hq, hpq⟩
      · simp [hev₂] at hp
      · simp [hdrained q hq] at hpq⟩ h₃
  exact ⟨hu.lifecycle, hnil⟩

/-- **Every state a run reaches satisfies `Lifecycle`.** -/
theorem RunReachable.lifecycle (henv : env.NoNestedLifecycle) {fuel : Nat} {s : EventLoop}
    (hs : RunReachable env fuel s) : Lifecycle s := by
  induction hs with
  | init => exact Lifecycle.init
  | step job _ h ih =>
    cases job with
    | op o =>
      simp only [Job.run] at h
      split at h
      · exact lifecycle_preserved.stepAsSystem henv.toNoLifecycle ‹_› ih h
      · cases h
    | startNanoapp =>
      obtain ⟨r, hr, rfl⟩ := Option.map_eq_some'.1 h
      exact ih.startNanoapp henv hr
    | unloadNanoapp =>
      obtain ⟨r, hr, rfl⟩ := Option.map_eq_some'.1 h
      exact ih.unloadNanoapp henv hr
    | stop => cases h; exact ih.stop

/-- Runs the jobs in order. -/
def Job.runAll (env : Env) (fuel : Nat) (s : EventLoop) (jobs : List Job) : Option EventLoop :=
  jobs.foldlM (fun s job => job.run env fuel s) s

theorem RunReachable.runAll {fuel : Nat} {s : EventLoop} (hs : RunReachable env fuel s) :
    ∀ {jobs : List Job} {s' : EventLoop}, Job.runAll env fuel s jobs = some s' →
      RunReachable env fuel s' := by
  intro jobs
  induction jobs generalizing s with
  | nil => intro s' h; cases h; exact hs
  | cons job jobs ih =>
    intro s' h
    obtain ⟨s₁, h₁, h₂⟩ := Option.bind_eq_some.1 h
    exact ih (hs.step job h₁) h₂

theorem quietEnv_noNestedLifecycle : quietEnv.NoNestedLifecycle :=
  ⟨⟨fun _ _ _ => by simp [quietEnv], fun _ _ _ => by simp [quietEnv]⟩, fun _ _ => by simp [quietEnv],
    fun _ _ => by simp [quietEnv], fun _ _ => by simp [quietEnv]⟩

end EventLoop

end Chre

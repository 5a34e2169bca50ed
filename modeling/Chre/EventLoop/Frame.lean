import Chre.EventLoop.Model
import Mathlib.Data.List.Sort

/-!
# What code on the loop can do without starting or unloading a nanoapp

A nanoapp's `handleEvent` and a free callback return the requests they make of the runtime.
Without `startNanoapp` and `unloadNanoapp` among them, running them only allocates events at
fresh pointers, pushes some of them on `mEvents`, and changes broadcast registrations: the log,
every nanoapp's instance id and queue, and every event allocated before are left as they were.
`Posts` says this. `Sends` adds who may have sent the events allocated: the system, or the
current nanoapp while it may post. `runRequests_sends` proves both of `runRequests`.

Delivery (`deliverNextEvent`) and freeing (`freeEvent`) only run such code between the steps
they take themselves, so every invariant of the loop's events is proved once against `Posts`.
-/

namespace Chre

namespace Request

/-- Whether the request starts or unloads a nanoapp. -/
def isLifecycle : Request → Bool
  | .startNanoapp .. | .unloadNanoapp .. => true
  | _ => false

end Request

/-- The code that delivery and freeing run makes no lifecycle request. -/
structure Env.NoLifecycle (env : Env) : Prop where
  nanoappHandleEvent : ∀ s app e, ∀ r ∈ env.nanoappHandleEvent s app e, r.isLifecycle = false
  freeCallback : ∀ s callback e, ∀ r ∈ env.freeCallback s callback e, r.isLifecycle = false

/-- No code the loop calls makes a lifecycle request: besides the code of `Env.NoLifecycle`, a
nanoapp's `start` and `end`, and the host's flush of the messages a nanoapp sent. -/
structure Env.NoNestedLifecycle (env : Env) extends Env.NoLifecycle env : Prop where
  nanoappStart : ∀ s app, ∀ r ∈ (env.nanoappStart s app).2, r.isLifecycle = false
  nanoappEnd : ∀ s app, ∀ r ∈ env.nanoappEnd s app, r.isLifecycle = false
  flushMessagesSentByNanoapp : ∀ s appId, ∀ r ∈ env.flushMessagesSentByNanoapp s appId,
    r.isLifecycle = false

namespace EventLoop

/-- The nanoapps' queues, each under its nanoapp's instance id. -/
def queues (s : EventLoop) : List (UInt32 × List Nat) :=
  s.nanoapps.map fun app => (app.instanceId, app.eventQueue)

/-- `s'` is `s` after code on the loop that starts and unloads nothing has run. -/
structure Posts (s s' : EventLoop) : Prop where
  log : s'.log = s.log
  queues : s'.queues = s.queues
  nextEventPointer_le : s.nextEventPointer ≤ s'.nextEventPointer
  /-- Only fresh pointers change, to events with no reference. -/
  eventPool : ∀ p, s'.eventPool p = s.eventPool p ∨
    s.nextEventPointer ≤ p ∧ ∀ e, s'.eventPool p = some e → e.refCount = 0
  /-- `mEvents` grows at its back by fresh pointers, in the order they were allocated. -/
  events : ∃ fresh, s'.events = s.events ++ fresh ∧ fresh.Sorted (· < ·) ∧
    ∀ p ∈ fresh, s.nextEventPointer ≤ p ∧ p < s'.nextEventPointer
  /-- Pointers not yet allocated keep their slot. -/
  unallocated : ∀ p, s'.nextEventPointer ≤ p → s'.eventPool p = s.eventPool p
  /-- What joins `mEvents` is allocated. -/
  allocated : ∀ p ∈ s'.events, p ∈ s.events ∨ (s'.eventPool p).isSome

namespace Posts

variable {s s₁ s₂ : EventLoop}

theorem refl (s : EventLoop) : Posts s s :=
  ⟨rfl, rfl, le_rfl, fun _ => .inl rfl, ⟨[], by simp, .nil, by simp⟩, fun _ _ => rfl,
    fun _ hp => .inl hp⟩

theorem trans (h₁ : Posts s s₁) (h₂ : Posts s₁ s₂) : Posts s s₂ := by
  obtain ⟨fresh₁, he₁, hs₁, hf₁⟩ := h₁.events
  obtain ⟨fresh₂, he₂, hs₂, hf₂⟩ := h₂.events
  refine ⟨h₂.log.trans h₁.log, h₂.queues.trans h₁.queues,
    h₁.nextEventPointer_le.trans h₂.nextEventPointer_le, fun p => ?_,
    ⟨fresh₁ ++ fresh₂, by rw [he₂, he₁, List.append_assoc], ?_, fun p hp => ?_⟩,
    fun p hp => (h₂.unallocated p hp).trans (h₁.unallocated p (h₂.nextEventPointer_le.trans hp)),
    fun p hp => ?_⟩
  · rcases h₂.eventPool p with hp₂ | ⟨hle, hp₂⟩
    · rcases h₁.eventPool p with hp₁ | ⟨hle, hp₁⟩
      · exact .inl (hp₂.trans hp₁)
      · exact .inr ⟨hle, hp₂ ▸ hp₁⟩
    · exact .inr ⟨h₁.nextEventPointer_le.trans hle, hp₂⟩
  · exact List.pairwise_append.2 ⟨hs₁, hs₂, fun a ha b hb => (hf₁ a ha).2.trans_le (hf₂ b hb).1⟩
  · rcases List.mem_append.1 hp with hp | hp
    · exact ⟨(hf₁ p hp).1, (hf₁ p hp).2.trans_le h₂.nextEventPointer_le⟩
    · exact ⟨h₁.nextEventPointer_le.trans (hf₂ p hp).1, (hf₂ p hp).2⟩
  · -- allocated by the first step, it is below the pointer the second starts from
    by_cases hs : p ∈ s.events
    · exact .inl hs
    rcases h₂.allocated p hp with hp₁ | hp₂
    · rcases h₁.allocated p hp₁ with hs' | hpool
      · exact absurd hs' hs
      · rcases h₂.eventPool p with heq | ⟨hle, -⟩
        · exact .inr (heq ▸ hpool)
        · rw [he₁] at hp₁
          exact absurd hle (not_le.2 (hf₁ p ((List.mem_append.1 hp₁).resolve_left hs)).2)
    · exact .inr hp₂

/-- Setting `mCurrentApp` changes nothing `Posts` records. -/
theorem setCurrentApp (s : EventLoop) (c : Option UInt32) : Posts s { s with currentApp := c } :=
  ⟨rfl, rfl, le_rfl, fun _ => .inl rfl, ⟨[], by simp, .nil, by simp⟩, fun _ _ => rfl,
    fun _ hp => .inl hp⟩

/-- A step that changes none of what `Posts` records. -/
theorem of_eq {s' : EventLoop} (hlog : s'.log = s.log) (hq : s'.queues = s.queues)
    (hev : s'.events = s.events) (hpool : s'.eventPool = s.eventPool)
    (hnep : s'.nextEventPointer = s.nextEventPointer) : Posts s s' :=
  ⟨hlog, hq, hnep.ge, fun _ => .inl (by rw [hpool]), ⟨[], by simp [hev], .nil, by simp⟩,
    fun _ _ => by rw [hpool], fun _ hp => .inl (hev ▸ hp)⟩

end Posts

variable (env : Env)

theorem allocateAndPushEvent_posts (s : EventLoop) (eventType : UInt16) (eventData : Nat)
    (freeCallback : Option Nat) (senderInstanceId targetInstanceId : UInt32) :
    Posts s (allocateAndPushEvent env s eventType eventData freeCallback senderInstanceId
      targetInstanceId).2 := by
  unfold allocateAndPushEvent
  dsimp only
  split_ifs
  · refine ⟨rfl, rfl, by simp, fun p => ?_, ⟨[s.nextEventPointer], rfl, by simp, by simp⟩,
      fun p hp => Function.update_noteq (by simp at hp; omega) _ _, fun p hp => ?_⟩
    swap
    · rcases List.mem_append.1 hp with hp | hp
      · exact .inl hp
      · rw [List.mem_singleton.1 hp]; simp
    by_cases hp : p = s.nextEventPointer
    · subst hp; exact .inr ⟨le_rfl, by simp⟩
    · exact .inl (Function.update_noteq hp _ _)
  · refine ⟨rfl, rfl, by simp, fun p => ?_, ⟨[], by simp, .nil, by simp⟩,
      fun p hp => Function.update_noteq (by simp at hp; omega) _ _, fun _ hp => .inl hp⟩
    by_cases hp : p = s.nextEventPointer
    · subst hp; exact .inr ⟨le_rfl, by simp⟩
    · exact .inl (Function.update_noteq hp _ _)
  · exact Posts.refl s

theorem postEvent_posts (s : EventLoop) (eventType : UInt16) (eventData : Nat)
    (freeCallback : Option Nat) (senderInstanceId targetInstanceId : UInt32) :
    Posts s (postEvent env s eventType eventData freeCallback senderInstanceId
      targetInstanceId).2 := by
  unfold postEvent
  split_ifs
  · exact allocateAndPushEvent_posts env s _ _ _ _ _
  · exact Posts.refl s

/-- A change of one nanoapp that keeps its instance id and queue. -/
theorem modifyNanoapp_posts (s : EventLoop) (instanceId : UInt32) (f : Nanoapp → Nanoapp)
    (hf : ∀ app, (f app).instanceId = app.instanceId ∧ (f app).eventQueue = app.eventQueue) :
    Posts s (s.modifyNanoapp instanceId f) := by
  refine ⟨rfl, ?_, le_rfl, fun _ => .inl rfl, ⟨[], by simp [modifyNanoapp], .nil, by simp⟩,
    fun _ _ => rfl, fun _ hp => .inl hp⟩
  simp only [queues, modifyNanoapp, List.map_map]
  congr 1
  funext app
  dsimp only [Function.comp]
  split_ifs <;> simp [hf]

/-- The instance ids of the loaded nanoapps, in `mNanoapps` order. -/
def instanceIds (s : EventLoop) : List UInt32 :=
  s.nanoapps.map (·.instanceId)

theorem instanceIds_eq_map_fst (s : EventLoop) : s.instanceIds = s.queues.map Prod.fst := by
  simp [instanceIds, queues]

theorem Posts.instanceIds {s s' : EventLoop} (h : Posts s s') : s'.instanceIds = s.instanceIds := by
  rw [instanceIds_eq_map_fst, h.queues, ← instanceIds_eq_map_fst]

/-- `mCurrentApp` is unset or points at a loaded nanoapp. -/
def CurrentAppLoaded (s : EventLoop) : Prop :=
  ∀ x, s.currentApp = some x → x ∈ s.instanceIds

/-- `Posts`, where every event allocated was sent by the system or by a loaded nanoapp allowed to
post (not the stopping nanoapp, and while the loop runs), and `mCurrentApp` ends unset or at a
loaded nanoapp. -/
structure Sends (s s' : EventLoop) extends Posts s s' : Prop where
  stoppingNanoapp : s'.stoppingNanoapp = s.stoppingNanoapp
  running : s'.running = s.running
  lastInstanceId : s'.lastInstanceId = s.lastInstanceId
  currentApp : s'.currentApp = none ∨ s'.currentApp = s.currentApp ∨
    ∃ x ∈ s.instanceIds, s'.currentApp = some x
  sender : ∀ p e, s'.eventPool p = some e → s'.eventPool p = s.eventPool p ∨
    e.senderInstanceId = kSystemInstanceId ∨ e.senderInstanceId ∈ s.instanceIds ∧
      s.stoppingNanoapp ≠ some e.senderInstanceId ∧ s.running = true

namespace Sends

variable {s s₁ s₂ : EventLoop}

/-- A step that changes neither the pool nor what `Posts` records, nor the fields `Sends` reads. -/
theorem of_eventPool (hp : Posts s s₁) (hstop : s₁.stoppingNanoapp = s.stoppingNanoapp)
    (hrun : s₁.running = s.running) (hlast : s₁.lastInstanceId = s.lastInstanceId)
    (hcur : s₁.currentApp = s.currentApp) (hpool : s₁.eventPool = s.eventPool) : Sends s s₁ :=
  ⟨hp, hstop, hrun, hlast, .inr (.inl hcur), fun _ _ _ => .inl (by rw [hpool])⟩

theorem refl (s : EventLoop) : Sends s s :=
  of_eventPool (Posts.refl s) rfl rfl rfl rfl rfl

theorem trans (h₁ : Sends s s₁) (h₂ : Sends s₁ s₂) : Sends s s₂ := by
  have hids := h₁.toPosts.instanceIds
  refine ⟨h₁.toPosts.trans h₂.toPosts, h₂.stoppingNanoapp.trans h₁.stoppingNanoapp,
    h₂.running.trans h₁.running, h₂.lastInstanceId.trans h₁.lastInstanceId, ?_, fun p e hp => ?_⟩
  · rcases h₂.currentApp with h | h | ⟨x, hx, h⟩
    · exact .inl h
    · rw [h]; exact h₁.currentApp
    · exact .inr (.inr ⟨x, hids ▸ hx, h⟩)
  · rcases h₂.sender p e hp with h | h | h
    · rcases h₁.sender p e (h ▸ hp) with h' | h'
      · exact .inl (h.trans h')
      · exact .inr h'
    · exact .inr (.inl h)
    · rw [hids, h₁.stoppingNanoapp, h₁.running] at h
      exact .inr (.inr h)

/-- Setting `mCurrentApp` to nothing or to a loaded nanoapp. -/
theorem setCurrentApp (s : EventLoop) (c : Option UInt32) (hc : ∀ x, c = some x → x ∈ s.instanceIds) :
    Sends s { s with currentApp := c } := by
  refine ⟨Posts.setCurrentApp s c, rfl, rfl, rfl, ?_, fun _ _ _ => .inl rfl⟩
  cases c with
  | none => exact .inl rfl
  | some x => exact .inr (.inr ⟨x, hc x rfl, rfl⟩)

theorem currentAppLoaded (h : Sends s s₁) (hc : s.CurrentAppLoaded) : s₁.CurrentAppLoaded := by
  intro x hx
  rw [h.toPosts.instanceIds]
  rcases h.currentApp with h | h | ⟨y, hy, h⟩
  · simp [h] at hx
  · exact hc x (h ▸ hx)
  · exact Option.some.inj (h.symm.trans hx) ▸ hy

end Sends

/-- What a relation between the states before and after foreign code must allow for delivery
and freeing to be cut at that code: no step, steps one after another, and setting `mCurrentApp`
to nothing or to a loaded nanoapp. It says at least what `Posts` says. -/
structure CodeRel (R : EventLoop → EventLoop → Prop) : Prop where
  toPosts : ∀ {s s'}, R s s' → Posts s s'
  refl : ∀ s, R s s
  trans : ∀ {s₁ s₂ s₃}, R s₁ s₂ → R s₂ s₃ → R s₁ s₃
  setCurrentApp : ∀ s c, (∀ x, c = some x → x ∈ s.instanceIds) → R s { s with currentApp := c }

theorem Posts.codeRel : CodeRel Posts :=
  ⟨id, Posts.refl, Posts.trans, fun s c _ => Posts.setCurrentApp s c⟩

theorem Sends.codeRel : CodeRel Sends :=
  ⟨Sends.toPosts, Sends.refl, Sends.trans, Sends.setCurrentApp⟩

/-- `postEvent` changes `mEvents`, the pool and `nextEventPointer`, and nothing else. -/
theorem postEvent_frame (s : EventLoop) (eventType : UInt16) (eventData : Nat)
    (freeCallback : Option Nat) (senderInstanceId targetInstanceId : UInt32) :
    ∃ events eventPool nextEventPointer,
      (postEvent env s eventType eventData freeCallback senderInstanceId targetInstanceId).2 =
        { s with events := events, eventPool := eventPool, nextEventPointer := nextEventPointer } := by
  unfold postEvent allocateAndPushEvent
  dsimp only
  split_ifs
  all_goals exact ⟨_, _, _, rfl⟩

theorem postEvent_sends (s : EventLoop) (eventType : UInt16) (eventData : Nat)
    (freeCallback : Option Nat) (senderInstanceId targetInstanceId : UInt32)
    (hsender : senderInstanceId = kSystemInstanceId ∨
      senderInstanceId ∈ s.instanceIds ∧ s.stoppingNanoapp ≠ some senderInstanceId) :
    Sends s (postEvent env s eventType eventData freeCallback senderInstanceId targetInstanceId).2 := by
  obtain ⟨_, _, _, hframe⟩ := postEvent_frame env s eventType eventData freeCallback
    senderInstanceId targetInstanceId
  refine ⟨postEvent_posts env s _ _ _ _ _, by rw [hframe], by rw [hframe], by rw [hframe],
    .inr (.inl (by rw [hframe])), fun p e hp => ?_⟩
  unfold postEvent allocateAndPushEvent at hp ⊢
  dsimp only at hp ⊢
  split_ifs at hp ⊢ with hrun
  all_goals try exact .inl rfl
  all_goals
    by_cases hpn : p = s.nextEventPointer
    · subst hpn
      simp only [Function.update_same, Option.some.injEq] at hp
      subst hp
      exact .inr (hsender.imp id fun h => ⟨h.1, h.2, hrun⟩)
    · exact .inl (Function.update_noteq hpn _ _)

theorem modifyNanoapp_sends (s : EventLoop) (instanceId : UInt32) (f : Nanoapp → Nanoapp)
    (hf : ∀ app, (f app).instanceId = app.instanceId ∧ (f app).eventQueue = app.eventQueue) :
    Sends s (s.modifyNanoapp instanceId f) :=
  Sends.of_eventPool (modifyNanoapp_posts s instanceId f hf) rfl rfl rfl rfl rfl

theorem interpret_sends {run : Runner} {fuel : Nat} {s s' : EventLoop} {r : Request}
    (hr : r.isLifecycle = false) (hc : s.CurrentAppLoaded)
    (h : interpret env run fuel s r = some s') : Sends s s' := by
  cases r with
  | sendEvent =>
    simp only [interpret] at h
    split at h
    · rename_i x hx
      split_ifs at h with hstop
      · cases h; exact Sends.refl s
      · cases h
        refine postEvent_sends env s _ _ _ _ _ (.inr ⟨hc x hx, fun h => hstop ?_⟩)
        simp [currentNanoappIsStopping, hx, h]
    · cases h; exact Sends.refl s
  | postEvent => cases h; exact postEvent_sends env s _ _ _ _ _ (.inl rfl)
  | registerForBroadcastEvent =>
    cases h; exact modifyNanoapp_sends s _ _ fun _ => ⟨rfl, rfl⟩
  | unregisterForBroadcastEvent =>
    cases h; exact modifyNanoapp_sends s _ _ fun _ => ⟨rfl, rfl⟩
  | startNanoapp => simp [Request.isLifecycle] at hr
  | unloadNanoapp => simp [Request.isLifecycle] at hr

/-- **Requests that start and unload nothing only post, as the system or as the current
nanoapp while it may.** -/
theorem runRequests_sends {fuel : Nat} {rs : List Request} {s s' : EventLoop}
    (hrs : ∀ r ∈ rs, r.isLifecycle = false) (hc : s.CurrentAppLoaded)
    (h : runRequests env fuel rs s = some s') : Sends s s' := by
  have key : ∀ {run : Runner} {fuel : Nat} {rs : List Request} {s : EventLoop},
      (∀ r ∈ rs, r.isLifecycle = false) → s.CurrentAppLoaded →
      rs.foldlM (interpret env run fuel) s = some s' → Sends s s' := by
    intro run fuel rs
    induction rs with
    | nil => intro s _ _ h; cases h; exact Sends.refl _
    | cons r rs ih =>
      intro s hrs hc h
      obtain ⟨s₁, h₁, h₂⟩ := Option.bind_eq_some.1 h
      have hs₁ := interpret_sends env (hrs r (.head _)) hc h₁
      exact hs₁.trans (ih (fun r hr => hrs r (.tail _ hr)) (hs₁.currentAppLoaded hc) h₂)
  cases fuel <;> exact key hrs hc h

/-- The runner's handlers and free callbacks, started with `mCurrentApp` unset or at a loaded
nanoapp, end in a state related to their start by `R`. -/
structure Quiet (R : EventLoop → EventLoop → Prop) (run : Runner) : Prop where
  nanoappHandleEvent : ∀ s app e s', s.CurrentAppLoaded →
    run (env.nanoappHandleEvent s app e) s = some s' → R s s'
  freeCallback : ∀ s callback e s', s.CurrentAppLoaded →
    run (env.freeCallback s callback e) s = some s' → R s s'

end EventLoop

theorem Env.NoLifecycle.sends {env : Env} (henv : env.NoLifecycle) (fuel : Nat) :
    EventLoop.Quiet env EventLoop.Sends (EventLoop.runRequests env fuel) :=
  ⟨fun s app e _ hc h => EventLoop.runRequests_sends env (henv.nanoappHandleEvent s app e) hc h,
    fun s callback e _ hc h => EventLoop.runRequests_sends env (henv.freeCallback s callback e) hc h⟩

theorem Env.NoLifecycle.quiet {env : Env} (henv : env.NoLifecycle) (fuel : Nat) :
    EventLoop.Quiet env EventLoop.Posts (EventLoop.runRequests env fuel) :=
  ⟨fun s app e s' hc h => ((henv.sends fuel).nanoappHandleEvent s app e s' hc h).toPosts,
    fun s callback e s' hc h => ((henv.sends fuel).freeCallback s callback e s' hc h).toPosts⟩

end Chre

import Chre.EventLoop.EndOrder
import Chre.EventLoop.Rounds
import Chre.EventLoop.RunOrder
import Mathlib.Data.List.Count

/-!
# What the end of `run()` frees

Once its loop has read `mRunning` as false, `run()` delivers what the nanoapps' queues hold
(`flushNanoappEventQueues`), frees what is left in `mEvents` without distributing it, and unloads
the nanoapps. Delivery only adds to `mEvents` (`flushNanoappEventQueues_events`), and the flush
returns with every queue empty, so every event distributed has had its last reference dropped
and been freed (`Accounting`). The purge frees the events of `mEvents` in order, and then those
the free callbacks push behind them, at pointers not allocated before (`purgeEvents_log`). The
unloads log only the calls of `end` (`unloadNanoapps_ends`).

So when `run()` returns, each event it distributed, and each event left in `mEvents` when its
loop stopped, has been freed exactly once (`finishRun_frees_events`), whatever the code it
calls does short of starting or unloading a nanoapp.

Nor is anything posted after the loop stops, as the comment in `run()` intends: the nanoapps
the end of `run()` calls are stopping (`currentNanoappIsStopping` reads `mRunning`), and
`postEvent` refuses while `mRunning` is false. Code that allocates nothing then (`Silent`)
pushes nothing, so `run()` returns with `mEvents` empty and no event allocated since the loop
stopped (`finishRun_posts_nothing`).

And the end of `run()` does return, given enough fuel (`finishRun_returns`): the flush returns
with one unit of fuel more than the events queued, and pushes nothing while the loop is stopped;
each pass of the purge frees one event of `mEvents`, allocated as every event there is; and each
pass of the unload loop unloads one nanoapp. So from every state a run reaches, the end of
`run()` returns having ended the nanoapps in reverse order (`finishRun_ends_in_reverse`).
-/

namespace Chre

namespace EventLoop

section Delivery

variable (env : Env) {run : Runner} {R : EventLoop → EventLoop → Prop} (hR : CodeRel R)
  (hq : Quiet env R run)
include hR hq

/-- Freeing an event adds to `mEvents` only what its free callback posts. -/
theorem freeEvent_events {event : Nat} {s s' : EventLoop}
    (h : freeEvent env run event s = some s') : ∃ l, s'.events = s.events ++ l := by
  obtain ⟨_, s₁, -, hp, rfl⟩ := freeEvent_cases env hR hq h
  obtain ⟨l, hl, -⟩ := (hR.toPosts hp).events
  exact ⟨l, hl⟩

theorem deliverNextEvent_events {i : Nat} {s : EventLoop} {r : Bool × EventLoop}
    (h : deliverNextEvent env run i s = some r) : ∃ l, r.2.events = s.events ++ l := by
  obtain ⟨_, _, _, s₁, _, _, _, hp, hfree, -⟩ := deliverNextEvent_cases env hR hq h
  obtain ⟨l, hl, -⟩ := (hR.toPosts hp).events
  split_ifs at hfree
  · obtain ⟨l', hl'⟩ := freeEvent_events env hR hq hfree
    exact ⟨l ++ l', by rw [hl', hl, popEvent_events, List.append_assoc]⟩
  · exact ⟨l, by rw [hfree, hl, popEvent_events]⟩

theorem deliverEventsFrom_events :
    ∀ {is : List Nat} {havePendingEvents : Bool} {s : EventLoop} {r : Bool × EventLoop},
      deliverEventsFrom env run is havePendingEvents s = some r → ∃ l, r.2.events = s.events ++ l
  | [], _, _, _, h => by cases h; exact ⟨[], (List.append_nil _).symm⟩
  | i :: is, _, s, _, h => by
    obtain ⟨app, -, h⟩ := Option.bind_eq_some.1 h
    split at h
    · obtain ⟨r₁, h₁, h⟩ := Option.bind_eq_some.1 h
      obtain ⟨l₁, hl₁⟩ := deliverNextEvent_events env hR hq h₁
      obtain ⟨l, hl⟩ := deliverEventsFrom_events h
      exact ⟨l₁ ++ l, by rw [hl, hl₁, List.append_assoc]⟩
    · exact deliverEventsFrom_events h

/-- **The flush only adds to `mEvents`**: the events waiting there are still there, in order. -/
theorem flushNanoappEventQueues_events :
    ∀ {fuel : Nat} {s s' : EventLoop}, flushNanoappEventQueues env run fuel s = some s' →
      ∃ l, s'.events = s.events ++ l
  | 0, _, _, h => by cases h
  | fuel + 1, s, _, h => by
    obtain ⟨r, h₁, h⟩ := Option.bind_eq_some.1 h
    obtain ⟨l₁, hl₁⟩ := deliverEventsFrom_events env hR hq h₁
    split at h
    · obtain ⟨l, hl⟩ := flushNanoappEventQueues_events h
      exact ⟨l₁ ++ l, by rw [hl, hl₁, List.append_assoc]⟩
    · exact ⟨l₁, Option.some.inj h ▸ hl₁⟩

end Delivery

/-- **`purgeEvents` frees what `mEvents` holds.** It logs only frees: of the events of
`mEvents`, in order, and of those the free callbacks push behind them, all at pointers not
allocated when it starts. -/
theorem purgeEvents_log {env : Env} {run : Runner} (hq : Quiet env Posts run) :
    ∀ {n : Nat} {s s' : EventLoop}, purgeEvents env run n s = some s' →
      ∃ popped : List Nat, s'.log = s.log ++ popped.map .freeEvent ∧
        ∀ x < s.nextEventPointer, popped.count x = s.events.count x
  | 0, _, _, h => by cases h
  | n + 1, s, _, h => by
    unfold purgeEvents at h
    split at h
    · rename_i hev
      cases h
      exact ⟨[], by simp, fun x _ => by simp [hev]⟩
    · rename_i event events hev
      obtain ⟨s₁, h₁, h⟩ := Option.bind_eq_some.1 h
      obtain ⟨_, s₂, -, hp, rfl⟩ := freeEvent_cases env Posts.codeRel hq h₁
      obtain ⟨popped, hlog, hcount⟩ := purgeEvents_log hq h
      obtain ⟨fresh, hfresh, -, hbound⟩ := hp.events
      refine ⟨event :: popped, by simp [hlog, hp.log], fun x hx => ?_⟩
      -- what the free callback pushed is past every pointer allocated before
      have hx' : fresh.count x = 0 :=
        List.count_eq_zero.2 fun hmem => absurd (hbound x hmem).1 (not_le.2 hx)
      have hcount' := hcount x (lt_of_lt_of_le hx hp.nextEventPointer_le)
      simp only [hfresh, List.count_append, hx', Nat.add_zero] at hcount'
      rw [hev, List.count_cons, List.count_cons, hcount']

variable {env : Env}

/-- **`run()` frees, before it returns, each event it distributed and each left in
`mEvents`, exactly once.** From any state a run reaches, once `mRunning` is false, the end of
`run()` frees each event distributed by the time it returns, and each event waiting in `mEvents`
when the loop stopped, exactly once, whatever the code it calls does short of starting or
unloading a nanoapp. -/
theorem finishRun_frees_events (henv : env.NoNestedLifecycle) {fuel : Nat} {s s' : EventLoop}
    (hs : Reachable env fuel s)
    (hf : finishRun env (runRequests env fuel) fuel { s with running := false } = some s') :
    ∀ event, s'.log.count (.distributeEvent event) = 1 ∨ event ∈ s.events →
      s'.log.count (.freeEvent event) = 1 := by
  have hq := henv.quiet fuel
  have hacc : Accounting none { s with running := false } :=
    accounting_preserved.posts
      (accounting_preserved.reachable henv.toNoLifecycle (fun _ => Accounting.init) hs)
      (Posts.of_eq rfl rfl rfl rfl rfl)
  obtain ⟨s₁, h₁, hf⟩ := Option.bind_eq_some.1 hf
  obtain ⟨s₂, h₂, h₃⟩ := Option.bind_eq_some.1 hf
  have hacc₁ := accounting_preserved.flushNanoappEventQueues Posts.codeRel hq hacc h₁
  have hdrained := flushNanoappEventQueues_drained env Posts.codeRel hq h₁
  obtain ⟨l, hl⟩ := flushNanoappEventQueues_events env Posts.codeRel hq h₁
  obtain ⟨popped, hlog₂, hcount⟩ := purgeEvents_log hq h₂
  obtain ⟨hlog₃, -⟩ := unloadNanoapps_ends henv h₃
  -- after the flush, the purge logs only frees, and the unloads only calls of `end`
  have hdist : ∀ x, s'.log.count (.distributeEvent x) = s₁.log.count (.distributeEvent x) :=
    fun x => by simp [hlog₃, hlog₂, List.count_append, List.count_eq_zero]
  have hfree : ∀ x, s'.log.count (.freeEvent x) = s₁.log.count (.freeEvent x) + popped.count x :=
    fun x => by
      simp [hlog₃, hlog₂, List.count_append, List.count_eq_zero,
        List.count_map_of_injective _ _ (fun _ _ h => Action.freeEvent.inj h)]
  rintro x (hx | hx)
  · -- distributed: its last reference was dropped in the flush, so it was freed there
    rw [hdist] at hx
    have hnot : x ∉ s₁.events := fun hmem => by simp [(hacc₁.events x hmem).1] at hx
    have hqueued : queued s₁ x = 0 :=
      Accounting.queued_eq_zero_iff.2 fun q hq => by simp [hdrained q hq]
    have hfreed := (hacc₁.unqueued_freed x hx hqueued).resolve_right (by simp)
    rw [hfree, hcount x (hacc₁.distributed_lt x hx), List.count_eq_zero.2 hnot, hfreed]
  · -- left in `mEvents`: still there after the flush, never distributed, freed by the purge
    have hmem : x ∈ s₁.events := by
      rw [hl]
      exact List.mem_append_left _ hx
    obtain ⟨hd, hlt⟩ := hacc₁.events x hmem
    have hf₀ : s₁.log.count (.freeEvent x) = 0 := Nat.le_zero.1 (hd ▸ hacc₁.freed_le x)
    rw [hfree, hf₀, hcount x hlt, List.count_eq_one_of_mem hacc₁.events_sorted.nodup hmem]

/-- An event posted and still in `mEvents` when the loop stops is freed by the purge. -/
theorem finishRun_frees_events_pending :
    ∃ s s', Reachable quietEnv 2 s ∧ s.events = [0] ∧
      finishRun quietEnv (runRequests quietEnv 2) 2 { s with running := false } = some s' ∧
      ∀ event, s'.log.count (.distributeEvent event) = 1 ∨ event ∈ s.events →
        s'.log.count (.freeEvent event) = 1 := by
  have hs :=
    @Reachable.runAll quietEnv 2 _ (.init [] .nil (by simp)) [.postEvent 1 0 none 0 1] _ rfl
  refine ⟨_, _, hs, rfl, rfl, ?_⟩
  exact finishRun_frees_events quietEnv_noNestedLifecycle hs rfl

/-! ### Nothing is posted once the loop has stopped -/

/-- `Sends`, where nothing is allocated once `mRunning` is false. -/
structure Silent (s s' : EventLoop) extends Sends s s' : Prop where
  stopped : s.running = false → s'.nextEventPointer = s.nextEventPointer

theorem Silent.codeRel : CodeRel Silent :=
  ⟨fun h => h.toPosts, fun s => ⟨Sends.refl s, fun _ => rfl⟩,
    fun h₁ h₂ => ⟨h₁.toSends.trans h₂.toSends,
      fun hr => (h₂.stopped (h₁.running.trans hr)).trans (h₁.stopped hr)⟩,
    fun s c hc => ⟨Sends.setCurrentApp s c hc, fun _ => rfl⟩⟩

/-- `postEvent` refuses once `mRunning` is false, and leaves the loop as it was. -/
theorem postEvent_of_not_running {s : EventLoop} (hrun : s.running = false) (eventType : UInt16)
    (eventData : Nat) (freeCallback : Option Nat) (senderInstanceId targetInstanceId : UInt32) :
    (postEvent env s eventType eventData freeCallback senderInstanceId targetInstanceId).2 = s := by
  simp [postEvent, hrun]

/-- Once the loop has stopped, the current nanoapp is stopping and `postEvent` refuses, so a
request that starts and unloads nothing allocates nothing. -/
theorem interpret_silent {run : Runner} {fuel : Nat} {s s' : EventLoop} {r : Request}
    (hr : r.isLifecycle = false) (hc : s.CurrentAppLoaded)
    (h : interpret env run fuel s r = some s') : Silent s s' := by
  refine ⟨interpret_sends env hr hc h, fun hrun => ?_⟩
  cases r with
  | sendEvent =>
    -- the current nanoapp, if any, is stopping: the send is refused
    simp only [interpret, currentNanoappIsStopping, hrun, Bool.not_false, Bool.or_true,
      ite_true] at h
    split at h <;> cases h <;> rfl
  | postEvent => cases h; rw [postEvent_of_not_running hrun]
  | registerForBroadcastEvent | unregisterForBroadcastEvent => cases h; rfl
  | startNanoapp | unloadNanoapp => simp [Request.isLifecycle] at hr

theorem runRequests_silent {fuel : Nat} {rs : List Request} {s s' : EventLoop}
    (hrs : ∀ r ∈ rs, r.isLifecycle = false) (hc : s.CurrentAppLoaded)
    (h : runRequests env fuel rs s = some s') : Silent s s' := by
  have key : ∀ {run : Runner} {fuel : Nat} {rs : List Request} {s : EventLoop},
      (∀ r ∈ rs, r.isLifecycle = false) → s.CurrentAppLoaded →
      rs.foldlM (interpret env run fuel) s = some s' → Silent s s' := by
    intro run fuel rs
    induction rs with
    | nil => intro s _ _ h; cases h; exact Silent.codeRel.refl _
    | cons r rs ih =>
      intro s hrs hc h
      obtain ⟨s₁, h₁, h₂⟩ := Option.bind_eq_some.1 h
      have hs₁ := interpret_silent (hrs r (.head _)) hc h₁
      exact Silent.codeRel.trans hs₁
        (ih (fun r hr => hrs r (.tail _ hr)) (hs₁.currentAppLoaded hc) h₂)
  cases fuel <;> exact key hrs hc h

end EventLoop

theorem Env.NoLifecycle.silent {env : Env} (henv : env.NoLifecycle) (fuel : Nat) :
    EventLoop.Quiet env EventLoop.Silent (EventLoop.runRequests env fuel) :=
  ⟨fun s app e _ hc h => EventLoop.runRequests_silent (henv.nanoappHandleEvent s app e) hc h,
    fun s callback e _ hc h => EventLoop.runRequests_silent (henv.freeCallback s callback e) hc h⟩

namespace EventLoop

variable {env : Env}

/-- While the loop is stopped, delivery and freeing allocate nothing. -/
theorem stopped_preserved (k : Nat) :
    Preserved Silent fun _ t => t.running = false ∧ t.nextEventPointer = k :=
  ⟨fun h hp => ⟨hp.running.trans h.1, (hp.stopped h.1).trans h.2⟩, fun h _ _ => h,
    fun h _ _ _ => h, fun h => h, fun h _ => h⟩

theorem purgeEvents_stopped (henv : env.NoLifecycle) {fuel k : Nat} :
    ∀ {n : Nat} {s s' : EventLoop}, s.running = false ∧ s.nextEventPointer = k →
      purgeEvents env (runRequests env fuel) n s = some s' →
      s'.running = false ∧ s'.nextEventPointer = k
  | 0, _, _, _, h => by cases h
  | n + 1, s, _, hs, h => by
    unfold purgeEvents at h
    split at h
    · exact Option.some.inj h ▸ hs
    · obtain ⟨s₁, h₁, h⟩ := Option.bind_eq_some.1 h
      exact purgeEvents_stopped henv
        ((stopped_preserved k).freeEvent Silent.codeRel (henv.silent fuel) (by exact hs) h₁) h

/-- Unloading a nanoapp once the loop has stopped leaves `mEvents` as it was and allocates
nothing: its `end` cannot post. -/
theorem unloadNanoapps_silent (henv : env.NoNestedLifecycle) {fuel : Nat} :
    ∀ {n : Nat} {s s' : EventLoop}, s.running = false →
      unloadNanoapps env (runRequests env fuel) n s = some s' →
      s'.running = false ∧ s'.nextEventPointer = s.nextEventPointer ∧ s'.events = s.events
  | 0, _, _, _, h => by cases h
  | n + 1, s, _, hrun, h => by
    unfold unloadNanoapps at h
    split_ifs at h
    · cases h; exact ⟨hrun, rfl, rfl⟩
    · obtain ⟨s₁, h₁, h⟩ := Option.bind_eq_some.1 h
      obtain ⟨app, s₂, happ, h₂, rfl⟩ := unloadNanoappAtIndex_cases env h₁
      have hmem : app.instanceId ∈ s.instanceIds :=
        List.mem_map_of_mem _ (List.mem_iff_getElem?.2 ⟨_, happ⟩)
      have hs₂ : Silent (logEnd app s) s₂ :=
        runRequests_silent (henv.nanoappEnd _ app) (fun x hx => Option.some.inj hx ▸ hmem) h₂
      obtain ⟨fresh, hev, -, hfresh⟩ := hs₂.events
      have hnep := hs₂.stopped hrun
      -- nothing was allocated, so nothing was pushed
      have hnil : fresh = [] := List.eq_nil_iff_forall_not_mem.2 fun p hp => by
        have := hfresh p hp
        simp only [logEnd] at this hnep
        omega
      obtain ⟨hrun', hnep', hev'⟩ := unloadNanoapps_silent henv (by exact hs₂.running.trans hrun) h
      exact ⟨hrun', hnep'.trans hnep, by rw [hev', hev, hnil, List.append_nil]; rfl⟩

/-- **Once the loop has stopped, nothing is posted.** Whatever the code the end of `run()` calls
does, short of starting or unloading a nanoapp, it allocates no event: the nanoapps it runs are
stopping, and `postEvent` refuses while `mRunning` is false. So `run()` returns with `mEvents`
empty. -/
theorem finishRun_posts_nothing (henv : env.NoNestedLifecycle) {fuel : Nat} {s s' : EventLoop}
    (hrun : s.running = false) (hf : finishRun env (runRequests env fuel) fuel s = some s') :
    s'.nextEventPointer = s.nextEventPointer ∧ s'.events = [] := by
  obtain ⟨s₁, h₁, hf⟩ := Option.bind_eq_some.1 hf
  obtain ⟨s₂, h₂, h₃⟩ := Option.bind_eq_some.1 hf
  have hs₁ := (stopped_preserved s.nextEventPointer).flushNanoappEventQueues Silent.codeRel
    (henv.silent fuel) ⟨hrun, rfl⟩ h₁
  have hs₂ := purgeEvents_stopped henv.toNoLifecycle hs₁ h₂
  obtain ⟨-, hnep, hev⟩ := unloadNanoapps_silent henv hs₂.1 h₃
  exact ⟨hnep.trans hs₂.2, hev.trans (purgeEvents_spec henv.toNoLifecycle h₂).1⟩

/-- Code whose `end` asks to post a broadcast event as the system. -/
def endPostsEnv : Env :=
  { quietEnv with nanoappEnd := fun _ _ => [.postEvent 3 0 none kBroadcastInstanceId] }

theorem endPostsEnv_noNestedLifecycle : endPostsEnv.NoNestedLifecycle :=
  ⟨⟨fun _ _ _ => by simp [endPostsEnv, quietEnv], fun _ _ _ => by simp [endPostsEnv, quietEnv]⟩,
    fun _ _ => by simp [endPostsEnv, quietEnv],
    fun _ _ => by simp [endPostsEnv, Request.isLifecycle],
    fun _ _ => by simp [endPostsEnv, quietEnv]⟩

/-- A nanoapp whose `end` asks to post once the loop has stopped: the post is refused. -/
theorem finishRun_posts_nothing_endPosts :
    ∃ s', finishRun endPostsEnv (runRequests endPostsEnv 2) 2
        { nanoapps := [⟨0x10, 1, false, [], []⟩], lastInstanceId := 1, running := false } =
        some s' ∧ s'.nextEventPointer = 0 ∧ s'.events = [] := by
  obtain ⟨s', hf⟩ : ∃ s', finishRun endPostsEnv (runRequests endPostsEnv 2) 2
      { nanoapps := [⟨0x10, 1, false, [], []⟩], lastInstanceId := 1, running := false } =
      some s' := ⟨_, rfl⟩
  exact ⟨s', hf, finishRun_posts_nothing endPostsEnv_noNestedLifecycle rfl hf⟩

/-! ### The end of `run()` returns -/

/-- While the loop is stopped, delivery and freeing push nothing on `mEvents`. -/
theorem stoppedEvents_preserved (k m : Nat) :
    Preserved Silent fun _ t => t.running = false ∧ t.nextEventPointer = k ∧ t.events.length ≤ m :=
  ⟨fun h hp => by
      obtain ⟨fresh, hev, -, hfresh⟩ := hp.events
      have hnep := hp.stopped h.1
      have hnil : fresh = [] := List.eq_nil_iff_forall_not_mem.2 fun p hp => by
        have := hfresh p hp
        omega
      exact ⟨hp.running.trans h.1, hnep.trans h.2.1, by simpa [hev, hnil] using h.2.2⟩,
    fun h hev _ => ⟨h.1, h.2.1, by
      have := h.2.2
      rw [hev, List.length_cons] at this
      exact Nat.le_of_succ_le this⟩,
    fun h _ _ _ => h, fun h => h, fun h _ => h⟩

/-- With the loop stopped, `purgeEvents` returns given fuel past the length of `mEvents`, every
event there allocated. -/
theorem purgeEvents_returns (henv : env.NoLifecycle) {fuel : Nat} :
    ∀ {n : Nat} {s : EventLoop}, s.running = false → s.events.length < n →
      s.events.Sorted (· < ·) → (∀ p ∈ s.events, p < s.nextEventPointer ∧ (s.eventPool p).isSome) →
      ∃ s', purgeEvents env (runRequests env fuel) n s = some s'
  | 0, _, _, hn, _, _ => absurd hn (Nat.not_lt_zero _)
  | n + 1, s, hrun, hn, hsorted, hpool => by
    unfold purgeEvents
    split
    · exact ⟨s, rfl⟩
    rename_i event events hev
    rw [hev] at hn hsorted hpool
    obtain ⟨s₁, h₁⟩ := Option.ne_none_iff_exists'.1 (freeEvent_ne_none (henv.returns fuel)
      (s := { s with events := events }) (Option.isSome_iff_ne_none.1 (hpool event (.head _)).2))
    obtain ⟨_, s₂, -, hs₂, rfl⟩ := freeEvent_cases env Silent.codeRel (henv.silent fuel) h₁
    -- the free callback runs while the loop is stopped: it pushes nothing
    obtain ⟨fresh, hev₂, -, hfresh⟩ := hs₂.events
    have hnep := hs₂.stopped hrun
    obtain rfl : fresh = [] := List.eq_nil_iff_forall_not_mem.2 fun p hp => by
      have := hfresh p hp
      simp only at this hnep
      omega
    rw [List.append_nil] at hev₂
    have hpool₂ : ∀ p ∈ events, p < s₂.nextEventPointer ∧
        (Function.update s₂.eventPool event none p).isSome := fun p hp => by
      have hne : p ≠ event := (ne_of_lt (List.rel_of_sorted_cons hsorted p hp)).symm
      have hlt := (hpool p (.tail _ hp)).1
      rw [Function.update_noteq hne, (hs₂.eventPool p).resolve_right fun hn => absurd hn.1 (not_le.2 hlt),
        hnep]
      exact ⟨hlt, (hpool p (.tail _ hp)).2⟩
    obtain ⟨s', h'⟩ := purgeEvents_returns henv (n := n)
      (s := { s₂ with eventPool := Function.update s₂.eventPool event none })
      (hs₂.running.trans hrun) (by simp only [hev₂]; simp at hn; omega)
      (by simpa only [hev₂] using hsorted.of_cons) (by simpa only [hev₂] using hpool₂)
    exact ⟨s', by simp only [h₁, Option.bind_eq_bind, Option.some_bind]; exact h'⟩

/-- The unload loop of `run()` returns given fuel past the number of nanoapps. -/
theorem unloadNanoapps_returns (henv : env.NoNestedLifecycle) {fuel : Nat} :
    ∀ {n : Nat} {s : EventLoop}, s.nanoapps.length < n →
      ∃ s', unloadNanoapps env (runRequests env fuel) n s = some s'
  | 0, _, hn => absurd hn (Nat.not_lt_zero _)
  | n + 1, s, hn => by
    unfold unloadNanoapps
    split_ifs with hempty
    · exact ⟨s, rfl⟩
    obtain ⟨l, x, hids⟩ : ∃ l x, s.instanceIds = l ++ [x] := by
      rcases List.eq_nil_or_concat s.instanceIds with hn | ⟨l, x, hc⟩
      · simp [instanceIds, List.isEmpty_iff] at hn hempty
        exact absurd hn hempty
      · exact ⟨l, x, by simpa using hc⟩
    have hlen : s.nanoapps.length = l.length + 1 := by
      simpa [instanceIds] using congrArg List.length hids
    obtain ⟨app, happ⟩ : ∃ app, s.nanoapps[s.nanoapps.length - 1]? = some app :=
      ⟨_, List.getElem?_eq_getElem (by omega)⟩
    obtain ⟨s₁, h₁⟩ : ∃ s₁, runRequests env fuel (env.nanoappEnd (logEnd app s) app) (logEnd app s) =
        some s₁ := Option.ne_none_iff_exists'.1 (runRequests_ne_none (henv.nanoappEnd _ app))
    set s₂ : EventLoop :=
      { s₁ with currentApp := none, nanoapps := s₁.nanoapps.eraseIdx (s.nanoapps.length - 1) }
    have hu : unloadNanoappAtIndex env (runRequests env fuel) (s.nanoapps.length - 1) s = some s₂ := by
      simp only [unloadNanoappAtIndex, happ, Option.bind_eq_bind, Option.some_bind]
      unfold logEnd at h₁
      rw [h₁]
      rfl
    have hlen₂ : s₂.nanoapps.length < n := by
      have := congrArg List.length (unloadNanoappAtIndex_last henv hids hu).2
      simp only [s₂, instanceIds, List.length_map] at this ⊢
      omega
    obtain ⟨s', h'⟩ := unloadNanoapps_returns henv hlen₂
    exact ⟨s', by simp only [hu, Option.bind_eq_bind, Option.some_bind]; exact h'⟩

/-- **The end of `run()` returns** once `mRunning` is false, given fuel past the events queued,
the events in `mEvents` and the nanoapps loaded. -/
theorem finishRun_returns (henv : env.NoNestedLifecycle) {fuel : Nat} {s : EventLoop}
    (h : Accounting none s) (hrun : s.running = false) (hq : queuedTotal s < fuel)
    (hev : s.events.length < fuel) (hn : s.nanoapps.length < fuel) :
    ∃ s', finishRun env (runRequests env fuel) fuel s = some s' := by
  obtain ⟨s₁, h₁, -⟩ := flushNanoappEventQueues_returns (henv.quiet fuel) (henv.returns fuel) h hq
  have h' := accounting_preserved.flushNanoappEventQueues Posts.codeRel (henv.quiet fuel) h h₁
  have hs₁ := (stoppedEvents_preserved s.nextEventPointer s.events.length).flushNanoappEventQueues
    Silent.codeRel (henv.silent fuel) ⟨hrun, rfl, le_rfl⟩ h₁
  obtain ⟨s₂, h₂⟩ : ∃ s₂, purgeEvents env (runRequests env fuel) fuel s₁ = some s₂ :=
    purgeEvents_returns henv.toNoLifecycle hs₁.1 (hs₁.2.2.trans_lt hev) h'.events_sorted
      fun p hp => ⟨(h'.events p hp).2, h'.pooled p hp⟩
  -- the flush and the purge keep the nanoapps
  have hids : s₂.instanceIds = s.instanceIds := by
    rw [instanceIds_eq_map_fst, (purgeEvents_spec henv.toNoLifecycle h₂).2, ← instanceIds_eq_map_fst]
    exact ((endsNothing_preserved s.instanceIds s.log).flushNanoappEventQueues Sends.codeRel
      (henv.sends fuel) ⟨rfl, [], by simp, rfl⟩ h₁).1
  have hlen₂ : s₂.nanoapps.length < fuel := by
    have := congrArg List.length hids
    simp only [instanceIds, List.length_map] at this
    omega
  obtain ⟨s₃, h₃⟩ : ∃ s₃, unloadNanoapps env (runRequests env fuel) fuel s₂ = some s₃ :=
    unloadNanoapps_returns henv hlen₂
  exact ⟨s₃, by simp only [finishRun, h₁, h₂, h₃, Option.bind_eq_bind, Option.some_bind]⟩

/-- **The end of `run()` returns, having ended its nanoapps in reverse order.** From every state
a run reaches, when no code the loop calls starts or unloads a nanoapp, once `mRunning` is false
and given fuel past the events queued, the events in `mEvents` and the nanoapps loaded, the end
of `run()` returns; the calls of `end` it makes are on the nanoapps loaded when it starts, the
last loaded first, and no nanoapp is left. -/
theorem finishRun_ends_in_reverse (henv : env.NoNestedLifecycle) {fuel : Nat} {s : EventLoop}
    (hs : RunReachable env fuel s) (hq : queuedTotal s < fuel) (hev : s.events.length < fuel)
    (hn : s.nanoapps.length < fuel) :
    ∃ s', finishRun env (runRequests env fuel) fuel { s with running := false } = some s' ∧
      ∃ L, s'.log = s.log ++ L ∧ ends L = s.instanceIds.reverse ∧ s'.nanoapps = [] := by
  have h : Accounting none { s with running := false } :=
    accounting_preserved.posts (hs.ordered henv).1 (Posts.of_eq rfl rfl rfl rfl rfl)
  obtain ⟨s', hf⟩ := finishRun_returns henv h rfl hq hev hn
  exact ⟨s', hf, finishRun_log_ends (s := { s with running := false }) henv hf⟩

/-- Two nanoapps started, and an event for the first distributed and still in its queue when the
loop stops: the end of `run()` returns, and ends nanoapp 2 first. -/
theorem finishRun_ends_in_reverse_twoNanoapps :
    ∃ s, RunReachable quietEnv 3 s ∧ s.instanceIds = [1, 2] ∧ s.queues = [(1, [0]), (2, [])] ∧ ∃ s',
      finishRun quietEnv (runRequests quietEnv 3) 3 { s with running := false } = some s' ∧
      ∃ L, s'.log = s.log ++ L ∧ ends L = [2, 1] ∧ s'.nanoapps = [] := by
  obtain ⟨s, hrun, hnanoapps, hev⟩ : ∃ s, Job.runAll quietEnv 3 {} [.startNanoapp 0x10 false,
      .startNanoapp 0x20 false, .op (.postEvent 0 0 none kSystemInstanceId 1),
      .op .distributeNextEvent] = some s ∧
      s.nanoapps = [⟨0x10, 1, false, [], [0]⟩, ⟨0x20, 2, false, [], []⟩] ∧ s.events = [] :=
    ⟨_, rfl, rfl, rfl⟩
  have hs := RunReachable.init.runAll hrun
  have hids : s.instanceIds = [1, 2] := by simp [instanceIds, hnanoapps]
  obtain ⟨s', hf, L, hL, hends, hnil⟩ := finishRun_ends_in_reverse quietEnv_noNestedLifecycle hs
    (by simp [queuedTotal, queues, hnanoapps]) (by simp [hev]) (by simp [hnanoapps])
  exact ⟨s, hs, hids, by simp [queues, hnanoapps], s', hf, L, hL, by rw [hends, hids]; rfl, hnil⟩

end EventLoop

end Chre

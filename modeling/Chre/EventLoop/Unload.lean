import Chre.EventLoop.Drain
import Chre.EventLoop.Lifecycle

/-!
# Unloading a nanoapp

`unloadNanoapp` finds the nanoapp's index `i` in `mNanoapps`, flushes the host's messages from
it, flushes `mEvents`, marks the nanoapp at `i` as stopping, flushes the nanoapps' queues, and
unloads the nanoapp at index `i`.

When no code the call runs starts or unloads a nanoapp, the call does what it is for
(`unloadNanoapp_unloaded`): every event queued for the nanoapp is handled before its one `end`,
every queue is empty at the end, the nanoapp alone has left `mNanoapps`, and no event left in
`mEvents` was sent by it. Two families of invariants carry this through the flushes:
`HandledSince` counts the nanoapp's deliveries, and `Stopping` keeps its posts out of `mEvents`
while it is marked as stopping.

A free callback run by the flushes may itself unload a nanoapp (a deferred system callback
does), and then `i` no longer names the nanoapp the call found
(`unloadNanoapp_ends_other_nanoapp`).
-/

namespace Chre

namespace EventLoop

/-- The queue of the nanoapp at index `i`, empty past the last nanoapp. -/
def queueAt (s : EventLoop) (i : Nat) : List Nat :=
  (s.queues[i]?.map Prod.snd).getD []

theorem count_queueAt_fanOut_le {event : Nat} {e : Event} {s : EventLoop} {i x : Nat} :
    (queueAt s i).count x ≤ (queueAt (fanOut event e s) i).count x := by
  rw [queueAt, queueAt, fanOut_queues, queues, List.getElem?_map, List.getElem?_map]
  cases s.nanoapps[i]? with
  | none => simp
  | some app =>
    by_cases h : app.takes e <;> simp [h, List.count_append]

/-- Along an unload of the nanoapp at index `i` begun in `s`: the loaded ids stay, the log grows
by deliveries, and each event the queue at `i` held in `s` has since been handled by that
nanoapp or is still queued. -/
structure HandledSince (s : EventLoop) (i : Nat) (t : EventLoop) : Prop where
  instanceIds : t.instanceIds = s.instanceIds
  log : ∃ L, t.log = s.log ++ L ∧ ∀ a ∈ L, a.IsDelivery s.instanceIds
  handled : ∀ x e, s.instanceIds[i]? = some x →
    s.log.count (.nanoappHandleEvent x e) + (queueAt s i).count e ≤
      t.log.count (.nanoappHandleEvent x e) + (queueAt t i).count e

namespace HandledSince

variable {s t t' : EventLoop} {i : Nat}

theorem refl (s : EventLoop) (i : Nat) : HandledSince s i s :=
  ⟨rfl, ⟨[], by simp, by simp⟩, fun _ _ _ => le_rfl⟩

/-- A step that keeps the ids, logs deliveries, and loses an event from the queue at `i` only by
logging its handling. -/
theorem of_step (h : HandledSince s i t) (hids : t'.instanceIds = t.instanceIds) {L : List Action}
    (hlog : t'.log = t.log ++ L) (hL : ∀ a ∈ L, a.IsDelivery s.instanceIds)
    (hq : ∀ x e, s.instanceIds[i]? = some x →
      t.log.count (.nanoappHandleEvent x e) + (queueAt t i).count e ≤
        t'.log.count (.nanoappHandleEvent x e) + (queueAt t' i).count e) :
    HandledSince s i t' := by
  obtain ⟨L₀, hlog₀, hL₀⟩ := h.log
  refine ⟨hids.trans h.instanceIds, ⟨L₀ ++ L, by rw [hlog, hlog₀, List.append_assoc], ?_⟩,
    fun x e hx => (h.handled x e hx).trans (hq x e hx)⟩
  intro a ha
  rcases List.mem_append.1 ha with ha | ha
  · exact hL₀ a ha
  · exact hL a ha

theorem posts (h : HandledSince s i t) (hp : Posts t t') : HandledSince s i t' :=
  h.of_step hp.instanceIds (L := []) (by simp [hp.log]) (by simp) fun _ _ _ => by
    rw [hp.log, queueAt, queueAt, hp.queues]

theorem fanOut (h : HandledSince s i t) {event : Nat} {rest : List Nat} {e : Event} :
    HandledSince s i (EventLoop.fanOut event e { t with events := rest }) := by
  refine h.of_step fanOut_instanceIds fanOut_log (fun a ha => ?_) fun x e' _ => ?_
  · simp only [List.mem_cons, List.mem_map] at ha
    rcases ha with rfl | ⟨app, -, rfl⟩ <;> trivial
  · rw [fanOut_log, List.count_append]
    have : (queueAt { t with events := rest } i).count e' ≤
        (queueAt (EventLoop.fanOut event e { t with events := rest }) i).count e' :=
      count_queueAt_fanOut_le
    exact Nat.add_le_add (Nat.le_add_right _ _) this

theorem popEvent (h : HandledSince s i t) {j : Nat} {app : Nanoapp} {event : Nat} {e : Event}
    (happ : t.nanoapps[j]? = some app) (hhead : app.eventQueue.head? = some event) :
    HandledSince s i (EventLoop.popEvent j app event e t) := by
  have hmem : app.instanceId ∈ t.instanceIds :=
    List.mem_map_of_mem _ (List.mem_iff_getElem?.2 ⟨j, happ⟩)
  refine h.of_step (popEvent_instanceIds happ) popEvent_log
    (fun a ha => by obtain rfl := List.mem_singleton.1 ha; exact h.instanceIds ▸ hmem)
    fun x e' hx => ?_
  rw [popEvent_log, List.count_append, queueAt, queueAt, popEvent_queues]
  obtain ⟨tail, htail⟩ := List.head?_eq_some_iff.1 hhead
  by_cases hij : j = i
  · subst hij
    have hx' : app.instanceId = x := by
      have hj : (t.nanoapps.map (·.instanceId))[j]? = some app.instanceId := by simp [happ]
      rw [show t.nanoapps.map (·.instanceId) = t.instanceIds from rfl, h.instanceIds, hx] at hj
      exact (Option.some.inj hj).symm
    have hlt : j < t.queues.length := by
      simpa [queues] using (List.getElem?_eq_some_iff.1 happ).1
    have hq : t.queues[j]? = some (app.instanceId, app.eventQueue) := by simp [queues, happ]
    rw [List.getElem?_set_self hlt, hq, htail, hx']
    simp only [Option.map_some', Option.getD_some, List.tail_cons, List.count_cons,
      List.count_singleton', List.count_nil]
    simp only [beq_iff_eq, Action.nanoappHandleEvent.injEq, true_and]
    split_ifs <;> omega
  · rw [List.getElem?_set_ne hij]
    omega

theorem logFree (h : HandledSince s i t) {event : Nat} :
    HandledSince s i { t with log := t.log ++ [.freeEvent event] } :=
  h.of_step rfl rfl (fun a ha => by obtain rfl := List.mem_singleton.1 ha; trivial)
    fun _ _ _ => by simp only [List.count_append]; exact Nat.add_le_add_right (by omega) _

theorem release (h : HandledSince s i t) {event : Nat} :
    HandledSince s i { t with eventPool := Function.update t.eventPool event none } :=
  h.of_step (L := []) rfl (by simp) (by simp) fun _ _ _ => le_rfl

end HandledSince

theorem handledSince_preserved (s : EventLoop) (i : Nat) :
    Preserved Posts fun _ => HandledSince s i :=
  ⟨fun h hp => h.posts hp, fun h _ _ => h.fanOut, fun h happ hhead _ => h.popEvent happ hhead,
    fun h => h.logFree, fun h _ => h.release⟩

/-- While the nanoapp with id `x` is stopping: `Lifecycle`, and no event in `mEvents` was sent
by that nanoapp. -/
structure Stopping (x : UInt32) (t : EventLoop) : Prop where
  lifecycle : Lifecycle t
  stoppingNanoapp : t.stoppingNanoapp = some x
  notSentBy : ∀ p ∈ t.events, ∀ e, t.eventPool p = some e → e.senderInstanceId ≠ x

namespace Stopping

variable {x : UInt32} {t t' : EventLoop}

/-- A step whose pool keeps the sender of each event in `mEvents`. -/
theorem of_pool (h : Stopping x t) (hl : Lifecycle t') (hstop : t'.stoppingNanoapp = t.stoppingNanoapp)
    (hpool : ∀ p ∈ t'.events, ∀ e', t'.eventPool p = some e' →
      ∃ q ∈ t.events, ∃ e, t.eventPool q = some e ∧ e.senderInstanceId = e'.senderInstanceId) :
    Stopping x t' := by
  refine ⟨hl, hstop.trans h.stoppingNanoapp, fun p hp e' he' => ?_⟩
  obtain ⟨q, hq, e, he, hsender⟩ := hpool p hp e' he'
  exact hsender ▸ h.notSentBy q hq e he

theorem posts (hx : x ≠ kSystemInstanceId) (h : Stopping x t) (hp : Sends t t') : Stopping x t' := by
  obtain ⟨fresh, hev, -, hfresh⟩ := hp.events
  refine ⟨h.lifecycle.posts hp, hp.stoppingNanoapp.trans h.stoppingNanoapp,
    fun p hpm e he => ?_⟩
  rw [hev] at hpm
  rcases List.mem_append.1 hpm with hpm | hpf
  · have hold := (hp.eventPool p).resolve_right fun hn =>
      absurd (h.lifecycle.held_lt (.inl hpm)) (not_lt.2 hn.1)
    exact h.notSentBy p hpm e (hold ▸ he)
  · have hnone := (h.lifecycle.unallocated p (hfresh p hpf).1).1
    rcases hp.sender p e he with hsame | hsys | ⟨-, hne, -⟩
    · simp [hsame, hnone] at he
    · exact hsys ▸ hx.symm
    · rintro rfl
      exact hne h.stoppingNanoapp

theorem fanOut (h : Stopping x t) {event : Nat} {rest : List Nat} {e : Event}
    (hev : t.events = event :: rest) (he : t.eventPool event = some e) :
    Stopping x (EventLoop.fanOut event e { t with events := rest }) := by
  refine h.of_pool (h.lifecycle.fanOut hev he) rfl fun p hp e' he' => ?_
  have hp' : p ∈ t.events := hev ▸ .tail _ hp
  by_cases hpe : p = event
  · subst hpe
    simp only [fanOut_eventPool, Function.update_same, Option.some.injEq] at he'
    exact ⟨p, hp', e, he, by rw [← he']⟩
  · exact ⟨p, hp', e', by simpa [hpe] using he', rfl⟩

theorem popEvent (h : Stopping x t) {i : Nat} {app : Nanoapp} {event : Nat} {e : Event}
    (happ : t.nanoapps[i]? = some app) (hhead : app.eventQueue.head? = some event)
    (he : t.eventPool event = some e) : Stopping x (EventLoop.popEvent i app event e t) := by
  refine h.of_pool (h.lifecycle.popEvent happ hhead he) rfl fun p hp e' he' => ?_
  by_cases hpe : p = event
  · subst hpe
    simp only [popEvent_eventPool, Function.update_same, Option.some.injEq] at he'
    exact ⟨p, hp, e, he, by rw [← he']⟩
  · exact ⟨p, hp, e', by simpa [hpe] using he', rfl⟩

theorem release (h : Stopping x t) {event : Nat} :
    Stopping x { t with eventPool := Function.update t.eventPool event none } := by
  refine h.of_pool h.lifecycle.release rfl fun p hp e' he' => ?_
  by_cases hpe : p = event
  · subst hpe; simp at he'
  · exact ⟨p, hp, e', by simpa [hpe] using he', rfl⟩

end Stopping

theorem stopping_preserved {x : UInt32} (hx : x ≠ kSystemInstanceId) :
    Preserved Sends fun _ => Stopping x :=
  ⟨fun h hp => h.posts hx hp, fun h hev he => h.fanOut hev he,
    fun h happ hhead he => h.popEvent happ hhead he,
    fun h => ⟨h.lifecycle.logFree, h.stoppingNanoapp, h.notSentBy⟩, fun h _ => h.release⟩


/-! ### One call of `unloadNanoapp` -/

/-- Among distinct ids, the search for `N`'s id finds `N`. -/
theorem findIdx?_instanceId {s : EventLoop} {N : Nanoapp} (hnodup : s.instanceIds.Nodup)
    (hN : N ∈ s.nanoapps) :
    ∃ i, s.nanoapps.findIdx? (·.instanceId == N.instanceId) = some i ∧ s.nanoapps[i]? = some N := by
  have hany : s.nanoapps.any (·.instanceId == N.instanceId) = true :=
    List.any_eq_true.2 ⟨N, hN, beq_self_eq_true _⟩
  obtain ⟨i, hi⟩ := Option.isSome_iff_exists.1 (List.findIdx?_isSome.trans hany)
  obtain ⟨hlt, hp, -⟩ := List.findIdx?_eq_some_iff_getElem.1 hi
  refine ⟨i, hi, ?_⟩
  rw [List.getElem?_eq_getElem hlt]
  exact congrArg some (List.inj_on_of_nodup_map hnodup (List.getElem_mem hlt) hN (by simpa using hp))

variable (env : Env) {run : Runner}

theorem unloadNanoapp_cases {fuel : Nat} {instanceId : UInt32} {allowSystemNanoappUnload : Bool}
    {s : EventLoop} {r : Bool × EventLoop} {i : Nat} {N : Nanoapp}
    (hi : s.nanoapps.findIdx? (·.instanceId == instanceId) = some i) (hN : s.nanoapps[i]? = some N)
    (hallow : allowSystemNanoappUnload = true ∨ N.isSystemNanoapp = false)
    (h : unloadNanoapp env run fuel instanceId allowSystemNanoappUnload s = some r) :
    ∃ s₁ s₂ N₂ s₄ s₅, run (env.flushMessagesSentByNanoapp s N.appId) s = some s₁ ∧
      flushInboundEventQueue env run fuel s₁ = some s₂ ∧ s₂.nanoapps[i]? = some N₂ ∧
      flushNanoappEventQueues env run fuel { s₂ with stoppingNanoapp := some N₂.instanceId } =
        some s₄ ∧
      unloadNanoappAtIndex env run i s₄ = some s₅ ∧ r = (true, { s₅ with stoppingNanoapp := none }) := by
  unfold unloadNanoapp at h
  rw [hi] at h
  obtain ⟨app, happ, h⟩ := Option.bind_eq_some.1 h
  obtain rfl : N = app := Option.some.inj (hN.symm.trans happ)
  rw [if_neg (by rcases hallow with h | h <;> simp [h])] at h
  obtain ⟨s₁, h₁, h⟩ := Option.bind_eq_some.1 h
  obtain ⟨s₂, h₂, h⟩ := Option.bind_eq_some.1 h
  obtain ⟨N₂, hN₂, h⟩ := Option.bind_eq_some.1 h
  obtain ⟨s₄, h₄, h⟩ := Option.bind_eq_some.1 h
  obtain ⟨s₅, h₅, h⟩ := Option.bind_eq_some.1 h
  exact ⟨s₁, s₂, N₂, s₄, s₅, h₁, h₂, hN₂, h₄, h₅, (Option.some.inj h).symm⟩

/-- What a call that unloaded `N` from `s` did, ending in `s'`. -/
structure Unloaded (s : EventLoop) (N : Nanoapp) (s' : EventLoop) : Prop where
  /-- The call logged deliveries, among them the handling of every event queued for `N`, then
  `N`'s one `end`. -/
  log : ∃ L, s'.log = s.log ++ L ++ [.nanoappEnd N.instanceId] ∧
    (∀ a ∈ L, a.IsDelivery s.instanceIds) ∧
    ∀ e, N.eventQueue.count e ≤ L.count (.nanoappHandleEvent N.instanceId e)
  /-- `N`, and only `N`, has left `mNanoapps`. -/
  instanceIds : s'.instanceIds = s.instanceIds.erase N.instanceId
  /-- Every queue is empty. -/
  drained : ∀ app ∈ s'.nanoapps, app.eventQueue = []
  /-- No event left in `mEvents` was sent by `N`. -/
  notSentBy : ∀ p ∈ s'.events, ∀ e, s'.eventPool p = some e → e.senderInstanceId ≠ N.instanceId

variable {env}

/-- **Unloading a nanoapp**, when no code the call runs starts or unloads one: the call returns
true, having handled every event queued for the nanoapp before its one `end`, emptied every
queue, removed the nanoapp alone, and left no event it sent in `mEvents`; and it keeps
`Lifecycle`. -/
theorem unloadNanoapp_unloaded (henv : env.NoNestedLifecycle) {fuel : Nat} {s : EventLoop}
    {N : Nanoapp} {allowSystemNanoappUnload : Bool} {r : Bool × EventLoop} (h : Lifecycle s)
    (hN : N ∈ s.nanoapps) (hallow : allowSystemNanoappUnload = true ∨ N.isSystemNanoapp = false)
    (hu : unloadNanoapp env (runRequests env fuel) fuel N.instanceId allowSystemNanoappUnload s =
      some r) :
    r.1 = true ∧ Unloaded s N r.2 ∧ Lifecycle r.2 := by
  obtain ⟨i, hi, hNi⟩ := findIdx?_instanceId h.log.nodup hN
  obtain ⟨s₁, s₂, N₂, s₄, s₅, h₁, h₂, hN₂, h₄, h₅, rfl⟩ := unloadNanoapp_cases env hi hNi hallow hu
  have hqS := henv.toNoLifecycle.sends fuel
  have hqP := henv.toNoLifecycle.quiet fuel
  have hidN : s.instanceIds[i]? = some N.instanceId := by simp [instanceIds, hNi]
  -- the host's messages, then `mEvents`, flushed
  have hp₁ := runRequests_sends env (henv.flushMessagesSentByNanoapp _ _) h.currentApp h₁
  have hk₂ := (handledSince_preserved s i).flushInboundEventQueue Posts.codeRel hqP
    ((HandledSince.refl s i).posts hp₁.toPosts) h₂
  have hl₂ := lifecycle_preserved.flushInboundEventQueue Sends.codeRel hqS (h.posts hp₁) h₂
  -- the nanoapp at index `i` is still `N`, and is marked as stopping
  have hid₂ : N₂.instanceId = N.instanceId := by
    simpa [instanceIds, hN₂, hNi] using congrArg (·[i]?) hk₂.instanceIds
  have hx : N.instanceId ≠ kSystemInstanceId := h.log.loaded_ne (List.mem_map_of_mem _ hN)
  have hst₃ : Stopping N.instanceId { s₂ with stoppingNanoapp := some N₂.instanceId } :=
    ⟨hl₂.setStoppingNanoapp _, by simp [hid₂], by simp [flushInboundEventQueue_events env h₂]⟩
  -- the queues flushed
  have hst₄ := (stopping_preserved hx).flushNanoappEventQueues Sends.codeRel hqS hst₃ h₄
  have hk₄ := (handledSince_preserved s i).flushNanoappEventQueues Posts.codeRel hqP
    (s := { s₂ with stoppingNanoapp := some N₂.instanceId }) ⟨hk₂.instanceIds, hk₂.log, hk₂.handled⟩
    h₄
  have hdr₄ := flushNanoappEventQueues_drained env Posts.codeRel hqP h₄
  -- `N` unloaded
  obtain ⟨N₄, hN₄, hid₄⟩ : ∃ N₄, s₄.nanoapps[i]? = some N₄ ∧ N₄.instanceId = N.instanceId := by
    simpa [instanceIds, hNi] using congrArg (·[i]?) hk₄.instanceIds
  have hq₄ : ∀ q ∈ s₄.queues, q.2 = [] := hdr₄
  have hl₅ := hst₄.lifecycle.unloadNanoappAtIndex henv hN₄ (.inl (by rw [hst₄.stoppingNanoapp, hid₄]))
    (fun p e hp he => by
      rcases hp with hp | ⟨q, hq, hpq⟩
      · exact hid₄ ▸ hst₄.notSentBy p hp e he
      · simp [hq₄ q hq] at hpq)
    h₅
  obtain ⟨s₆, hp₆, rfl⟩ := unloadNanoappAtIndex_sends henv hN₄ h₅
  obtain ⟨L, hlog₄, hL⟩ := hk₄.log
  have hlog : s₆.log = s.log ++ L ++ [.nanoappEnd N.instanceId] := by
    rw [hp₆.log, ← hid₄, ← hlog₄]; rfl
  have hended : .nanoappEnd N.instanceId ∈ s₆.log := by rw [hlog]; simp
  refine ⟨rfl, ⟨⟨L, hlog, hL, fun e => ?_⟩, ?_, fun app happ => ?_, fun p hp e he => ?_⟩,
    hl₅.setStoppingNanoapp none⟩
  · have hqs : queueAt s i = N.eventQueue := by simp [queueAt, queues, hNi]
    have hq₄' : queueAt s₄ i = [] := by
      unfold queueAt
      cases hq : s₄.queues[i]? with
      | none => rfl
      | some q => exact hq₄ q (List.mem_iff_getElem?.2 ⟨i, hq⟩)
    have := hk₄.handled _ e hidN
    rw [hqs, hq₄', hlog₄, List.count_append] at this
    simpa using this
  · exact hid₄ ▸ instanceIds_eraseIdx_eq_erase hst₄.lifecycle.log.nodup hN₄ hp₆.toPosts.instanceIds
      |>.trans (by rw [hk₄.instanceIds])
  · have hmem : app ∈ s₆.nanoapps := (List.eraseIdx_sublist _ i).subset happ
    have hq : (app.instanceId, app.eventQueue) ∈ s₆.queues := List.mem_map_of_mem _ hmem
    rw [hp₆.queues] at hq
    exact hq₄ _ hq
  · exact hl₅.sentBeforeEnd _ hended p e (.inl hp) he

/-- A system callback, at pointer `7`, that unloads the nanoapp whose instance id its event
carries as data. -/
def deferredUnloadEnv : Env :=
  { quietEnv with
    freeCallback := fun _ callback e =>
      if callback = 7 then [.unloadNanoapp e.eventData.toUInt32 true] else [] }

/-- Three nanoapps, and in `mEvents` a request to unload the first, deferred to the loop. -/
def threeNanoapps : EventLoop where
  events := [0]
  eventPool := Function.update (fun _ => none) 0
    (some ⟨0, 1, some 7, kSystemInstanceId, kSystemInstanceId, 0⟩)
  nextEventPointer := 1
  nanoapps := [⟨0x10, 1, false, [], []⟩, ⟨0x20, 2, false, [], []⟩, ⟨0x30, 3, false, [], []⟩]
  lastInstanceId := 3

/-- Unloading instance 2 from `threeNanoapps`: the flush of `mEvents` unloads instance 1, so
the index found for instance 2 now holds instance 3, which is ended and removed. The call
returns true with instance 2 still loaded and never ended. -/
theorem unloadNanoapp_ends_other_nanoapp :
    (unloadNanoapp deferredUnloadEnv (runRequests deferredUnloadEnv 2) 2 2 false threeNanoapps).map
      (fun r => (r.1, r.2.nanoapps.map (·.instanceId), r.2.log)) =
    some (true, [2], [.distributeEvent 0, .freeEvent 0, .nanoappEnd 1, .nanoappEnd 3]) := by
  obtain ⟨h12, h01, h02, h03, h0b⟩ : (1 : UInt32) ≠ 2 ∧ (0 : UInt32) ≠ 1 ∧ (0 : UInt32) ≠ 2 ∧
      (0 : UInt32) ≠ 3 ∧ (0 : UInt32) ≠ 4294967295 := by decide
  simp only [unloadNanoapp, flushInboundEventQueue, distributeEvent, freeEvent, runRequests,
    interpret, flushNanoappEventQueues, deliverEvents, deliverEventsFrom, unloadNanoappAtIndex,
    threeNanoapps, deferredUnloadEnv, quietEnv, Nanoapp.takes, Nanoapp.hasPendingEvent,
    Event.isUnreferenced, kBroadcastInstanceId, kSystemInstanceId, h12, h01, h02, h03, h0b,
    UInt32.ofNat_one, ↓reduceIte, Nat.reduceAdd, Nat.reduceLT, beq_iff_eq, Bool.or_eq_true,
    Bool.and_eq_true, Bool.false_eq_true, Bool.not_true, Bool.not_eq_eq_eq_not, ite_not,
    not_false_eq_true, true_and, false_and, or_self, Option.bind_eq_bind, Option.some_bind,
    Option.pure_def, Option.map_some', Function.update_same, List.foldlM_nil, List.foldlM_cons,
    List.findIdx?_cons, List.length_cons, List.length_nil, List.getElem?_eq_getElem,
    List.getElem_cons_succ, List.getElem_cons_zero, List.nil_append, List.cons_append, List.map_cons,
    List.map_nil, List.filter_cons_of_neg, List.filter_nil, List.isEmpty_eq_false, List.tail_cons,
    List.eraseIdx_zero, List.eraseIdx_cons_succ]

end EventLoop

end Chre

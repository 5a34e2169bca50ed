import Chre.EventLoop.Steps

/-!
# Nanoapp lifecycles

What the log says of each instance id (`LogLifecycle`): it is started at most once, and only an id
above every id handed out before; the loaded nanoapps are those started successfully and not
yet ended; `end` runs at most once, and only on a nanoapp started successfully; no `handleEvent`
of a nanoapp follows its `end`. With the state (`Lifecycle`): no event that `mEvents` or a queue
still holds was sent by an ended nanoapp, and no pointer at or past `nextEventPointer` is in use.

Starting a nanoapp (`LogLifecycle.start`), ending one (`LogLifecycle.finish`) and delivery
(`LogLifecycle.append`) keep the log's part; every piece of delivery and freeing keeps
`Lifecycle` when the code it runs satisfies `Sends` (`lifecycle_preserved`).

A nanoapp whose `start()` fails is never ended, so the events it sent from `start()` may stay,
and do (`startNanoapp_failed_leaves_events`).
-/

namespace Chre

namespace Action

/-- An action of delivery: it starts and ends nothing, and hands events only to nanoapps whose
id is in `ids`. -/
def IsDelivery (ids : List UInt32) : Action → Prop
  | .nanoappStart .. | .nanoappEnd _ => False
  | .nanoappHandleEvent instanceId _ => instanceId ∈ ids
  | _ => True

end Action

theorem UInt32.toNat_add_one {a : UInt32} (h : a ≠ kBroadcastInstanceId) :
    (a + 1).toNat = a.toNat + 1 := by
  have h₁ : a.toNat ≠ 0xFFFFFFFF := fun h' => h (UInt32.toNat.inj h')
  have h₂ : a.toNat < 2 ^ 32 := a.toBitVec.isLt
  simp only [UInt32.toNat, UInt32.add_def, BitVec.toNat_add] at *
  simp at *
  omega

theorem List.set_self_of_getElem? {α : Type} {l : List α} {i : Nat} {a : α} (h : l[i]? = some a) :
    l.set i a = l := by
  apply List.ext_getElem?
  intro j
  by_cases hij : i = j
  · subst hij
    rw [List.getElem?_set_self (List.getElem?_eq_some_iff.1 h).1, h]
  · exact List.getElem?_set_ne hij

/-- Where an action `a` sits in `log ++ L`: in `log`, or in `L`. -/
theorem List.append_eq_append_cons {α : Type} {log L pre post : List α} {a : α}
    (h : log ++ L = pre ++ a :: post) :
    (∃ post', log = pre ++ a :: post' ∧ post = post' ++ L) ∨ ∃ pre', L = pre' ++ a :: post := by
  rcases List.append_eq_append_iff.1 h with ⟨a', -, hL⟩ | ⟨c', hlog, hc⟩
  · exact .inr ⟨a', hL⟩
  · cases c' with
    | nil => exact .inr ⟨[], by simpa using hc.symm⟩
    | cons b c' =>
      obtain ⟨rfl, rfl⟩ := List.cons.inj hc
      exact .inl ⟨c', hlog, rfl⟩

/-- What the log says of the lifecycle of each instance id, with `ids` the loaded ids and `last`
the last id handed out. -/
structure LogLifecycle (ids : List UInt32) (last : UInt32) (log : List Action) : Prop where
  nodup : ids.Nodup
  last_ne : last ≠ kBroadcastInstanceId
  started : ∀ x b, .nanoappStart x b ∈ log → 0 < x.toNat ∧ x.toNat ≤ last.toNat
  startedOnce : ∀ x, log.count (.nanoappStart x true) + log.count (.nanoappStart x false) ≤ 1
  loaded : ∀ x, x ∈ ids ↔ .nanoappStart x true ∈ log ∧ .nanoappEnd x ∉ log
  endedOnce : ∀ x, log.count (.nanoappEnd x) ≤ 1
  ended : ∀ x, .nanoappEnd x ∈ log → .nanoappStart x true ∈ log
  handledBeforeEnd : ∀ x e pre post, log = pre ++ .nanoappEnd x :: post →
    .nanoappHandleEvent x e ∉ post

namespace LogLifecycle

variable {ids : List UInt32} {last : UInt32} {log : List Action}

theorem nil : LogLifecycle [] kSystemInstanceId [] :=
  ⟨.nil, by decide, by simp, by simp, by simp, by simp, by simp, by simp⟩

/-- The system's id is never started, so never ended. -/
theorem ne_kSystemInstanceId (h : LogLifecycle ids last log) {x : UInt32}
    (hx : .nanoappEnd x ∈ log) : x ≠ kSystemInstanceId := by
  rintro rfl
  exact absurd (h.started _ _ (h.ended _ hx)).1 (by decide)

theorem not_ended (h : LogLifecycle ids last log) {x : UInt32} (hx : x ∈ ids) :
    .nanoappEnd x ∉ log :=
  ((h.loaded x).1 hx).2

theorem loaded_ne (h : LogLifecycle ids last log) {x : UInt32} (hx : x ∈ ids) :
    x ≠ kSystemInstanceId := by
  rintro rfl
  exact absurd (h.started _ _ ((h.loaded _).1 hx).1).1 (by decide)

/-- Delivery keeps the log's account of lifecycles. -/
theorem append (h : LogLifecycle ids last log) {L : List Action}
    (hL : ∀ a ∈ L, a.IsDelivery ids) : LogLifecycle ids last (log ++ L) := by
  have hstart : ∀ x b, .nanoappStart x b ∉ L := fun x b hx => hL _ hx
  have hend : ∀ x, .nanoappEnd x ∉ L := fun x hx => hL _ hx
  refine ⟨h.nodup, h.last_ne, fun x b hx => h.started x b ?_, fun x => ?_, fun x => ?_,
    fun x => ?_, fun x hx => ?_, fun x e pre post hlog => ?_⟩
  · simpa [hstart] using hx
  · simpa [List.count_append, List.count_eq_zero.2 (hstart x _)] using h.startedOnce x
  · simpa [hstart, hend] using h.loaded x
  · simpa [List.count_append, List.count_eq_zero.2 (hend x)] using h.endedOnce x
  · simpa [hend, hstart] using h.ended x (by simpa [hend] using hx)
  · rcases List.append_eq_append_cons hlog with ⟨post', hlog', rfl⟩ | ⟨pre', hL'⟩
    · simp only [List.mem_append, not_or]
      refine ⟨h.handledBeforeEnd x e pre post' hlog', fun hmem => ?_⟩
      exact h.not_ended (hL _ hmem) (hlog' ▸ by simp)
    · exact absurd (hL' ▸ by simp : Action.nanoappEnd x ∈ L) (hend x)

/-- Starting a nanoapp under the next instance id, which is loaded if its `start` succeeded. -/
theorem start (h : LogLifecycle ids last log) (hnext : last + 1 ≠ kBroadcastInstanceId)
    (b : Bool) :
    LogLifecycle (if b then ids ++ [last + 1] else ids) (last + 1)
      (log ++ [.nanoappStart (last + 1) b]) := by
  have hsucc := UInt32.toNat_add_one h.last_ne
  have hfresh : ∀ b', .nanoappStart (last + 1) b' ∉ log := fun b' hx => by
    have := (h.started _ _ hx).2
    omega
  have hnotEnded : .nanoappEnd (last + 1) ∉ log := fun hx => hfresh true (h.ended _ hx)
  have hnotLoaded : last + 1 ∉ ids := fun hx => hfresh true ((h.loaded _).1 hx).1
  refine ⟨?_, hnext, fun x b' hx => ?_, fun x => ?_, fun x => ?_, fun x => ?_, fun x hx => ?_,
    fun x e pre post hlog => ?_⟩
  · split_ifs
    · exact List.nodup_append.2 ⟨h.nodup, List.nodup_singleton _, by simpa using hnotLoaded⟩
    · exact h.nodup
  · rcases List.mem_append.1 hx with hx | hx
    · have := h.started x b' hx
      omega
    · obtain ⟨rfl, -⟩ : x = last + 1 ∧ b' = b := by simpa using hx
      omega
  · by_cases hx : x = last + 1
    · subst hx
      simp [List.count_append, List.count_eq_zero.2 (hfresh _)]
      cases b <;> simp
    · simpa [List.count_append, List.count_singleton', hx] using h.startedOnce x
  · by_cases hx : x = last + 1
    · subst hx
      cases b <;> simp [hnotEnded, hnotLoaded, hfresh]
    · split_ifs <;> simp [hx, h.loaded x]
  · simpa [List.count_append] using h.endedOnce x
  · exact List.mem_append_left _ (h.ended x (by simpa using hx))
  · rcases List.append_eq_append_cons hlog with ⟨post', hlog', rfl⟩ | ⟨pre', hL'⟩
    · simpa using h.handledBeforeEnd x e pre post' hlog'
    · have : Action.nanoappEnd x ∈ [Action.nanoappStart (last + 1) b] := hL' ▸ by simp
      simp at this

/-- Ending a loaded nanoapp, which then leaves the loaded ids. -/
theorem finish (h : LogLifecycle ids last log) {x : UInt32} (hx : x ∈ ids) :
    LogLifecycle (ids.erase x) last (log ++ [.nanoappEnd x]) := by
  have hnotEnded := h.not_ended hx
  refine ⟨h.nodup.erase x, h.last_ne, fun y b hy => h.started y b (by simpa using hy),
    fun y => by simpa [List.count_append] using h.startedOnce y, fun y => ?_, fun y => ?_,
    fun y hy => ?_, fun y e pre post hlog => ?_⟩
  · rw [h.nodup.mem_erase_iff]
    by_cases hy : y = x
    · subst hy; simp
    · simp [hy, h.loaded y]
  · by_cases hy : y = x
    · subst hy; simp [List.count_append, List.count_eq_zero.2 hnotEnded]
    · simpa [List.count_append, List.count_singleton', Ne.symm hy] using h.endedOnce y
  · rcases List.mem_append.1 hy with hy | hy
    · exact List.mem_append_left _ (h.ended y hy)
    · obtain rfl : y = x := by simpa using hy
      exact List.mem_append_left _ ((h.loaded y).1 hx).1
  · rcases List.append_eq_append_cons hlog with ⟨post', hlog', rfl⟩ | ⟨pre', hL'⟩
    · simpa using h.handledBeforeEnd y e pre post' hlog'
    · rcases pre' with _ | ⟨a, pre'⟩
      · obtain ⟨-, rfl⟩ := List.cons.inj hL'
        simp
      · simp at hL'

end LogLifecycle

namespace EventLoop

/-- An event pointer that `mEvents` or a nanoapp's queue holds. -/
def Held (s : EventLoop) (p : Nat) : Prop :=
  p ∈ s.events ∨ ∃ q ∈ s.queues, p ∈ q.2

/-- What holds between the steps of a whole run, nanoapps started and unloaded included. -/
structure Lifecycle (s : EventLoop) : Prop where
  log : LogLifecycle s.instanceIds s.lastInstanceId s.log
  /-- No event that can still be delivered or freed was sent by an ended nanoapp. -/
  sentBeforeEnd : ∀ x, .nanoappEnd x ∈ s.log → ∀ p e, s.Held p → s.eventPool p = some e →
    e.senderInstanceId ≠ x
  /-- No pointer at or past `nextEventPointer` is in use. -/
  unallocated : ∀ p, s.nextEventPointer ≤ p → s.eventPool p = none ∧ ¬s.Held p
  currentApp : s.CurrentAppLoaded

@[simp] theorem fanOut_instanceIds {event : Nat} {e : Event} {s : EventLoop} :
    (fanOut event e s).instanceIds = s.instanceIds := by
  unfold instanceIds
  rw [fanOut_nanoapps, List.map_map]
  congr 1
  funext app
  simp only [Function.comp]
  split_ifs <;> rfl

theorem popEvent_instanceIds {s : EventLoop} {i : Nat} {app : Nanoapp} {event : Nat} {e : Event}
    (happ : s.nanoapps[i]? = some app) : (popEvent i app event e s).instanceIds = s.instanceIds := by
  rw [instanceIds_eq_map_fst, popEvent_queues, List.map_set, ← instanceIds_eq_map_fst]
  exact List.set_self_of_getElem? (by simp [instanceIds, happ])

namespace Lifecycle

variable {s s' : EventLoop}

theorem held_lt (h : Lifecycle s) {p : Nat} (hp : s.Held p) : p < s.nextEventPointer :=
  Nat.lt_of_not_le fun hle => (h.unallocated p hle).2 hp

/-- `Lifecycle` does not read `mStoppingNanoapp`. -/
theorem setStoppingNanoapp (h : Lifecycle s) (x : Option UInt32) :
    Lifecycle { s with stoppingNanoapp := x } :=
  ⟨h.log, h.sentBeforeEnd, h.unallocated, h.currentApp⟩

/-- A step that keeps the log's account, allocates nothing, holds no pointer it did not hold,
and keeps the sender of every event left in the pool. -/
theorem of_held (h : Lifecycle s) (hlog : LogLifecycle s'.instanceIds s'.lastInstanceId s'.log)
    (hended : ∀ x, .nanoappEnd x ∈ s'.log → .nanoappEnd x ∈ s.log)
    (hnext : s'.nextEventPointer = s.nextEventPointer) (hheld : ∀ p, s'.Held p → s.Held p)
    (hpool : ∀ p e', s'.eventPool p = some e' →
      ∃ e, s.eventPool p = some e ∧ e.senderInstanceId = e'.senderInstanceId)
    (hcur : s'.CurrentAppLoaded) : Lifecycle s' := by
  refine ⟨hlog, fun x hx p e' hp he' => ?_, fun p hle => ⟨?_, fun hp => ?_⟩, hcur⟩
  · obtain ⟨e, he, hsender⟩ := hpool p e' he'
    exact hsender ▸ h.sentBeforeEnd x (hended x hx) p e (hheld p hp) he
  · cases hp : s'.eventPool p with
    | none => rfl
    | some e' =>
      obtain ⟨e, he, -⟩ := hpool p e' hp
      simp [(h.unallocated p (hnext ▸ hle)).1] at he
  · exact (h.unallocated p (hnext ▸ hle)).2 (hheld p hp)

theorem posts (h : Lifecycle s) (hp : Sends s s') : Lifecycle s' := by
  obtain ⟨fresh, hev, -, hfresh⟩ := hp.events
  have hids := hp.toPosts.instanceIds
  have hold : ∀ p, s.Held p → s'.eventPool p = s.eventPool p := fun p hheld =>
    (hp.eventPool p).resolve_right fun hn => absurd (h.held_lt hheld) (not_lt.2 hn.1)
  have hheld : ∀ p, s'.Held p → s.Held p ∨ p ∈ fresh := by
    rintro p (hp' | ⟨q, hq, hpq⟩)
    · rw [hev] at hp'
      exact (List.mem_append.1 hp').imp_left .inl
    · exact .inl (.inr ⟨q, hp.queues ▸ hq, hpq⟩)
  refine ⟨by rw [hids, hp.log, hp.lastInstanceId]; exact h.log, fun x hx p e hp' he => ?_,
    fun p hle => ⟨?_, fun hp' => ?_⟩, hp.currentAppLoaded h.currentApp⟩
  · rw [hp.log] at hx
    rcases hheld p hp' with hp' | hpf
    · exact h.sentBeforeEnd x hx p e hp' ((hold p hp').symm.trans he)
    · have hnone := (h.unallocated p (hfresh p hpf).1).1
      rcases hp.sender p e he with hsame | hsys | ⟨hloaded, -, -⟩
      · simp [hsame, hnone] at he
      · exact hsys ▸ (h.log.ne_kSystemInstanceId hx).symm
      · rintro rfl
        exact h.log.not_ended hloaded hx
  · rw [hp.unallocated p hle]
    exact (h.unallocated p (hp.nextEventPointer_le.trans hle)).1
  · rcases hheld p hp' with hp' | hpf
    · exact (h.unallocated p (hp.nextEventPointer_le.trans hle)).2 hp'
    · exact absurd (hfresh p hpf).2 (not_lt.2 hle)

theorem fanOut (h : Lifecycle s) {event : Nat} {rest : List Nat} {e : Event}
    (hev : s.events = event :: rest) (he : s.eventPool event = some e) :
    Lifecycle (EventLoop.fanOut event e { s with events := rest }) := by
  have hmem : event ∈ s.events := hev ▸ .head _
  refine h.of_held ?_ (fun x hx => by simpa using hx) rfl (fun p hp => ?_) (fun p e' hp => ?_)
    (fun x hx => by rw [fanOut_instanceIds]; exact h.currentApp x hx)
  · rw [fanOut_instanceIds, fanOut_log]
    refine h.log.append fun a ha => ?_
    simp only [List.mem_cons, List.mem_map] at ha
    rcases ha with rfl | ⟨app, -, rfl⟩ <;> trivial
  · rcases hp with hp | ⟨q, hq, hpq⟩
    · exact .inl (hev ▸ .tail _ hp)
    · rw [fanOut_queues] at hq
      obtain ⟨app, happ, rfl⟩ := List.mem_map.1 hq
      dsimp only at hpq
      split_ifs at hpq
      · rcases List.mem_append.1 hpq with hpq | hpq
        · exact .inr ⟨_, List.mem_map_of_mem _ happ, hpq⟩
        · exact .inl (List.mem_singleton.1 hpq ▸ hmem)
      · exact .inr ⟨_, List.mem_map_of_mem _ happ, hpq⟩
  · by_cases hpe : p = event
    · subst hpe
      simp only [fanOut_eventPool, Function.update_same, Option.some.injEq] at hp
      exact ⟨e, he, by rw [← hp]⟩
    · exact ⟨e', by simpa [hpe] using hp, rfl⟩

theorem popEvent (h : Lifecycle s) {i : Nat} {app : Nanoapp} {event : Nat} {e : Event}
    (happ : s.nanoapps[i]? = some app) (hhead : app.eventQueue.head? = some event)
    (he : s.eventPool event = some e) : Lifecycle (EventLoop.popEvent i app event e s) := by
  have hids : (EventLoop.popEvent i app event e s).instanceIds = s.instanceIds :=
    popEvent_instanceIds happ
  have hq : (app.instanceId, app.eventQueue) ∈ s.queues :=
    List.mem_map_of_mem _ (List.mem_iff_getElem?.2 ⟨i, happ⟩)
  refine h.of_held ?_ (fun x hx => by simpa using hx) rfl (fun p hp => ?_) (fun p e' hp => ?_)
    (popEvent_currentAppLoaded happ)
  · rw [hids, popEvent_log]
    refine h.log.append fun a ha => ?_
    obtain rfl := List.mem_singleton.1 ha
    exact List.mem_map_of_mem _ (List.mem_iff_getElem?.2 ⟨i, happ⟩)
  · rcases hp with hp | ⟨q, hq', hpq⟩
    · exact .inl hp
    · rw [popEvent_queues] at hq'
      rcases List.mem_or_eq_of_mem_set hq' with hq' | rfl
      · exact .inr ⟨q, hq', hpq⟩
      · exact .inr ⟨_, hq, List.mem_of_mem_tail hpq⟩
  · by_cases hpe : p = event
    · subst hpe
      simp only [popEvent_eventPool, Function.update_same, Option.some.injEq] at hp
      exact ⟨e, he, by rw [← hp]⟩
    · exact ⟨e', by simpa [hpe] using hp, rfl⟩

theorem logFree (h : Lifecycle s) {event : Nat} :
    Lifecycle { s with log := s.log ++ [.freeEvent event] } :=
  h.of_held (h.log.append fun a ha => by obtain rfl := List.mem_singleton.1 ha; trivial)
    (fun x hx => by simpa using hx) rfl (fun _ hp => hp) (fun _ e' hp => ⟨e', hp, rfl⟩)
    h.currentApp

theorem release (h : Lifecycle s) {event : Nat} :
    Lifecycle { s with eventPool := Function.update s.eventPool event none } := by
  refine h.of_held h.log (fun _ hx => hx) rfl (fun _ hp => hp) (fun p e' hp => ?_) h.currentApp
  by_cases hpe : p = event
  · subst hpe; simp at hp
  · exact ⟨e', by simpa [hpe] using hp, rfl⟩

end Lifecycle

theorem lifecycle_preserved : Preserved Sends fun _ => Lifecycle :=
  ⟨fun h hp => h.posts hp, fun h hev he => h.fanOut hev he,
    fun h happ hhead he => h.popEvent happ hhead he, fun h => h.logFree, fun h _ => h.release⟩

/-! ### Starting and ending a nanoapp -/

/-- The state in which `unloadNanoappAtIndex` calls `end`: the nanoapp current, the call
logged. -/
def logEnd (app : Nanoapp) (s : EventLoop) : EventLoop :=
  { s with currentApp := some app.instanceId, log := s.log ++ [.nanoappEnd app.instanceId] }

variable (env : Env) {run : Runner}

theorem unloadNanoappAtIndex_cases {i : Nat} {s s' : EventLoop}
    (h : unloadNanoappAtIndex env run i s = some s') :
    ∃ app s₁, s.nanoapps[i]? = some app ∧ run (env.nanoappEnd (logEnd app s) app) (logEnd app s) =
      some s₁ ∧ s' = { s₁ with currentApp := none, nanoapps := s₁.nanoapps.eraseIdx i } := by
  obtain ⟨app, happ, h⟩ := Option.bind_eq_some.1 h
  obtain ⟨s₁, h₁, h⟩ := Option.bind_eq_some.1 h
  exact ⟨app, s₁, happ, h₁, (Option.some.inj h).symm⟩

theorem instanceIds_eraseIdx (s : EventLoop) (i : Nat) :
    (s.nanoapps.eraseIdx i).map (·.instanceId) = s.instanceIds.eraseIdx i := by
  simp only [instanceIds, List.eraseIdx_eq_take_drop_succ, List.map_append, List.map_take,
    List.map_drop]

/-- The pointers held once the nanoapp at index `i` is erased were held before. -/
theorem held_eraseIdx {s : EventLoop} {i p : Nat}
    (h : ({ s with nanoapps := s.nanoapps.eraseIdx i } : EventLoop).Held p) : s.Held p := by
  rcases h with h | ⟨q, hq, hpq⟩
  · exact .inl h
  · exact .inr ⟨q, ((List.eraseIdx_sublist _ i).map _).subset hq, hpq⟩

/-- The pointers held once the last nanoapp is dropped were held before. -/
theorem held_dropLast {s : EventLoop} {p : Nat}
    (h : ({ s with nanoapps := s.nanoapps.dropLast } : EventLoop).Held p) : s.Held p := by
  rcases h with h | ⟨q, hq, hpq⟩
  · exact .inl h
  · exact .inr ⟨q, ((List.dropLast_sublist _).map _).subset hq, hpq⟩

/-- `unloadNanoappAtIndex`, when `end` makes no lifecycle request: `end` runs from `logEnd`, then
the nanoapp at index `i` is erased. -/
theorem unloadNanoappAtIndex_sends {env : Env} (henv : env.NoNestedLifecycle) {fuel i : Nat}
    {s s' : EventLoop} {app : Nanoapp} (happ : s.nanoapps[i]? = some app)
    (h : unloadNanoappAtIndex env (runRequests env fuel) i s = some s') :
    ∃ s₁, Sends (logEnd app s) s₁ ∧
      s' = { s₁ with currentApp := none, nanoapps := s₁.nanoapps.eraseIdx i } := by
  obtain ⟨app', s₁, happ', h₁, rfl⟩ := unloadNanoappAtIndex_cases env h
  obtain rfl : app = app' := Option.some.inj (happ.symm.trans happ')
  have hmem : app.instanceId ∈ s.instanceIds :=
    List.mem_map_of_mem _ (List.mem_iff_getElem?.2 ⟨i, happ⟩)
  exact ⟨s₁, runRequests_sends env (henv.nanoappEnd _ app) (fun x hx => Option.some.inj hx ▸ hmem)
    h₁, rfl⟩

/-- Erasing the nanoapp at index `i` erases its id, the ids being distinct. -/
theorem instanceIds_eraseIdx_eq_erase {s s₁ : EventLoop} {i : Nat} {app : Nanoapp}
    (hnodup : s.instanceIds.Nodup) (happ : s.nanoapps[i]? = some app)
    (hids : s₁.instanceIds = s.instanceIds) :
    (s₁.nanoapps.eraseIdx i).map (·.instanceId) = s.instanceIds.erase app.instanceId := by
  have hlt := (List.getElem?_eq_some_iff.1 happ).1
  rw [instanceIds_eraseIdx, hids]
  have := hnodup.erase_getElem i (by simpa [instanceIds] using hlt)
  simpa [instanceIds, (List.getElem?_eq_some_iff.1 happ).2] using this.symm

namespace Lifecycle

variable {env} {s s' : EventLoop}

/-- **Ending the nanoapp at index `i`** keeps `Lifecycle`, when it cannot post (it is the
stopping nanoapp, or the loop no longer runs) and no event still held was sent by it. -/
theorem unloadNanoappAtIndex (henv : env.NoNestedLifecycle) {fuel i : Nat} {app : Nanoapp}
    (h : Lifecycle s) (happ : s.nanoapps[i]? = some app)
    (hstop : s.stoppingNanoapp = some app.instanceId ∨ s.running = false)
    (hsent : ∀ p e, s.Held p → s.eventPool p = some e → e.senderInstanceId ≠ app.instanceId)
    (hu : EventLoop.unloadNanoappAtIndex env (runRequests env fuel) i s = some s') :
    Lifecycle s' := by
  obtain ⟨s₁, hp₁, rfl⟩ := unloadNanoappAtIndex_sends henv happ hu
  have hmem : app.instanceId ∈ s.instanceIds :=
    List.mem_map_of_mem _ (List.mem_iff_getElem?.2 ⟨i, happ⟩)
  obtain ⟨fresh, hev, -, hfresh⟩ := hp₁.events
  have hids := instanceIds_eraseIdx_eq_erase h.log.nodup happ hp₁.toPosts.instanceIds
  have hlog : LogLifecycle (s.instanceIds.erase app.instanceId) s.lastInstanceId
      (s.log ++ [.nanoappEnd app.instanceId]) := h.log.finish hmem
  have hold : ∀ p, s.Held p → s₁.eventPool p = s.eventPool p := fun p hheld =>
    (hp₁.eventPool p).resolve_right fun hn => absurd (h.held_lt hheld) (not_lt.2 hn.1)
  have hheld : ∀ p, ({ s₁ with currentApp := none, nanoapps := s₁.nanoapps.eraseIdx i } :
      EventLoop).Held p → s.Held p ∨ p ∈ fresh := by
    intro p hp
    rcases held_eraseIdx (s := { s₁ with currentApp := none }) hp with hp | ⟨q, hq, hpq⟩
    · rw [hev] at hp
      exact (List.mem_append.1 hp).imp_left .inl
    · exact .inl (.inr ⟨q, hp₁.queues ▸ hq, hpq⟩)
  refine ⟨?_, fun x hx p e hp he => ?_, fun p hle => ⟨?_, fun hp => ?_⟩, by rintro x ⟨⟩⟩
  · show LogLifecycle ((s₁.nanoapps.eraseIdx i).map (·.instanceId)) s₁.lastInstanceId s₁.log
    rw [hids, hp₁.log, hp₁.lastInstanceId]
    exact hlog
  · rw [show s₁.log = _ from hp₁.log] at hx
    rcases hheld p hp with hp | hpf
    · rw [hold p hp] at he
      rcases List.mem_append.1 hx with hx | hx
      · exact h.sentBeforeEnd x hx p e hp he
      · obtain rfl : x = app.instanceId := by simpa using hx
        exact hsent p e hp he
    · have hnone := (h.unallocated p (hfresh p hpf).1).1
      rcases hp₁.sender p e he with hsame | hsys | ⟨hloaded, hne, hrun⟩
      · simp [hsame, logEnd, hnone] at he
      · exact hsys ▸ (hlog.ne_kSystemInstanceId hx).symm
      · rintro rfl
        rcases List.mem_append.1 hx with hx | hx
        · exact h.log.not_ended hloaded hx
        · have hx' : e.senderInstanceId = app.instanceId := by simpa using hx
          rcases hstop with hstop | hstop
          · exact hne (by simp [logEnd, hstop, hx'])
          · simp [logEnd, hstop] at hrun
  · rw [show s₁.eventPool p = _ from hp₁.unallocated p hle]
    exact (h.unallocated p (hp₁.nextEventPointer_le.trans hle)).1
  · rcases hheld p hp with hp | hpf
    · exact (h.unallocated p (hp₁.nextEventPointer_le.trans hle)).2 hp
    · exact absurd (hfresh p hpf).2 (not_lt.2 hle)

/-- **Starting a nanoapp** keeps `Lifecycle`: it is loaded under a fresh instance id, and stays
loaded exactly if its `start` succeeded. -/
theorem startNanoapp (henv : env.NoNestedLifecycle) {fuel : Nat} {appId : UInt64}
    {isSystemNanoapp : Bool} {r : Bool × EventLoop} (h : Lifecycle s)
    (hs : EventLoop.startNanoapp env (runRequests env fuel) appId isSystemNanoapp s = some r) :
    Lifecycle r.2 := by
  unfold EventLoop.startNanoapp at hs
  split_ifs at hs
  · cases hs; exact h
  · cases hs; exact h
  obtain ⟨x, hx, hs⟩ := Option.bind_eq_some.1 hs
  obtain ⟨s₁, h₁, hs⟩ := Option.bind_eq_some.1 hs
  have hnext : s.lastInstanceId + 1 ≠ kBroadcastInstanceId ∧ x = s.lastInstanceId + 1 := by
    unfold getNextInstanceId at hx
    split_ifs at hx with hb
    exact ⟨hb, (Option.some.inj hx).symm⟩
  obtain ⟨hnext, rfl⟩ := hnext
  set app : Nanoapp := ⟨appId, s.lastInstanceId + 1, isSystemNanoapp, [], []⟩
  have hp₁ := runRequests_sends env (henv.nanoappStart _ app)
    (fun y hy => by simp [instanceIds, ← Option.some.inj hy]) h₁
  obtain ⟨fresh, hev, -, hfresh⟩ := hp₁.events
  have hsucc := UInt32.toNat_add_one h.log.last_ne
  -- the pointers `s₁` holds were held by `s` or are fresh
  have hheld : ∀ p, s₁.Held p → s.Held p ∨ p ∈ fresh := by
    rintro p (hp | ⟨q, hq, hpq⟩)
    · rw [hev] at hp
      exact (List.mem_append.1 hp).imp_left .inl
    · rw [hp₁.queues] at hq
      simp only [queues, List.map_append, List.map_cons, List.map_nil, List.mem_append,
        List.mem_singleton] at hq
      rcases hq with hq | rfl
      · exact .inl (.inr ⟨q, hq, hpq⟩)
      · simp at hpq
  have hold : ∀ p, s.Held p → s₁.eventPool p = s.eventPool p := fun p hheld =>
    (hp₁.eventPool p).resolve_right fun hn => absurd (h.held_lt hheld) (not_lt.2 hn.1)
  have hsent : ∀ y, .nanoappEnd y ∈ s.log → ∀ p e, s₁.Held p → s₁.eventPool p = some e →
      e.senderInstanceId ≠ y := by
    intro y hy p e hp he
    rcases hheld p hp with hp | hpf
    · exact h.sentBeforeEnd y hy p e hp ((hold p hp).symm.trans he)
    · have hnone := (h.unallocated p (hfresh p hpf).1).1
      rcases hp₁.sender p e he with hsame | hsys | ⟨hloaded, -, -⟩
      · simp [hsame, hnone] at he
      · exact hsys ▸ (h.log.ne_kSystemInstanceId hy).symm
      · rintro rfl
        simp only [instanceIds, List.map_append, List.mem_append] at hloaded
        rcases hloaded with hloaded | hloaded
        · exact h.log.not_ended hloaded hy
        · have := (h.log.started _ _ (h.log.ended _ hy)).2
          simp only [List.map_cons, List.map_nil, List.mem_singleton] at hloaded
          rw [hloaded] at this
          omega
  have hunalloc : ∀ p, s₁.nextEventPointer ≤ p → s₁.eventPool p = none ∧ ¬s₁.Held p :=
    fun p hle => ⟨(hp₁.unallocated p hle).trans (h.unallocated p (hp₁.nextEventPointer_le.trans hle)).1,
      fun hp => (hheld p hp).elim (h.unallocated p (hp₁.nextEventPointer_le.trans hle)).2
        fun hpf => absurd (hfresh p hpf).2 (not_lt.2 hle)⟩
  have hended : ∀ y, .nanoappEnd y ∈ s₁.log → .nanoappEnd y ∈ s.log := fun y hy => by
    simpa [hp₁.log] using hy
  split at hs <;> rename_i hb <;> obtain rfl := Option.some.inj hs
  · refine ⟨?_, fun y hy => hsent y (hended y hy), fun p hle => hunalloc p hle, by rintro y ⟨⟩⟩
    show LogLifecycle s₁.instanceIds s₁.lastInstanceId s₁.log
    rw [hp₁.toPosts.instanceIds, hp₁.log, hp₁.lastInstanceId]
    simpa [hb, instanceIds, app] using h.log.start hnext true
  · refine ⟨?_, fun y hy => ?_, fun p hle => ⟨(hunalloc p hle).1, fun hp => (hunalloc p hle).2 ?_⟩,
      by rintro y ⟨⟩⟩
    · show LogLifecycle ((s₁.nanoapps.dropLast).map (·.instanceId)) s₁.lastInstanceId s₁.log
      rw [List.map_dropLast, show s₁.nanoapps.map (·.instanceId) = s₁.instanceIds from rfl,
        hp₁.toPosts.instanceIds, hp₁.log, hp₁.lastInstanceId]
      simpa [hb, instanceIds, app] using h.log.start hnext false
    · intro p e hp he
      exact hsent y (hended y hy) p e (held_dropLast hp) he
    · exact held_dropLast hp

end Lifecycle

/-- A nanoapp whose `start()` sends an event, with a free callback, then fails. -/
def sendThenFailEnv : Env :=
  { quietEnv with
    nanoappStart := fun _ _ => (false, [.sendEvent 0x100 7 (some 0) kBroadcastInstanceId]) }

/-- **A failed start leaves the events its `start()` sent.** `startNanoapp` only pops the
nanoapp whose `start()` failed; an event it sent stays in `mEvents`, its sender the id of a
nanoapp no longer loaded. `Lifecycle` allows this: that nanoapp was never ended. -/
theorem startNanoapp_failed_leaves_events :
    ¬ ∀ (env : Env) (fuel : Nat), (∀ s app, (env.nanoappStart s app).1 = false) →
      ∀ (appId : UInt64) (isSystemNanoapp : Bool) (s s' : EventLoop) (x : UInt32),
        s.getNextInstanceId = some x →
        startNanoapp env (runRequests env fuel) appId isSystemNanoapp s = some (false, s') →
        .nanoappStart x false ∈ s'.log →
        ∀ p e, s'.Held p → s'.eventPool p = some e → e.senderInstanceId ≠ x := fun h =>
  h sendThenFailEnv 0 (fun _ _ => rfl) 0x10 false {} _ 1 (by decide) rfl (by decide) 0 _
    (.inl (by decide)) rfl rfl

end EventLoop

end Chre

import Chre.EventLoop.Steps
import Mathlib.Algebra.Order.BigOperators.Group.List
import Mathlib.Algebra.Order.Group.Nat
import Mathlib.Algebra.Order.Ring.Nat

/-!
# Every distributed event is delivered once to each taker, then freed once

Over every run that starts and unloads no nanoapp (`Reachable`), the log of the loop accounts
for each event (`Accounting`):

* the distribution logs it at most once, with one `postEvent` per nanoapp that took it;
* for each nanoapp, the deliveries of the event plus the copies still in its queue equal the
  copies it was given, at most one;
* while it is not freed, its reference count is the number of references the queues hold;
* it is freed at most once, exactly when it has been distributed and no queue holds it, and
  each free comes right after the event's distribution (no taker) or after one of its
  deliveries, with no delivery after it (`FreedLast`).

Each piece of `Steps` keeps `Accounting` (`accounting_preserved`), with the event it leaves to
be freed as its index. `Reachable.deliveredOnce` collects what this says about every state a run
reaches, with `distributeEvent_queues` for the queues of one distribution; `Rounds` adds that the
flush of the queues then delivers and frees what is left (`reachable_deliveredOnce`).
-/

namespace Chre

/-! ### Lists -/

namespace List

theorem count_instanceId_filter {l : List Nanoapp} (hl : (l.map (·.instanceId)).Nodup)
    {app : Nanoapp} (happ : app ∈ l) (p : Nanoapp → Bool) :
    ((l.filter p).map (·.instanceId)).count app.instanceId = if p app then 1 else 0 := by
  induction l with
  | nil => cases happ
  | cons a l ih =>
    rw [List.map_cons, List.nodup_cons] at hl
    rcases List.mem_cons.1 happ with rfl | happ
    · have : app.instanceId ∉ (l.filter p).map (·.instanceId) :=
        fun h => hl.1 (List.map_subset _ (List.filter_sublist _).subset h)
      by_cases hp : p app <;> simp [List.filter_cons, hp, List.count_cons, List.count_eq_zero.2 this]
    · have hne : a.instanceId ≠ app.instanceId := fun h => hl.1 (h ▸ List.mem_map_of_mem _ happ)
      by_cases hp : p a <;> simp [List.filter_cons, hp, List.count_cons, hne, ih hl.2 happ]

theorem count_instanceId_filter_le {l : List Nanoapp} (hl : (l.map (·.instanceId)).Nodup)
    (p : Nanoapp → Bool) (i : UInt32) : ((l.filter p).map (·.instanceId)).count i ≤ 1 :=
  List.nodup_iff_count_le_one.1 (hl.sublist ((List.filter_sublist l).map _)) i

theorem sum_map_count_fanOut (l : List Nanoapp) (p : Nanoapp → Bool) (event x : Nat) :
    (l.map fun app => (if p app then app.eventQueue ++ [event] else app.eventQueue).count x).sum =
      (l.map fun app => app.eventQueue.count x).sum +
        if x = event then (l.filter p).length else 0 := by
  induction l with
  | nil => simp
  | cons app l ih =>
    simp only [List.map_cons, List.sum_cons, ih, List.filter_cons]
    by_cases hp : p app <;> by_cases hx : x = event <;> simp [hp, hx, List.count_cons] <;> omega

theorem sum_map_set {α : Type} (f : α → Nat) :
    ∀ {l : List α} {i : Nat} {a : α} (b : α), l[i]? = some a →
      ((l.set i b).map f).sum + f a = (l.map f).sum + f b
  | [], _, _, _, h => by simp at h
  | c :: l, 0, a, b, h => by simp at h; subst h; simp; omega
  | c :: l, i + 1, a, b, h => by
    have := sum_map_set f (l := l) b (by simpa using h)
    simp only [List.set_cons_succ, List.map_cons, List.sum_cons]
    omega

variable {l : List (UInt32 × List Nat)} {i : Nat} {a : UInt32} {b c : List Nat}

theorem map_fst_set (hi : l[i]? = some (a, b)) (c : List Nat) :
    (l.set i (a, c)).map Prod.fst = l.map Prod.fst := by
  refine List.ext_getElem? fun j => ?_
  simp only [List.map_set, List.getElem?_set, List.getElem?_map, hi, List.length_map]
  split_ifs with hij hj
  · subst hij; simp [hi]
  · subst hij; exact absurd (List.getElem?_eq_some_iff.1 hi).1 hj
  · rfl

theorem eq_of_getElem?_of_nodup {l : List UInt32} (hl : l.Nodup) {i j : Nat} {a : UInt32}
    (hi : l[i]? = some a) (hj : l[j]? = some a) : i = j := by
  obtain ⟨_, hi⟩ := List.getElem?_eq_some_iff.1 hi
  obtain ⟨_, hj⟩ := List.getElem?_eq_some_iff.1 hj
  exact hl.getElem_inj_iff.1 (hi.trans hj.symm)

theorem mem_set_of_nodup (hl : (l.map Prod.fst).Nodup) (hi : l[i]? = some (a, b))
    {q : UInt32 × List Nat} (hq : q ∈ l.set i (a, c)) : q = (a, c) ∨ q ∈ l ∧ q.1 ≠ a := by
  obtain ⟨j, hj⟩ := List.mem_iff_getElem?.1 hq
  rw [List.getElem?_set] at hj
  split_ifs at hj with hij
  · exact .inl (Option.some.inj hj).symm
  · refine .inr ⟨List.mem_iff_getElem?.2 ⟨j, hj⟩, fun hfst => hij ?_⟩
    exact eq_of_getElem?_of_nodup hl (a := a) (by simp [hi]) (by simp [hj, hfst])

end List

namespace EventLoop

/-! ### What the log says of an event -/

/-- The references the nanoapps' queues hold to `event`. -/
def queued (s : EventLoop) (event : Nat) : Nat :=
  (s.queues.map fun q => q.2.count event).sum

@[simp] theorem queued_log (s : EventLoop) (log : List Action) :
    queued { s with log := log } = queued s := rfl

@[simp] theorem queued_eventPool (s : EventLoop) (eventPool : Nat → Option Event) :
    queued { s with eventPool := eventPool } = queued s := rfl

@[simp] theorem queued_events (s : EventLoop) (events : List Nat) :
    queued { s with events := events } = queued s := rfl

/-- Every free of an event comes right after its distribution or one of its deliveries, and no
delivery of the event follows it. -/
def FreedLast (log : List Action) : Prop :=
  ∀ pre event post, log = pre ++ .freeEvent event :: post →
    (pre.getLast? = some (.distributeEvent event) ∨
      ∃ i, pre.getLast? = some (.nanoappHandleEvent i event)) ∧
    ∀ i, .nanoappHandleEvent i event ∉ post

namespace FreedLast

theorem nil : FreedLast [] := fun _ _ _ h => absurd h (by simp)

/-- Appending no free, and no delivery of an event already freed, keeps `FreedLast`. -/
theorem append {log ext : List Action} (h : FreedLast log)
    (hfree : ∀ event, .freeEvent event ∉ ext)
    (hhandle : ∀ event i, .freeEvent event ∈ log → .nanoappHandleEvent i event ∉ ext) :
    FreedLast (log ++ ext) := by
  intro pre event post hlog
  rcases List.append_eq_append_iff.1 hlog with ⟨a', -, hext⟩ | ⟨c', hpre, hpost⟩
  · exact absurd (hext ▸ List.mem_append_right _ (List.mem_cons_self _ _)) (hfree event)
  · cases c' with
    | nil =>
      rw [List.nil_append] at hpost
      exact absurd (hpost ▸ List.mem_cons_self _ _) (hfree event)
    | cons z c'' =>
      obtain ⟨rfl, rfl⟩ := List.cons_eq_cons.1 hpost
      obtain ⟨hlast, hafter⟩ := h pre event c'' hpre
      refine ⟨hlast, fun i hi => ?_⟩
      rcases List.mem_append.1 hi with hi | hi
      · exact hafter i hi
      · exact hhandle event i (hpre ▸ by simp) hi

/-- Freeing an event right after its distribution or one of its deliveries keeps `FreedLast`. -/
theorem append_free {log : List Action} {event : Nat} (h : FreedLast log)
    (hlast : log.getLast? = some (.distributeEvent event) ∨
      ∃ i, log.getLast? = some (.nanoappHandleEvent i event)) :
    FreedLast (log ++ [.freeEvent event]) := by
  intro pre x post hlog
  rcases List.append_eq_append_iff.1 hlog with ⟨a', rfl, hext⟩ | ⟨c', hpre, hpost⟩
  · cases a' with
    | nil =>
      obtain ⟨hx, rfl⟩ := List.cons_eq_cons.1 hext
      cases hx
      exact ⟨by simpa using hlast, by simp⟩
    | cons z a'' => simp at hext
  · cases c' with
    | nil =>
      obtain ⟨hx, rfl⟩ := List.cons_eq_cons.1 hpost
      cases hx
      exact ⟨by simpa [hpre] using hlast, by simp⟩
    | cons z c'' =>
      obtain ⟨rfl, rfl⟩ := List.cons_eq_cons.1 hpost
      obtain ⟨hlast, hafter⟩ := h pre x c'' hpre
      exact ⟨hlast, fun i hi => by simpa using hafter i (by simpa using hi)⟩

end FreedLast

@[simp] theorem count_postEvents_postEvent (l : List Nanoapp) (event x : Nat) (i : UInt32) :
    (l.map fun app => Action.postEvent app.instanceId event).count (.postEvent i x) =
      if x = event then (l.map (·.instanceId)).count i else 0 := by
  induction l with
  | nil => simp
  | cons app l ih =>
    by_cases hx : x = event
    · subst hx; simp [List.count_cons, ih]
    · simp [List.count_cons, ih, hx, Ne.symm hx]

@[simp] theorem count_postEvents_eq_zero (l : List Nanoapp) (event : Nat) {a : Action}
    (ha : ∀ i x, a ≠ .postEvent i x) :
    (l.map fun app => Action.postEvent app.instanceId event).count a = 0 :=
  List.count_eq_zero.2 fun h => by
    obtain ⟨app, -, rfl⟩ := List.mem_map.1 h
    exact ha _ _ rfl

/-- What the log and the loop's state say of every event. `pending` is an event whose last
reference is gone and which the current step has still to free. -/
structure Accounting (pending : Option Nat) (s : EventLoop) : Prop where
  ids : (s.queues.map Prod.fst).Nodup
  events_sorted : s.events.Sorted (· < ·)
  /-- An event in `mEvents` is allocated and not yet distributed. -/
  events : ∀ event ∈ s.events, s.log.count (.distributeEvent event) = 0 ∧ event < s.nextEventPointer
  pooled : ∀ event ∈ s.events, (s.eventPool event).isSome
  distributed_le : ∀ event, s.log.count (.distributeEvent event) ≤ 1
  distributed_lt : ∀ event, s.log.count (.distributeEvent event) = 1 → event < s.nextEventPointer
  posted_le : ∀ i event, s.log.count (.postEvent i event) ≤ s.log.count (.distributeEvent event)
  /-- Deliveries and copies still queued make up the copies a nanoapp was given. -/
  queue : ∀ q ∈ s.queues, ∀ event, s.log.count (.nanoappHandleEvent q.1 event) + q.2.count event =
    s.log.count (.postEvent q.1 event)
  /-- A nanoapp not loaded has handled every copy it was given. -/
  unloaded : ∀ i ∉ s.queues.map Prod.fst, ∀ event,
    s.log.count (.nanoappHandleEvent i event) = s.log.count (.postEvent i event)
  freed_le : ∀ event, s.log.count (.freeEvent event) ≤ s.log.count (.distributeEvent event)
  freed_unqueued : ∀ event, s.log.count (.freeEvent event) = 1 → queued s event = 0
  unqueued_freed : ∀ event, s.log.count (.distributeEvent event) = 1 → queued s event = 0 →
    s.log.count (.freeEvent event) = 1 ∨ pending = some event
  refCount : ∀ event e, s.eventPool event = some e → s.log.count (.freeEvent event) = 0 →
    e.refCount = queued s event
  live : ∀ event, s.log.count (.distributeEvent event) = 1 → s.log.count (.freeEvent event) = 0 →
    (s.eventPool event).isSome
  pending : ∀ event, pending = some event → s.log.count (.freeEvent event) = 0 ∧
    s.log.count (.distributeEvent event) = 1 ∧ queued s event = 0 ∧
    (s.log.getLast? = some (.distributeEvent event) ∨
      ∃ i, s.log.getLast? = some (.nanoappHandleEvent i event))
  freedLast : FreedLast s.log

namespace Accounting

variable {p : Option Nat} {s : EventLoop}

theorem count_queue_le_queued {q : UInt32 × List Nat} (hq : q ∈ s.queues) (event : Nat) :
    q.2.count event ≤ queued s event :=
  List.le_sum_of_mem (List.mem_map_of_mem (fun q => q.2.count event) hq)

theorem queued_eq_zero_iff {event : Nat} : queued s event = 0 ↔ ∀ q ∈ s.queues, event ∉ q.2 := by
  simp only [queued, List.sum_eq_zero_iff, List.mem_map, forall_exists_index, and_imp,
    forall_apply_eq_imp_iff₂, List.count_eq_zero]

/-- An event some queue holds, or some nanoapp has handled, has been distributed. -/
theorem distributed_of_posted (h : Accounting p s) {i : UInt32} {event : Nat}
    (hpos : 0 < s.log.count (.postEvent i event)) : s.log.count (.distributeEvent event) = 1 := by
  have := h.posted_le i event
  have := h.distributed_le event
  omega

theorem distributed_of_queued (h : Accounting p s) {event : Nat} (hq : 0 < queued s event) :
    s.log.count (.distributeEvent event) = 1 := by
  obtain ⟨q, hq, hmem⟩ : ∃ q ∈ s.queues, event ∈ q.2 := by
    by_contra hn
    push_neg at hn
    exact hq.ne' (queued_eq_zero_iff.2 hn)
  have := h.queue q hq event
  exact h.distributed_of_posted (i := q.1) (by have := List.count_pos_iff.2 hmem; omega)

theorem unfreed_of_queued (h : Accounting p s) {event : Nat} (hq : 0 < queued s event) :
    s.log.count (.freeEvent event) = 0 := by
  have := h.freed_le event
  have := h.distributed_le event
  by_contra hne
  exact hq.ne' (h.freed_unqueued event (by omega))

theorem undistributed_of_le (h : Accounting p s) {event : Nat} (hle : s.nextEventPointer ≤ event) :
    s.log.count (.distributeEvent event) = 0 := by
  have := h.distributed_le event
  by_contra hne
  exact absurd (h.distributed_lt event (by omega)) (by omega)

theorem queued_eq_zero_of_le (h : Accounting p s) {event : Nat} (hle : s.nextEventPointer ≤ event) :
    queued s event = 0 := by
  by_contra hne
  have := h.distributed_of_queued (Nat.pos_of_ne_zero hne)
  have := h.undistributed_of_le hle
  omega

/-! ### Each piece keeps the accounting -/

theorem posts {s' : EventLoop} (h : Accounting p s) (hp : Posts s s') : Accounting p s' := by
  have hq : ∀ event, queued s' event = queued s event := fun _ => by simp [queued, hp.queues]
  obtain ⟨fresh, hev, hsorted, hfresh⟩ := hp.events
  refine ⟨hp.queues ▸ h.ids, ?_, ?_, ?_, ?_, ?_, ?_, ?_, ?_, ?_, ?_, ?_, ?_, ?_, ?_, ?_⟩
  all_goals simp only [hp.log, hp.queues, hq, hev]
  · exact List.pairwise_append.2 ⟨h.events_sorted, hsorted, fun a ha b hb =>
      (h.events a ha).2.trans_le (hfresh b hb).1⟩
  · intro event hmem
    rcases List.mem_append.1 hmem with hmem | hmem
    · exact ⟨(h.events event hmem).1, (h.events event hmem).2.trans_le hp.nextEventPointer_le⟩
    · exact ⟨h.undistributed_of_le (hfresh event hmem).1, (hfresh event hmem).2⟩
  · intro event hmem
    rcases hp.allocated event (by rw [hev]; exact hmem) with hold | hnew
    · rw [(hp.eventPool event).resolve_right fun hn => absurd (h.events event hold).2 (not_lt.2 hn.1)]
      exact h.pooled event hold
    · exact hnew
  · exact h.distributed_le
  · exact fun event he => (h.distributed_lt event he).trans_le hp.nextEventPointer_le
  · exact h.posted_le
  · exact h.queue
  · exact h.unloaded
  · exact h.freed_le
  · exact h.freed_unqueued
  · exact h.unqueued_freed
  · intro event e he hfree
    rcases hp.eventPool event with hpool | ⟨hle, hnew⟩
    · exact h.refCount event e (hpool ▸ he) hfree
    · rw [hnew e he, h.queued_eq_zero_of_le hle]
  · intro event hd hfree
    rw [(hp.eventPool event).resolve_right fun hn =>
      absurd (h.distributed_lt event hd) (not_lt.2 hn.1)]
    exact h.live event hd hfree
  · exact h.pending
  · exact h.freedLast

/-- An event in `mEvents` has no trace in the log and no reference in a queue. -/
theorem of_mem_events (h : Accounting p s) {event : Nat} (hmem : event ∈ s.events) :
    s.log.count (.distributeEvent event) = 0 ∧ (∀ i, s.log.count (.postEvent i event) = 0) ∧
      s.log.count (.freeEvent event) = 0 ∧ queued s event = 0 := by
  have hd := (h.events event hmem).1
  have hposted : ∀ i, s.log.count (.postEvent i event) = 0 :=
    fun i => Nat.le_zero.1 (hd ▸ h.posted_le i event)
  refine ⟨hd, hposted, Nat.le_zero.1 (hd ▸ h.freed_le event), queued_eq_zero_iff.2 ?_⟩
  intro q hq hmemq
  have := h.queue q hq event
  have := List.count_pos_iff.2 hmemq
  rw [hposted] at *
  omega

theorem fanOut {event : Nat} {rest : List Nat} {e : Event} (h : Accounting none s)
    (hev : s.events = event :: rest) (he : s.eventPool event = some e) :
    Accounting (if e.refCount + (s.nanoapps.filter (·.takes e)).length = 0 then some event else none)
      (EventLoop.fanOut event e { s with events := rest }) := by
  obtain ⟨hd, hposted, hfree, hq0⟩ := h.of_mem_events (hev ▸ List.mem_cons_self _ _)
  have hlt := (h.events event (hev ▸ List.mem_cons_self _ _)).2
  have hrc : e.refCount = 0 := (h.refCount event e he hfree).trans hq0
  have hsorted : (event :: rest).Sorted (· < ·) := hev ▸ h.events_sorted
  have hids : (s.nanoapps.map (·.instanceId)).Nodup := by simpa [queues] using h.ids
  have hqueued : ∀ x, queued (EventLoop.fanOut event e { s with events := rest }) x =
      queued s x + if x = event then (s.nanoapps.filter (·.takes e)).length else 0 := fun x => by
    rw [queued, queued, fanOut_queues]
    simpa only [queues, List.map_map, Function.comp_def] using
      List.sum_map_count_fanOut s.nanoapps (·.takes e) event x
  rw [hrc, Nat.zero_add]
  refine ⟨?_, hsorted.of_cons, fun x hx => ?_, fun x hx => ?_, fun x => ?_, fun x hx => ?_, fun i x => ?_,
    fun q hq x => ?_, fun i hi x => ?_, fun x => ?_, fun x hx => ?_, fun x hx hqx => ?_, fun x ex hx hfx => ?_,
    fun x hx hfx => ?_, fun x hx => ?_, ?_⟩
  · rw [fanOut_queues]
    simpa [queues, List.map_map, Function.comp_def] using h.ids
  · replace hx : x ∈ rest := hx
    have hne : x ≠ event := (ne_of_lt (List.rel_of_sorted_cons hsorted x hx)).symm
    simpa [List.count_cons, Ne.symm hne] using h.events x (by simp [hev, hx])
  · replace hx : x ∈ rest := hx
    have hne : x ≠ event := (ne_of_lt (List.rel_of_sorted_cons hsorted x hx)).symm
    simpa [hne] using h.pooled x (by simp [hev, hx])
  · by_cases hxe : x = event
    · subst hxe; simp [List.count_cons, hd]
    · simpa [List.count_cons, Ne.symm hxe] using h.distributed_le x
  · by_cases hxe : x = event
    · exact hxe ▸ hlt
    · exact h.distributed_lt x (by simpa [List.count_cons, Ne.symm hxe] using hx)
  · by_cases hxe : x = event
    · subst hxe
      simpa [List.count_cons, hposted, hd] using List.count_instanceId_filter_le hids _ i
    · simpa [List.count_cons, Ne.symm hxe, hxe] using h.posted_le i x
  · rw [fanOut_queues] at hq
    obtain ⟨app, happ, rfl⟩ := List.mem_map.1 hq
    have hold := h.queue (app.instanceId, app.eventQueue) (List.mem_map_of_mem _ happ) x
    have htake := List.count_instanceId_filter hids happ (·.takes e)
    simp only [fanOut_log, List.count_append, List.count_cons, count_postEvents_postEvent,
      count_postEvents_eq_zero, beq_iff_eq, reduceCtorEq, if_false, Nat.add_zero, htake] at hold ⊢
    by_cases ht : app.takes e <;> by_cases hxe : x = event <;> simp [ht, hxe] at hold ⊢ <;> omega
  · rw [fanOut_queues, List.map_map] at hi
    have hnone : ((s.nanoapps.filter (·.takes e)).map (·.instanceId)).count i = 0 :=
      List.count_eq_zero.2 fun hmem => hi (by simpa using List.map_subset _ (List.filter_sublist _).subset hmem)
    simpa [List.count_cons, hnone] using h.unloaded i (by simpa [queues] using hi) x
  · simpa [List.count_cons] using (h.freed_le x).trans (by simp [List.count_cons])
  · have hxe : x ≠ event := by rintro rfl; simp [List.count_cons, hfree] at hx
    rw [hqueued, if_neg hxe]
    exact h.freed_unqueued x (by simpa [List.count_cons] using hx)
  · by_cases hxe : x = event
    · subst hxe
      rw [hqueued, hq0, if_pos rfl, Nat.zero_add] at hqx
      exact .inr (by simp [hqx])
    · rw [hqueued, if_neg hxe, Nat.add_zero] at hqx
      rcases h.unqueued_freed x (by simpa [List.count_cons, Ne.symm hxe] using hx) hqx with hf | hf
      · exact .inl (by simpa [List.count_cons] using hf)
      · cases hf
  · by_cases hxe : x = event
    · subst hxe
      simp only [fanOut_eventPool, Function.update_same, Option.some.injEq] at hx
      rw [← hx, hqueued, hrc, hq0]
      simp
    · rw [hqueued, if_neg hxe, Nat.add_zero]
      exact h.refCount x ex (by simpa [hxe] using hx) (by simpa [List.count_cons] using hfx)
  · by_cases hxe : x = event
    · subst hxe; simp
    · simpa [hxe] using h.live x (by simpa [List.count_cons, Ne.symm hxe] using hx)
        (by simpa [List.count_cons] using hfx)
  · split_ifs at hx with hl
    cases hx
    rw [List.length_eq_zero] at hl
    refine ⟨by simp [List.count_cons, hfree], by simp [List.count_cons, hd], ?_, .inl ?_⟩
    · rw [hqueued, hq0]; simp [hl]
    · simp [hl]
  · rw [fanOut_log]
    exact h.freedLast.append (fun _ => by simp) (fun _ _ _ => by simp)

theorem popEvent {i : Nat} {app : Nanoapp} {event : Nat} {e : Event} (h : Accounting none s)
    (happ : s.nanoapps[i]? = some app) (hhead : app.eventQueue.head? = some event)
    (he : s.eventPool event = some e) :
    Accounting (if e.refCount - 1 = 0 then some event else none)
      (EventLoop.popEvent i app event e s) := by
  have hqi : s.queues[i]? = some (app.instanceId, app.eventQueue) := by simp [queues, happ]
  have hmem : (app.instanceId, app.eventQueue) ∈ s.queues := List.mem_iff_getElem?.2 ⟨i, hqi⟩
  obtain ⟨tail, htail⟩ : ∃ tail, app.eventQueue = event :: tail := by
    cases hq : app.eventQueue with
    | nil => simp [hq] at hhead
    | cons a l => exact ⟨l, by simpa [hq] using hhead⟩
  have hpos : 0 < queued s event :=
    lt_of_lt_of_le (by simp [htail, List.count_cons]) (count_queue_le_queued hmem event)
  have hlog : ∀ a, (EventLoop.popEvent i app event e s).log.count a =
      if .nanoappHandleEvent app.instanceId event = a then s.log.count a + 1 else s.log.count a :=
    fun a => by
      simp only [popEvent_log, List.count_append, List.count_singleton, beq_iff_eq]
      split <;> rfl
  have hfree := h.unfreed_of_queued hpos
  have hd := h.distributed_of_queued hpos
  have hrc : e.refCount = queued s event := h.refCount event e he hfree
  have hqueued : ∀ x, queued (EventLoop.popEvent i app event e s) x + (if x = event then 1 else 0) =
      queued s x := fun x => by
    have := List.sum_map_set (fun q : UInt32 × List Nat => q.2.count x)
      (app.instanceId, app.eventQueue.tail) hqi
    rw [queued, queued, popEvent_queues]
    by_cases hxe : x = event
    · subst hxe; simp [htail, List.count_cons] at this ⊢; omega
    · simp [htail, List.count_cons, hxe, Ne.symm hxe] at this ⊢; omega
  refine ⟨?_, h.events_sorted, by simpa only [hlog, reduceCtorEq, ↓reduceIte] using h.events,
    fun x hx => by by_cases hxe : x = event <;> simp [hxe, h.pooled x hx],
    by simpa only [hlog, reduceCtorEq, ↓reduceIte] using h.distributed_le,
    by simpa only [hlog, reduceCtorEq, ↓reduceIte] using h.distributed_lt,
    by simpa only [hlog, reduceCtorEq, ↓reduceIte] using h.posted_le, fun q hq x => ?_,
    fun j hj x => ?_, by simpa only [hlog, reduceCtorEq, ↓reduceIte] using h.freed_le, fun x hx => ?_,
    fun x hx hqx => ?_, fun x ex hx hfx => ?_, fun x hx hfx => ?_, fun x hx => ?_, ?_⟩
  · rw [popEvent_queues, List.map_fst_set hqi]
    exact h.ids
  · rw [popEvent_queues] at hq
    rcases List.mem_set_of_nodup h.ids hqi hq with rfl | ⟨hq, hne⟩
    · have hold := h.queue _ hmem x
      by_cases hxe : x = event
      · subst hxe; simp [htail, List.count_cons] at hold ⊢; omega
      · simp [htail, List.count_cons, hxe, Ne.symm hxe] at hold ⊢; omega
    · simpa [List.count_cons, Ne.symm hne] using h.queue q hq x
  · rw [popEvent_queues, List.map_fst_set hqi] at hj
    have hne : app.instanceId ≠ j := fun hj' => hj (hj' ▸ List.mem_map_of_mem _ hmem)
    simpa only [hlog, Action.nanoappHandleEvent.injEq, hne, false_and, reduceCtorEq, ↓reduceIte]
      using h.unloaded j hj x
  · have := hqueued x
    have := h.freed_unqueued x (by simpa only [hlog, reduceCtorEq, ↓reduceIte] using hx)
    omega
  · have hx' : s.log.count (.distributeEvent x) = 1 := by
      simpa only [hlog, reduceCtorEq, ↓reduceIte] using hx
    by_cases hxe : x = event
    · subst hxe
      have := hqueued x
      rw [hqx, if_pos rfl, Nat.zero_add] at this
      simp [hrc, ← this]
    · have := hqueued x
      rw [if_neg hxe, Nat.add_zero, hqx] at this
      rcases h.unqueued_freed x hx' this.symm with hf | hf
      · exact .inl (by simpa only [hlog, reduceCtorEq, ↓reduceIte] using hf)
      · cases hf
  · have hfx' : s.log.count (.freeEvent x) = 0 := by
      simpa only [hlog, reduceCtorEq, ↓reduceIte] using hfx
    have := hqueued x
    by_cases hxe : x = event
    · subst hxe
      simp only [popEvent_eventPool, Function.update_same, Option.some.injEq] at hx
      subst hx
      simp at this
      show e.refCount - 1 = _
      omega
    · rw [if_neg hxe, Nat.add_zero] at this
      rw [this]
      exact h.refCount x ex (by simpa [hxe] using hx) hfx'
  · by_cases hxe : x = event
    · subst hxe; simp
    · simpa [hxe] using h.live x (by simpa only [hlog, reduceCtorEq, ↓reduceIte] using hx)
        (by simpa only [hlog, reduceCtorEq, ↓reduceIte] using hfx)
  · split_ifs at hx with hl
    cases hx
    have := hqueued event
    simp at this
    refine ⟨by simp [List.count_cons, hfree], by simp [List.count_cons, hd], by omega,
      .inr ⟨app.instanceId, by simp⟩⟩
  · rw [popEvent_log]
    refine h.freedLast.append (by simp) fun x j hx => ?_
    simp only [List.mem_singleton, Action.nanoappHandleEvent.injEq, not_and]
    rintro - rfl
    exact absurd (List.count_pos_iff.2 hx) (by omega)

theorem logFree {event : Nat} (h : Accounting (some event) s) :
    Accounting none { s with log := s.log ++ [.freeEvent event] } := by
  obtain ⟨hF, hD, hq, hlast⟩ := h.pending event rfl
  refine ⟨h.ids, h.events_sorted, by simpa using h.events, h.pooled, by simpa using h.distributed_le,
    by simpa using h.distributed_lt, by simpa using h.posted_le, by simpa using h.queue,
    by simpa using h.unloaded,
    fun x => ?_, fun x hx => ?_, fun x hx hqx => ?_, fun x ex hx hfx => ?_, fun x hx hfx => ?_,
    by simp, h.freedLast.append_free hlast⟩
  all_goals
    by_cases hxe : x = event
    · subst hxe
      simp_all [List.count_cons]
  · have := h.freed_le x
    simpa [List.count_cons, Ne.symm hxe] using this
  · exact h.freed_unqueued x (by simpa [List.count_cons, Ne.symm hxe] using hx)
  · rcases h.unqueued_freed x (by simpa [List.count_cons] using hx) hqx with hf | hf
    · simp [List.count_cons, hf, Ne.symm hxe]
    · exact absurd (Option.some.inj hf).symm hxe
  · exact h.refCount x ex hx (by simpa [List.count_cons, Ne.symm hxe] using hfx)
  · exact h.live x (by simpa [List.count_cons] using hx)
      (by simpa [List.count_cons, Ne.symm hxe] using hfx)

theorem release {event : Nat} (h : Accounting none s) (hmem : .freeEvent event ∈ s.log) :
    Accounting none { s with eventPool := Function.update s.eventPool event none } := by
  have hF : s.log.count (.freeEvent event) ≠ 0 := (List.count_pos_iff.2 hmem).ne'
  refine ⟨h.ids, h.events_sorted, h.events, fun x hx => ?_, h.distributed_le, h.distributed_lt,
    h.posted_le, h.queue, h.unloaded, h.freed_le, h.freed_unqueued, h.unqueued_freed, fun x ex hx hfx => ?_,
    fun x hx hfx => ?_, h.pending, h.freedLast⟩
  · -- a freed event has been distributed, so it has left `mEvents`
    have hxe : x ≠ event := by
      rintro rfl
      have := h.freed_le x
      rw [(h.events x hx).1] at this
      omega
    simpa [hxe] using h.pooled x hx
  · by_cases hxe : x = event
    · subst hxe; exact absurd hfx hF
    · exact h.refCount x ex (by simpa [hxe] using hx) hfx
  · by_cases hxe : x = event
    · subst hxe; exact absurd hfx hF
    · simpa [hxe] using h.live x hx hfx

theorem init {nanoapps : List Nanoapp} (ids : (nanoapps.map (·.instanceId)).Nodup)
    (empty : ∀ app ∈ nanoapps, app.eventQueue = []) : Accounting none { nanoapps := nanoapps } := by
  have hq : ∀ event, queued { nanoapps := nanoapps } event = 0 := fun event =>
    queued_eq_zero_iff.2 fun q hq => by
      obtain ⟨app, happ, rfl⟩ := List.mem_map.1 hq
      simp [empty app happ]
  refine ⟨by simpa [queues] using ids, .nil, by simp, by simp, by simp, by simp, by simp, ?_, by simp,
    by simp,
    by simp [hq], by simp, by simp, by simp, by simp, FreedLast.nil⟩
  intro q hq event
  obtain ⟨app, happ, rfl⟩ := List.mem_map.1 hq
  simp [empty app happ]

end Accounting

theorem accounting_preserved : Preserved Posts Accounting :=
  ⟨Accounting.posts, Accounting.fanOut, Accounting.popEvent, Accounting.logFree,
    Accounting.release⟩

/-! ### What this says of every run -/

variable (env : Env)

/-- A distribution appends the event to the queue of exactly the nanoapps that take it. -/
theorem distributeEvent_queues {run : Runner} (hq : Quiet env Posts run) {event : Nat} {e : Event}
    {s s' : EventLoop} (he : s.eventPool event = some e)
    (h : distributeEvent env run event s = some s') :
    s'.queues = s.nanoapps.map fun app =>
      (app.instanceId, if app.takes e then app.eventQueue ++ [event] else app.eventQueue) := by
  obtain ⟨e', he', h⟩ := distributeEvent_cases env h
  obtain rfl : e' = e := Option.some.inj (he'.symm.trans he)
  split_ifs at h
  · obtain ⟨_, s₁, -, hp, rfl⟩ := freeEvent_cases env Posts.codeRel hq h
    exact hp.queues.trans fanOut_queues
  · exact h ▸ fanOut_queues

/-- What the loop does with every event over a run. -/
structure DeliveredOnce (fuel : Nat) (s : EventLoop) : Prop where
  /-- Distributing the head of `mEvents` appends it to the queue of exactly the nanoapps that
  take it at that moment. -/
  appended : ∀ event rest e s', s.events = event :: rest → s.eventPool event = some e →
    distributeEvent env (runRequests env fuel) event { s with events := rest } = some s' →
    s'.queues = s.nanoapps.map fun app =>
      (app.instanceId, if app.takes e then app.eventQueue ++ [event] else app.eventQueue)
  /-- A nanoapp is given an event at most once, and has handled every copy it was given that
  its queue no longer holds. -/
  handledOnce : ∀ q ∈ s.queues, ∀ event, s.log.count (.postEvent q.1 event) ≤ 1 ∧
    s.log.count (.nanoappHandleEvent q.1 event) + q.2.count event =
      s.log.count (.postEvent q.1 event)
  /-- A distributed event not yet freed is in the pool, with one reference for each copy the
  queues hold. -/
  refCount : ∀ event, s.log.count (.distributeEvent event) = 1 →
    s.log.count (.freeEvent event) = 0 → ∃ e, s.eventPool event = some e ∧ e.refCount = queued s event
  /-- An event is freed at most once, and it has been freed exactly when it has been distributed
  and no queue holds it. -/
  freedOnce : ∀ event, s.log.count (.freeEvent event) ≤ 1 ∧
    (s.log.count (.freeEvent event) = 1 ↔
      s.log.count (.distributeEvent event) = 1 ∧ queued s event = 0)
  /-- Each free comes right after the event's distribution or one of its deliveries, and no
  delivery of it follows. -/
  freedLast : FreedLast s.log

/-- Every state a run that starts and unloads no nanoapp reaches accounts for every event. -/
theorem Reachable.deliveredOnce (henv : env.NoLifecycle) {fuel : Nat} {s : EventLoop}
    (hs : Reachable env fuel s) : DeliveredOnce env fuel s := by
  have h := accounting_preserved.reachable henv (fun _ ids empty => Accounting.init ids empty) hs
  refine ⟨fun _ rest _ _ _ he hd =>
      distributeEvent_queues env (henv.quiet fuel) (s := { s with events := rest }) he hd,
    fun q hq event => ⟨(h.posted_le _ _).trans (h.distributed_le _), h.queue q hq event⟩,
    fun event hd hf => ?_, fun event => ⟨(h.freed_le _).trans (h.distributed_le _), ?_, ?_⟩,
    h.freedLast⟩
  · obtain ⟨e, he⟩ := Option.isSome_iff_exists.1 (h.live event hd hf)
    exact ⟨e, he, h.refCount event e he hf⟩
  · intro hf
    have := h.freed_le event
    have := h.distributed_le event
    exact ⟨by omega, h.freed_unqueued event hf⟩
  · rintro ⟨hd, hq⟩
    exact (h.unqueued_freed event hd hq).resolve_right (by simp)

theorem quietEnv_noLifecycle : quietEnv.NoLifecycle :=
  ⟨fun _ _ _ => by simp [quietEnv], fun _ _ _ => by simp [quietEnv]⟩

end EventLoop

end Chre

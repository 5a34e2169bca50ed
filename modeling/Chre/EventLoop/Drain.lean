import Chre.EventLoop.Steps

/-!
# What the flushes leave behind

`flushInboundEventQueue` returns once `mEvents` is empty (`flushInboundEventQueue_events`).
`flushNanoappEventQueues` returns once a round of `deliverEvents` reports that no nanoapp has an
event pending; since a round only pops the queue heads (the code it runs posts to `mEvents`,
never to a queue), every queue is then empty (`flushNanoappEventQueues_drained`).
-/

namespace Chre

namespace EventLoop

variable (env : Env) {run : Runner}

theorem flushInboundEventQueue_events :
    ∀ {fuel : Nat} {s s' : EventLoop}, flushInboundEventQueue env run fuel s = some s' →
      s'.events = []
  | 0, _, _, h => by cases h
  | fuel + 1, s, _, h => by
    unfold flushInboundEventQueue at h
    split at h
    · rename_i hs
      exact Option.some.inj h ▸ hs
    · obtain ⟨s₁, -, h⟩ := Option.bind_eq_some.1 h
      exact flushInboundEventQueue_events h

theorem map_hasPendingEvent_getElem? (s : EventLoop) (i : Nat) :
    s.nanoapps[i]?.map Nanoapp.hasPendingEvent = s.queues[i]?.map fun q => !q.2.isEmpty := by
  simp only [queues, List.getElem?_map, Option.map_map]
  rfl

variable {R : EventLoop → EventLoop → Prop} (hR : CodeRel R) (hq : Quiet env R run)
include hR hq

/-- One delivery pops the head of one queue, and reports whether that queue still holds an
event. -/
theorem deliverNextEvent_queues {i : Nat} {s : EventLoop} {r : Bool × EventLoop}
    (h : deliverNextEvent env run i s = some r) :
    ∃ app, s.nanoapps[i]? = some app ∧
      r.2.queues = s.queues.set i (app.instanceId, app.eventQueue.tail) ∧
      r.1 = !app.eventQueue.tail.isEmpty := by
  obtain ⟨app, event, e, s₁, happ, -, -, hp, hfree, hr⟩ := deliverNextEvent_cases env hR hq h
  have hq₁ : r.2.queues = s₁.queues := by
    split_ifs at hfree
    · obtain ⟨_, s₂, -, hp₂, hr₂⟩ := freeEvent_cases env hR hq hfree
      rw [hr₂]
      exact (hR.toPosts hp₂).queues
    · rw [hfree]
  have hqueues : r.2.queues = s.queues.set i (app.instanceId, app.eventQueue.tail) := by
    rw [hq₁, (hR.toPosts hp).queues, popEvent_queues]
  have hi : i < s.queues.length := by
    simpa [queues] using (List.getElem?_eq_some_iff.1 happ).1
  refine ⟨app, happ, hqueues, ?_⟩
  rw [hr, map_hasPendingEvent_getElem?, hqueues, List.getElem?_set_self hi]
  rfl

/-- A round that reports no pending event has emptied the queue of every index it visited, and
left the others as they were. -/
theorem deliverEventsFrom_drained :
    ∀ {is : List Nat} {havePendingEvents : Bool} {s : EventLoop} {r : Bool × EventLoop},
      is.Nodup → deliverEventsFrom env run is havePendingEvents s = some r → r.1 = false →
      havePendingEvents = false ∧ (∀ j ∈ is, ∀ q, r.2.queues[j]? = some q → q.2 = []) ∧
        ∀ j ∉ is, r.2.queues[j]? = s.queues[j]?
  | [], _, _, _, _, h, hr => by cases h; exact ⟨hr, by simp, fun _ _ => rfl⟩
  | i :: is, _, s, _, hnd, h, hr => by
    obtain ⟨app, happ, h⟩ := Option.bind_eq_some.1 h
    have hi : s.queues[i]? = some (app.instanceId, app.eventQueue) := by
      simp [queues, happ]
    have hnd' := List.nodup_cons.1 hnd
    split at h
    · obtain ⟨r₁, h₁, h⟩ := Option.bind_eq_some.1 h
      obtain ⟨hp, hin, hout⟩ := deliverEventsFrom_drained hnd'.2 h hr
      obtain ⟨hp, hr₁⟩ := Bool.or_eq_false_iff.1 hp
      obtain ⟨app', happ', hq₁, hr₁'⟩ := deliverNextEvent_queues env hR hq h₁
      obtain rfl : app' = app := Option.some.inj (happ'.symm.trans happ)
      have hlen : i < s.queues.length := (List.getElem?_eq_some_iff.1 hi).1
      refine ⟨hp, fun j hj q hjq => ?_, fun j hj => ?_⟩
      · rcases List.mem_cons.1 hj with rfl | hj
        · rw [hout j hnd'.1, hq₁, List.getElem?_set_self hlen, Option.some.injEq] at hjq
          rw [← hjq]
          simpa [hr₁] using hr₁'
        · exact hin j hj q hjq
      · rw [hout j fun h => hj (.tail _ h), hq₁,
          List.getElem?_set_ne fun h : i = j => hj (h ▸ .head _)]
    · obtain ⟨hp, hin, hout⟩ := deliverEventsFrom_drained hnd'.2 h hr
      refine ⟨hp, fun j hj q hjq => ?_, fun j hj => hout j fun h => hj (.tail _ h)⟩
      rcases List.mem_cons.1 hj with rfl | hj
      · rw [hout j hnd'.1, hi, Option.some.injEq] at hjq
        subst hjq
        simpa [Nanoapp.hasPendingEvent] using ‹¬app.hasPendingEvent = true›
      · exact hin j hj q hjq

/-- **`flushNanoappEventQueues` returns with every queue empty.** -/
theorem flushNanoappEventQueues_drained :
    ∀ {fuel : Nat} {s s' : EventLoop}, flushNanoappEventQueues env run fuel s = some s' →
      ∀ q ∈ s'.queues, q.2 = []
  | 0, _, _, h => by cases h
  | fuel + 1, s, _, h => by
    obtain ⟨r, h₁, h⟩ := Option.bind_eq_some.1 h
    split at h
    · exact flushNanoappEventQueues_drained h
    · rename_i hr
      obtain rfl := Option.some.inj h
      obtain ⟨-, hin, hout⟩ := deliverEventsFrom_drained env hR hq (List.nodup_range _) h₁
        (by simpa using hr)
      intro q hq
      obtain ⟨j, hj⟩ := List.mem_iff_getElem?.1 hq
      by_cases hjn : j ∈ List.range s.nanoapps.length
      · exact hin j hjn q hj
      · rw [hout j hjn] at hj
        exact absurd (List.mem_range.2 (by simpa [queues] using (List.getElem?_eq_some_iff.1 hj).1))
          hjn

end EventLoop

end Chre

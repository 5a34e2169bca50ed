import Chre.EventLoop.Run

/-!
# The order in which `run()` ends its nanoapps

Once its loop has read `mRunning` as false, `run()` flushes the nanoapps' queues, purges
`mEvents`, and then calls `unloadNanoappAtIndex(mNanoapps.size() - 1)` until no nanoapp is left.
The flushes and the purge call no nanoapp's `end` and keep the nanoapps, whatever the code they
call does short of starting or unloading a nanoapp. So the end of `run()` calls `end` on the
nanoapps it finds loaded, once each, the last loaded first (`finishRun_log_ends`); that it
returns is `finishRun_ends_in_reverse`.
-/

namespace Chre

namespace EventLoop

/-- The nanoapp a logged action ends, for a call of `end`. -/
def Action.endedId : Action → Option UInt32
  | .nanoappEnd instanceId => some instanceId
  | _ => none

/-- The nanoapps `log` ends, in the order of their calls of `end`. -/
def ends (log : List Action) : List UInt32 :=
  log.filterMap Action.endedId

@[simp] theorem ends_append (l l' : List Action) : ends (l ++ l') = ends l ++ ends l' :=
  List.filterMap_append l l' _

variable {env : Env}

/-- Since `log`, `s` has ended no nanoapp, and its nanoapps are `ids`. -/
def EndsNothing (ids : List UInt32) (log : List Action) (s : EventLoop) : Prop :=
  s.instanceIds = ids ∧ ∃ L, s.log = log ++ L ∧ ends L = []

theorem EndsNothing.append {ids : List UInt32} {log L : List Action} {s : EventLoop}
    (h : EndsNothing ids log s) (hL : ends L = []) (s' : EventLoop)
    (hids : s'.instanceIds = s.instanceIds) (hlog : s'.log = s.log ++ L) :
    EndsNothing ids log s' := by
  obtain ⟨hs, L₀, hl, he⟩ := h
  exact ⟨hids.trans hs, L₀ ++ L, by rw [hlog, hl, List.append_assoc], by simp [he, hL]⟩

/-- Delivery, frees and the code they call end no nanoapp and keep the nanoapps. -/
theorem endsNothing_preserved (ids : List UInt32) (log : List Action) :
    Preserved Sends fun _ => EndsNothing ids log :=
  ⟨fun h hp => h.append (L := []) rfl _ hp.toPosts.instanceIds (by simp [hp.log]),
    fun h _ _ => h.append (by simp [ends, Action.endedId]) _ fanOut_instanceIds fanOut_log,
    fun h happ _ _ => h.append (by simp [ends, Action.endedId]) _ (popEvent_instanceIds happ)
      popEvent_log,
    fun h => h.append (by simp [ends, Action.endedId]) _ rfl rfl,
    fun h _ => h.append (L := []) rfl _ rfl (List.append_nil _).symm⟩

/-- Unloading the last nanoapp ends it, and leaves the others loaded. -/
theorem unloadNanoappAtIndex_last (henv : env.NoNestedLifecycle) {fuel : Nat} {s s' : EventLoop}
    {l : List UInt32} {x : UInt32} (hids : s.instanceIds = l ++ [x])
    (h : unloadNanoappAtIndex env (runRequests env fuel) (s.nanoapps.length - 1) s = some s') :
    s'.log = s.log ++ [.nanoappEnd x] ∧ s'.instanceIds = l := by
  have hlen : s.nanoapps.length = l.length + 1 := by
    simpa [instanceIds] using congrArg List.length hids
  obtain ⟨app, happ⟩ : ∃ app, s.nanoapps[l.length]? = some app :=
    ⟨_, List.getElem?_eq_getElem (by omega)⟩
  rw [hlen, Nat.add_sub_cancel] at h
  obtain ⟨s₁, hp, rfl⟩ := unloadNanoappAtIndex_sends henv happ h
  have hx : app.instanceId = x := by
    have : s.instanceIds[l.length]? = some app.instanceId := by simp [instanceIds, happ]
    simpa [hids, eq_comm] using this
  refine ⟨by simp [hp.log, logEnd, hx], ?_⟩
  show (s₁.nanoapps.eraseIdx l.length).map (·.instanceId) = l
  rw [instanceIds_eraseIdx, hp.toPosts.instanceIds]
  show s.instanceIds.eraseIdx l.length = l
  rw [hids, List.eraseIdx_append_of_length_le le_rfl]
  simp

@[simp] theorem ends_map_nanoappEnd (ids : List UInt32) : ends (ids.map .nanoappEnd) = ids := by
  induction ids with
  | nil => rfl
  | cons x ids ih => exact congrArg (x :: ·) ih

/-- `unloadNanoapps` logs only the calls of `end`, on the nanoapps from the last to the first,
and leaves none. -/
theorem unloadNanoapps_ends (henv : env.NoNestedLifecycle) {fuel : Nat} :
    ∀ {n : Nat} {s s' : EventLoop}, unloadNanoapps env (runRequests env fuel) n s = some s' →
      s'.log = s.log ++ s.instanceIds.reverse.map .nanoappEnd ∧ s'.nanoapps = []
  | 0, _, _, h => by cases h
  | n + 1, s, _, h => by
    unfold unloadNanoapps at h
    split_ifs at h with hempty
    · cases h
      have hnil := List.isEmpty_iff.1 hempty
      exact ⟨by simp [instanceIds, hnil], hnil⟩
    · obtain ⟨s₁, h₁, h⟩ := Option.bind_eq_some.1 h
      obtain ⟨l, x, hids⟩ : ∃ l x, s.instanceIds = l ++ [x] := by
        rcases List.eq_nil_or_concat s.instanceIds with hn | ⟨l, x, hc⟩
        · simp [instanceIds, List.isEmpty_iff] at hn hempty
          exact absurd hn hempty
        · exact ⟨l, x, by simpa using hc⟩
      obtain ⟨hlog₁, hids₁⟩ := unloadNanoappAtIndex_last henv hids h₁
      obtain ⟨hL, hnil⟩ := unloadNanoapps_ends henv h
      exact ⟨by simp [hL, hlog₁, hids₁, hids], hnil⟩

/-- The end of `run()` ends its nanoapps in reverse order, if it returns: whatever the code the
loop calls does, short of starting or unloading a nanoapp, the calls of `end` that it makes are
on the nanoapps loaded when it starts, the last loaded first, and no nanoapp is left. -/
theorem finishRun_log_ends (henv : env.NoNestedLifecycle) {fuel : Nat} {s s' : EventLoop}
    (hf : finishRun env (runRequests env fuel) fuel s = some s') :
    ∃ L, s'.log = s.log ++ L ∧ ends L = s.instanceIds.reverse ∧ s'.nanoapps = [] := by
  obtain ⟨s₁, h₁, hf⟩ := Option.bind_eq_some.1 hf
  obtain ⟨s₂, h₂, h₃⟩ := Option.bind_eq_some.1 hf
  have hI := endsNothing_preserved s.instanceIds s.log
  obtain ⟨hids₂, L₂, hlog₂, hends₂⟩ := hI.purgeEvents henv.toNoLifecycle (fun hs _ => hs)
    (hI.flushNanoappEventQueues Sends.codeRel (henv.sends fuel) ⟨rfl, [], by simp, rfl⟩ h₁) h₂
  obtain ⟨hL, hnil⟩ := unloadNanoapps_ends henv h₃
  exact ⟨L₂ ++ s₂.instanceIds.reverse.map .nanoappEnd, by rw [hL, hlog₂, List.append_assoc],
    by rw [ends_append, hends₂, ends_map_nanoappEnd, hids₂, List.nil_append], hnil⟩

end EventLoop

end Chre

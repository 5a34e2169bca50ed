import Chre.Wifi.ScanMonitor

/-!
# Error paths of the scan monitor

What the scan monitor does when a request fails or is answered:

* `nanoappHasScanMonitorRequest` reports a request exactly for a nanoapp that is absent, so
  nothing is ever added to `mScanMonitorNanoapps`: it is empty in every reachable state
  (`Reachable.scanMonitorNanoapps_eq_nil`). Hence `postScanMonitorAsyncResultEvent` never fails
  for want of a list update, and with allocation and posting succeeding the completion never
  reaches `FATAL_ERROR`; but every `erase` that `updateNanoappScanMonitoringList` makes is at
  index `size()`, and a disable request on a fresh manager makes one
  (`updateNanoappScanMonitoringList_erase_past_end`, and over runs `Reachable.erase_at_size`).
* With the list empty the monitor counts as disabled, so a disable request is always answered as
  already satisfied: the driver is never asked to disable the monitor, in any run
  (`Reachable.configureScanMonitor_enable`).
* `postScanMonitorAsyncResultEvent` updates the list before it allocates and posts the event,
  but the update leaves the empty list empty: in a reachable state a call of
  `configureScanMonitor` that returns `false` has changed neither the list nor the queue, and
  posted nothing (`Reachable.configureScanMonitor_false`).
* The completion answers every request it finds already satisfied with the success flag and
  error code of the transition it completed, so a failed transition makes it answer a satisfied
  request with a failure (`asyncResult_success_ne_inEffect`).
-/

namespace Chre

namespace WifiRequestManager

variable {k : Nat} {m m' : WifiRequestManager}

/-! ### The monitoring list stays empty -/

/-- A nanoapp has a request, for `nanoappHasScanMonitorRequest`, exactly when it is absent, and
the index it reports is then `size()`. -/
theorem nanoappHasScanMonitorRequest_eq (m : WifiRequestManager) (id : UInt32) :
    m.nanoappHasScanMonitorRequest id =
      (decide (id ∉ m.scanMonitorNanoapps), DynamicVector.find m.scanMonitorNanoapps id) := by
  simp only [nanoappHasScanMonitorRequest, DynamicVector.find, Prod.mk.injEq, and_true]
  by_cases h : id ∈ m.scanMonitorNanoapps
  · simp [h, Nat.ne_of_lt (List.indexOf_lt_length.2 h)]
  · simp [h, List.indexOf_eq_length.2 h]

/-- On an empty list, an update succeeds and leaves the list empty. -/
theorem updateNanoappScanMonitoringList_nil (hm : m.scanMonitorNanoapps = []) (e : Bool)
    (id : UInt32) (p : Bool) : (m.updateNanoappScanMonitoringList e id p).1 = true ∧
      (m.updateNanoappScanMonitoringList e id p).2.scanMonitorNanoapps = [] := by
  obtain ⟨_, _, _⟩ := m
  cases hm
  cases e <;> exact ⟨rfl, rfl⟩

/-- On an empty list, an async result is posted exactly when allocation and posting succeed,
and the list stays empty. -/
theorem postScanMonitorAsyncResultEvent_nil (hm : m.scanMonitorNanoapps = [])
    (t : ScanMonitorStateTransition) (s : Bool) (err : UInt8) (o : Outcome) :
    (m.postScanMonitorAsyncResultEvent t s err o).1 = (o.memoryAlloc && o.postEvent) ∧
      (m.postScanMonitorAsyncResultEvent t s err o).2.scanMonitorNanoapps = [] := by
  obtain ⟨h₁, h₂⟩ := updateNanoappScanMonitoringList_nil hm t.enable t.nanoappInstanceId o.pushBack
  cases s <;> by_cases ho : (o.memoryAlloc && o.postEvent) = true <;>
    simp [postScanMonitorAsyncResultEvent, h₁, h₂, hm, Bool.and_assoc, ho]

/-- On an empty list, with allocation and posting succeeding, the result is posted and the list
stays empty. -/
theorem postScanMonitorAsyncResultEventFatal_nil (hm : m.scanMonitorNanoapps = [])
    (t : ScanMonitorStateTransition) (s : Bool) (err : UInt8) {o : Outcome}
    (ha : o.memoryAlloc = true) (hp : o.postEvent = true) :
    ∃ m', m.postScanMonitorAsyncResultEventFatal t s err o = .ok m' ∧
      m'.scanMonitorNanoapps = [] := by
  obtain ⟨h₁, h₂⟩ := postScanMonitorAsyncResultEvent_nil hm t s err o
  rw [ha, hp, Bool.and_self] at h₁
  exact ⟨_, by simp only [postScanMonitorAsyncResultEventFatal, h₁, ↓reduceIte], h₂⟩

theorem postScanMonitorAsyncResultEventFatal_nil_of_ok (hm : m.scanMonitorNanoapps = [])
    {t : ScanMonitorStateTransition} {s : Bool} {err : UInt8} {o : Outcome}
    (h : m.postScanMonitorAsyncResultEventFatal t s err o = .ok m') :
    m'.scanMonitorNanoapps = [] := by
  dsimp only [postScanMonitorAsyncResultEventFatal] at h
  split_ifs at h
  cases h
  exact (postScanMonitorAsyncResultEvent_nil hm t s err o).2

theorem configureScanMonitor_nil (hm : m.scanMonitorNanoapps = []) (id : UInt32) (e : Bool)
    (c : Nat) (o : Outcome) : (m.configureScanMonitor k id e c o).2.scanMonitorNanoapps = [] := by
  have hq : ∀ m : WifiRequestManager,
      (m.addScanMonitorRequestToQueue k id e c).2.scanMonitorNanoapps = m.scanMonitorNanoapps :=
    fun m => by unfold addScanMonitorRequestToQueue; split <;> rfl
  dsimp only [configureScanMonitor]
  split_ifs <;> simp only [(postScanMonitorAsyncResultEvent_nil hm _ _ _ _).2, hq,
    record_scanMonitorNanoapps, hm]

theorem processScanMonitorStateTransitions_nil {s : Bool} {err : UInt8} :
    ∀ {pending : List ScanMonitorStateTransition} {o : Nat → Outcome} {m : WifiRequestManager},
      m.scanMonitorNanoapps = [] →
      processScanMonitorStateTransitions s err pending o m = .ok m' → m'.scanMonitorNanoapps = []
  | [], _, _, hm, h => by cases h; exact hm
  | t :: rest, o, m, hm, h => by
    simp only [processScanMonitorStateTransitions] at h
    split_ifs at h
    · obtain ⟨m₁, h₁, h₂⟩ := bind_eq_ok h
      exact processScanMonitorStateTransitions_nil
        (postScanMonitorAsyncResultEventFatal_nil_of_ok hm h₁) h₂
    · cases h; exact hm
    · obtain ⟨m₁, h₁, h₂⟩ := bind_eq_ok h
      exact processScanMonitorStateTransitions_nil
        (postScanMonitorAsyncResultEventFatal_nil_of_ok (m := m.record _) hm h₁) h₂
    · cases h; exact hm

theorem handleScanMonitorStateChangeSync_nil {en : Bool} {err : UInt8} {o : Nat → Outcome}
    (hm : m.scanMonitorNanoapps = [])
    (h : (m.record (.scanMonitorStateChange en err)).handleScanMonitorStateChangeSync en err o =
      .ok m') : m'.scanMonitorNanoapps = [] := by
  unfold handleScanMonitorStateChangeSync at h
  split at h
  · exact processScanMonitorStateTransitions_nil (m := (m.record _).record _) hm h
  · obtain ⟨m₁, h₁, h₂⟩ := bind_eq_ok h
    exact processScanMonitorStateTransitions_nil
      (postScanMonitorAsyncResultEventFatal_nil_of_ok (m := m.record _) hm h₁) h₂

theorem step_nil (hm : m.scanMonitorNanoapps = []) :
    ∀ {op : Op}, m.step k op = .ok m' → m'.scanMonitorNanoapps = []
  | .configureScanMonitor _ _ _ _, h => by
    cases h
    exact configureScanMonitor_nil hm _ _ _ _
  | .handleScanMonitorStateChangeSync _ _ _, h => handleScanMonitorStateChangeSync_nil hm h

/-- **`mScanMonitorNanoapps` is empty in every reachable state.** -/
theorem Reachable.scanMonitorNanoapps_eq_nil (h : Reachable k m) : m.scanMonitorNanoapps = [] := by
  induction h with
  | init => rfl
  | configureScanMonitor _ _ _ _ _ hstep ih => exact step_nil ih hstep
  | handleScanMonitorStateChangeSync _ _ _ _ _ hstep ih => exact step_nil ih hstep

/-! ### No `FATAL_ERROR` -/

/-- With allocation and posting succeeding, the completion loop on an empty list never reaches
`FATAL_ERROR`. -/
theorem processScanMonitorStateTransitions_ok {s : Bool} {err : UInt8} :
    ∀ {pending : List ScanMonitorStateTransition} {o : Nat → Outcome} {m : WifiRequestManager},
      (∀ i, (o i).memoryAlloc = true ∧ (o i).postEvent = true) → m.scanMonitorNanoapps = [] →
      ∃ m', processScanMonitorStateTransitions s err pending o m = .ok m'
  | [], _, _, _, _ => ⟨_, rfl⟩
  | t :: rest, o, m, ho, hm => by
    have hpost (m : WifiRequestManager) (s' err') (hm : m.scanMonitorNanoapps = []) :
        ∃ m', (m.postScanMonitorAsyncResultEventFatal t s' err' (o 0) >>=
          processScanMonitorStateTransitions s err rest fun i => o (i + 1)) = .ok m' := by
      obtain ⟨m₁, h₁, hm₁⟩ := postScanMonitorAsyncResultEventFatal_nil hm t s' err' (ho 0).1 (ho 0).2
      rw [h₁]
      exact processScanMonitorStateTransitions_ok (fun i => ho (i + 1)) hm₁
    simp only [processScanMonitorStateTransitions]
    split_ifs
    · exact hpost m _ _ hm
    · exact ⟨_, rfl⟩
    · exact hpost (m.record _) _ _ hm
    · exact ⟨_, rfl⟩

/-- In every reachable state, with allocation and posting succeeding, a reported state change
never reaches `FATAL_ERROR`. -/
theorem handleScanMonitorStateChangeSync_ok (h : Reachable k m) (enabled : Bool)
    (errorCode : UInt8) {o : Nat → Outcome}
    (ho : ∀ i, (o i).memoryAlloc = true ∧ (o i).postEvent = true) :
    ∃ m', m.step k (.handleScanMonitorStateChangeSync enabled errorCode o) = .ok m' := by
  have hm : (m.record (.scanMonitorStateChange enabled errorCode)).scanMonitorNanoapps = [] :=
    h.scanMonitorNanoapps_eq_nil
  show ∃ m', (m.record _).handleScanMonitorStateChangeSync enabled errorCode o = .ok m'
  unfold WifiRequestManager.handleScanMonitorStateChangeSync
  split
  · exact processScanMonitorStateTransitions_ok ho hm
  · rename_i t _ _
    obtain ⟨m₁, h₁, hm₁⟩ := postScanMonitorAsyncResultEventFatal_nil hm t
      (errorCode == chreErrorNone && t.enable == enabled) errorCode (ho 0).1 (ho 0).2
    dsimp only
    rw [h₁]
    exact processScanMonitorStateTransitions_ok (fun i => ho (i + 1)) hm₁

/-! ### No assertion fails -/

/-- `m`'s log records no failed `CHRE_ASSERT_LOG`. -/
def NoAssertionFailed (m : WifiRequestManager) : Prop :=
  ∀ message, Effect.assertionFailed message ∉ m.log

theorem noAssertionFailed_of_log_eq {l : List Effect} (hi : NoAssertionFailed m)
    (hl : ∀ message, Effect.assertionFailed message ∉ l) (h : m'.log = m.log ++ l) :
    NoAssertionFailed m' := by
  intro message
  simpa [h] using ⟨hi message, hl message⟩

/-- Posting an async result logs only the list's `erase` and the result. -/
theorem noAssertionFailed_postFatal {t : ScanMonitorStateTransition} {s : Bool} {err : UInt8}
    {o : Outcome} (hi : NoAssertionFailed m)
    (h : m.postScanMonitorAsyncResultEventFatal t s err o = .ok m') : NoAssertionFailed m' := by
  obtain ⟨-, l, hl, hlog⟩ := postScanMonitorAsyncResultEventFatal_eq_ok h
  exact noAssertionFailed_of_log_eq (l := l ++ [.asyncResult t s err]) hi
    (fun message => by simpa using hl.not_mem fun _ h => by cases h)
    (by rw [hlog, List.append_assoc])

/-- The completion loop never takes its invalid branch, so it logs no failed assertion. -/
theorem processScanMonitorStateTransitions_noAssertionFailed {s : Bool} {err : UInt8} :
    ∀ {pending : List ScanMonitorStateTransition} {o : Nat → Outcome} {m : WifiRequestManager},
      NoAssertionFailed m → processScanMonitorStateTransitions s err pending o m = .ok m' →
      NoAssertionFailed m'
  | [], _, _, hi, h => by cases h; exact hi
  | t :: rest, o, m, hi, h => by
    have hconf : NoAssertionFailed (m.record (.configureScanMonitor t (o 0).configureScanMonitor)) :=
      noAssertionFailed_of_log_eq hi (by simp) rfl
    simp only [processScanMonitorStateTransitions] at h
    split_ifs at h with hin hreq
    · obtain ⟨m₁, h₁, h₂⟩ := bind_eq_ok h
      exact processScanMonitorStateTransitions_noAssertionFailed (noAssertionFailed_postFatal hi h₁) h₂
    · cases h; exact hconf
    · obtain ⟨m₁, h₁, h₂⟩ := bind_eq_ok h
      exact processScanMonitorStateTransitions_noAssertionFailed (noAssertionFailed_postFatal hconf h₁)
        h₂
    · exact absurd (scanMonitorIsInRequestedState_or_isRequired m _ _) (not_or.2 ⟨hin, hreq⟩)

/-- A request is queued, answered or sent to the driver, never found invalid. -/
theorem step_configureScanMonitor_noAssertionFailed {id : UInt32} {e : Bool} {c : Nat}
    {o : Outcome} (hi : NoAssertionFailed m)
    (h : m.step k (.configureScanMonitor id e c o) = .ok m') : NoAssertionFailed m' := by
  cases h
  refine noAssertionFailed_of_log_eq (l := [_]) ?_ (by simp) rfl
  rcases configureScanMonitor_cases (Prod.mk.eta (p := m.configureScanMonitor k id e c o)).symm
    with ⟨⟨l, hl, hlog⟩, -⟩ | ⟨-, -, -, l, hl, hlog⟩ | ⟨-, hlog, -⟩
  · exact noAssertionFailed_of_log_eq hi (fun _ => hl.not_mem fun _ h => by cases h) hlog
  · exact noAssertionFailed_of_log_eq (l := l ++ [.asyncResult ⟨id, c, e⟩ true chreErrorNone]) hi
      (fun _ => by simpa using hl.not_mem fun _ h => by cases h) (by rw [hlog, List.append_assoc])
  · exact noAssertionFailed_of_log_eq hi (by simp) hlog

/-- A state change reported with a transition queued is handled without a failed assertion. -/
theorem step_handleScanMonitorStateChangeSync_noAssertionFailed {en : Bool} {err : UInt8}
    {o : Nat → Outcome} (hi : NoAssertionFailed m) (hq : m.scanMonitorStateTransitions ≠ [])
    (h : m.step k (.handleScanMonitorStateChangeSync en err o) = .ok m') :
    NoAssertionFailed m' := by
  obtain ⟨t, rest, htr⟩ := List.exists_cons_of_ne_nil hq
  have hrec : NoAssertionFailed (m.record (.scanMonitorStateChange en err)) :=
    noAssertionFailed_of_log_eq hi (by simp) rfl
  change (m.record _).handleScanMonitorStateChangeSync en err o = .ok m' at h
  unfold WifiRequestManager.handleScanMonitorStateChangeSync at h
  rw [record_scanMonitorStateTransitions, htr] at h
  obtain ⟨m₁, h₁, h₂⟩ := bind_eq_ok h
  exact processScanMonitorStateTransitions_noAssertionFailed (noAssertionFailed_postFatal hrec h₁) h₂

/-- **No assertion fails in a reachable state.** The driver reports a state change only while a
transition is outstanding, and then the queue is not empty. -/
theorem Reachable.noAssertionFailed (h : Reachable k m) : NoAssertionFailed m := by
  induction h with
  | init => exact fun _ => List.not_mem_nil _
  | configureScanMonitor _ _ _ _ _ hstep ih => exact step_configureScanMonitor_noAssertionFailed ih hstep
  | handleScanMonitorStateChangeSync _ _ _ hr hout hstep ih =>
    refine step_handleScanMonitorStateChangeSync_noAssertionFailed ih ?_ hstep
    rw [hr.invariant.outstanding] at hout
    exact fun hq => by simp [hq] at hout

/-- **Every `erase` of the list is past its end.** `updateNanoappScanMonitoringList` erases at
the index `nanoappHasScanMonitorRequest` reports only when it reports a request, and that index
is then `size()`. A nanoapp's request to disable the monitor on a fresh manager is already
satisfied, so it is answered with a success, whose list update erases at index `0` of the empty
list. -/
theorem updateNanoappScanMonitoringList_erase_past_end :
    ((∀ (m : WifiRequestManager) (id : UInt32), (m.nanoappHasScanMonitorRequest id).1 = true →
        (m.nanoappHasScanMonitorRequest id).2 = m.scanMonitorNanoapps.length) ∧
      (∀ o : Outcome, ({} : WifiRequestManager).configureScanMonitor k 1 false 0 o =
        ({} : WifiRequestManager).postScanMonitorAsyncResultEvent ⟨1, 0, false⟩ true
          chreErrorNone o) ∧
      ({} : WifiRequestManager).nanoappHasScanMonitorRequest 1 = (true, 0)) ∧
    (∀ m : WifiRequestManager, Reachable k m → NoAssertionFailed m ∧
      ∀ (enabled : Bool) (errorCode : UInt8) (o : Nat → Outcome),
        (∀ i, (o i).memoryAlloc = true ∧ (o i).postEvent = true) →
        ∃ m', m.step k (.handleScanMonitorStateChangeSync enabled errorCode o) = .ok m') := by
  refine ⟨⟨fun m id h => ?_, fun o => rfl, rfl⟩, fun m h =>
    ⟨h.noAssertionFailed, fun en err o ho => handleScanMonitorStateChangeSync_ok h en err ho⟩⟩
  rw [nanoappHasScanMonitorRequest_eq] at h ⊢
  exact List.indexOf_eq_length.2 (by simpa using h)

/-- Whether the request `t` is in effect in `m`: an enable once its nanoapp is in the list and
the driver last reported the monitor enabled, a disable once its nanoapp is out of the list. -/
def InEffect (m : WifiRequestManager) (t : ScanMonitorStateTransition) : Prop :=
  if t.enable then t.nanoappInstanceId ∈ m.scanMonitorNanoapps ∧ lastReportedEnabled m.log = true
  else t.nanoappInstanceId ∉ m.scanMonitorNanoapps

/-- Nanoapp 1 asks to enable the monitor and the driver accepts; nanoapp 2 asks to disable it
behind that transition; the driver then reports the transition failed. Nanoapp 2's request is
already satisfied, and is answered with the failure of nanoapp 1's. -/
theorem reachable_failed_enable_then_satisfied_disable (hk : 2 ≤ k) : Reachable k
    { log := [.configureScanMonitor ⟨1, 0, true⟩ true, .configured ⟨1, 0, true⟩ true,
      .configured ⟨2, 0, false⟩ true, .scanMonitorStateChange false chreError,
      .asyncResult ⟨1, 0, true⟩ false chreError, .asyncResult ⟨2, 0, false⟩ false chreError] } :=
  @Reachable.handleScanMonitorStateChangeSync k _ _ false chreError (fun _ => {})
    (reachable_disable_queued_behind_enable hk) rfl rfl

/-- **An async result's success flag does not say whether the request is in effect.** -/
theorem asyncResult_success_ne_inEffect (hk : 2 ≤ k) :
    ¬ ∀ m : WifiRequestManager, Reachable k m → ∀ t s err,
      m.log.getLast? = some (.asyncResult t s err) →
        ((s = true ∧ err = chreErrorNone) ↔ InEffect m t) ∧ (s = false → err ≠ chreErrorNone) :=
  fun h => absurd (h _ (reachable_failed_enable_then_satisfied_disable hk) ⟨2, 0, false⟩ false
    chreError rfl).1 (by simp [InEffect, chreError, chreErrorNone])

theorem asyncResult_success_ne_inEffect_capacityTwo :
    2 ≤ 2 ∧ ¬ ∀ m : WifiRequestManager, Reachable 2 m → ∀ t s err,
      m.log.getLast? = some (.asyncResult t s err) →
        ((s = true ∧ err = chreErrorNone) ↔ InEffect m t) ∧ (s = false → err ≠ chreErrorNone) :=
  ⟨le_rfl, asyncResult_success_ne_inEffect le_rfl⟩

/-! ### A failed request -/

/-- **A call that returns `false` changes neither the list nor the queue, and posts no async
result.** A request answered at once updates the list before its event is allocated, but in a
reachable state the list is empty and the update leaves it so; a request the queue or the
driver refuses leaves the queue as it was. -/
theorem Reachable.configureScanMonitor_false (h : Reachable k m) (id : UInt32) (e : Bool)
    (c : Nat) (o : Outcome) (hb : (m.configureScanMonitor k id e c o).1 = false) :
    (m.configureScanMonitor k id e c o).2.scanMonitorNanoapps = m.scanMonitorNanoapps ∧
      (m.configureScanMonitor k id e c o).2.scanMonitorStateTransitions =
        m.scanMonitorStateTransitions ∧
      answered (m.configureScanMonitor k id e c o).2.log = answered m.log := by
  have hm := h.scanMonitorNanoapps_eq_nil
  refine ⟨(configureScanMonitor_nil hm id e c o).trans hm.symm, ?_⟩
  rcases configureScanMonitor_cases (Prod.ext hb rfl) with ⟨⟨l, hl, hlog⟩, htr, -⟩ |
    ⟨-, hb', -⟩ | ⟨hq, hlog, htr⟩
  · exact ⟨by simpa using htr, by simp [hlog, hl.answered]⟩
  · cases hb'
  · exact ⟨by simpa [hq] using htr, by simp [hlog]⟩

/-- After nanoapp 1's failed enable and nanoapp 2's satisfied disable, nanoapp 3 asks to disable
the monitor and its async result cannot be allocated: the call returns `false` after the list's
`erase`, and leaves the list, the queue and the answers as they were. -/
theorem configureScanMonitor_false_allocFails :
    let m : WifiRequestManager :=
      { log := [.configureScanMonitor ⟨1, 0, true⟩ true, .configured ⟨1, 0, true⟩ true,
          .configured ⟨2, 0, false⟩ true, .scanMonitorStateChange false chreError,
          .asyncResult ⟨1, 0, true⟩ false chreError, .asyncResult ⟨2, 0, false⟩ false chreError] }
    let r := m.configureScanMonitor 2 3 false 0 { memoryAlloc := false }
    Reachable 2 m ∧ r.1 = false ∧ r.2.log = m.log ++ [.erase 0 0] ∧
      r.2.scanMonitorNanoapps = m.scanMonitorNanoapps ∧
      r.2.scanMonitorStateTransitions = m.scanMonitorStateTransitions ∧
      answered r.2.log = answered m.log :=
  have h := reachable_failed_enable_then_satisfied_disable (k := 2) le_rfl
  ⟨h, rfl, rfl, Reachable.configureScanMonitor_false h 3 false 0 _ rfl⟩

/-! ### The driver is never asked to disable -/

/-- With the list empty the monitor counts as disabled, so a disable request is satisfied. -/
theorem scanMonitorIsInRequestedState_false (hm : m.scanMonitorNanoapps = []) (b : Bool) :
    m.scanMonitorIsInRequestedState false b = true := by
  simp [scanMonitorIsInRequestedState, scanMonitorIsEnabled, hm]

theorem enable_of_not_scanMonitorIsInRequestedState (hm : m.scanMonitorNanoapps = [])
    {e b : Bool} (h : ¬ m.scanMonitorIsInRequestedState e b = true) : e = true := by
  cases e
  · exact absurd (scanMonitorIsInRequestedState_false hm b) h
  · rfl

/-- With the list empty, a disable request is queued behind a transition or answered at once. -/
theorem configureScanMonitor_disable (hm : m.scanMonitorNanoapps = []) (id : UInt32) (c : Nat)
    (o : Outcome) : m.configureScanMonitor k id false c o =
      if !m.scanMonitorStateTransitions.isEmpty then m.addScanMonitorRequestToQueue k id false c
      else m.postScanMonitorAsyncResultEvent ⟨id, c, false⟩ true chreErrorNone o := by
  simp only [configureScanMonitor, scanMonitorIsInRequestedState_false hm, ↓reduceIte]

/-- No call of the platform's `configureScanMonitor` in `m`'s log asks to disable the monitor. -/
def NeverDisables (m : WifiRequestManager) : Prop :=
  ∀ t accepted, Effect.configureScanMonitor t accepted ∈ m.log → t.enable = true

theorem neverDisables_of_log_eq {l : List Effect} (hi : NeverDisables m)
    (hl : ∀ t accepted, Effect.configureScanMonitor t accepted ∈ l → t.enable = true)
    (h : m'.log = m.log ++ l) : NeverDisables m' := by
  intro t a ht
  rw [h, List.mem_append] at ht
  exact ht.elim (hi t a) (hl t a)

theorem neverDisables_of_erases {l l' : List Effect} (hi : NeverDisables m) (hl : Erases l)
    (hl' : ∀ t accepted, Effect.configureScanMonitor t accepted ∉ l')
    (h : m'.log = m.log ++ l ++ l') : NeverDisables m' :=
  neverDisables_of_log_eq hi (fun t a ht => (List.mem_append.1 ht).elim
    (absurd · (hl.not_mem fun _ h => by cases h)) (absurd · (hl' t a)))
    (h.trans (List.append_assoc ..))

/-- Posting an async result logs only the list's `erase` and the result. -/
theorem neverDisables_postFatal {t : ScanMonitorStateTransition} {s : Bool} {err : UInt8}
    {o : Outcome} (hi : NeverDisables m)
    (h : m.postScanMonitorAsyncResultEventFatal t s err o = .ok m') : NeverDisables m' := by
  obtain ⟨-, l, hl, hlog⟩ := postScanMonitorAsyncResultEventFatal_eq_ok h
  exact neverDisables_of_erases hi hl (by simp) hlog

/-- The completion loop calls the driver only for a request that is not yet satisfied, which on
the empty list is an enable. -/
theorem processScanMonitorStateTransitions_neverDisables {s : Bool} {err : UInt8} :
    ∀ {pending : List ScanMonitorStateTransition} {o : Nat → Outcome} {m : WifiRequestManager},
      m.scanMonitorNanoapps = [] → NeverDisables m →
      processScanMonitorStateTransitions s err pending o m = .ok m' → NeverDisables m'
  | [], _, _, _, hi, h => by cases h; exact hi
  | t :: rest, o, m, hm, hi, h => by
    simp only [processScanMonitorStateTransitions] at h
    split_ifs at h with hin hreq
    · obtain ⟨m₁, h₁, h₂⟩ := bind_eq_ok h
      exact processScanMonitorStateTransitions_neverDisables
        (postScanMonitorAsyncResultEventFatal_nil_of_ok hm h₁) (neverDisables_postFatal hi h₁) h₂
    all_goals
      have hconf : NeverDisables (m.record (.configureScanMonitor t (o 0).configureScanMonitor)) :=
        neverDisables_of_log_eq hi (by
          simp only [List.mem_singleton, Effect.configureScanMonitor.injEq]
          rintro _ _ ⟨rfl, -⟩
          exact enable_of_not_scanMonitorIsInRequestedState hm hin) rfl
    · cases h; exact hconf
    · obtain ⟨m₁, h₁, h₂⟩ := bind_eq_ok h
      exact processScanMonitorStateTransitions_neverDisables
        (postScanMonitorAsyncResultEventFatal_nil_of_ok (m := m.record _) hm h₁)
        (neverDisables_postFatal hconf h₁) h₂
    · cases h; exact neverDisables_of_log_eq hi (by simp) rfl

theorem step_neverDisables (hm : m.scanMonitorNanoapps = []) (hi : NeverDisables m) :
    ∀ {op : Op}, m.step k op = .ok m' → NeverDisables m'
  | .configureScanMonitor id e c o, h => by
    cases h
    refine neverDisables_of_log_eq (l := [_]) ?_ (by simp) rfl
    cases e
    · -- a disable request is queued or answered at once
      rw [configureScanMonitor_disable hm]
      split
      · exact neverDisables_of_log_eq (l := []) hi (by simp)
          (by simpa using (addScanMonitorRequestToQueue_eq (Prod.mk.eta (p := _)).symm).1)
      · obtain ⟨-, l, hl, hlog⟩ := postScanMonitorAsyncResultEvent_eq (Prod.mk.eta (p := _)).symm
        exact neverDisables_of_erases hi hl (by split <;> simp) hlog
    · -- an enable request may reach the driver, for itself
      rcases configureScanMonitor_cases (Prod.mk.eta (p := m.configureScanMonitor k id true c o)).symm
        with ⟨⟨l, hl, hlog⟩, -⟩ | ⟨-, -, -, l, hl, hlog⟩ | ⟨-, hlog, -⟩
      · exact neverDisables_of_erases hi hl (fun _ _ => List.not_mem_nil _) (by rw [hlog, List.append_nil])
      · exact neverDisables_of_erases hi hl (by simp) hlog
      · exact neverDisables_of_log_eq hi (by simp) hlog
  | .handleScanMonitorStateChangeSync en err o, h => by
    have hrec : NeverDisables (m.record (.scanMonitorStateChange en err)) :=
      neverDisables_of_log_eq hi (by simp) rfl
    change (m.record _).handleScanMonitorStateChangeSync en err o = .ok m' at h
    unfold WifiRequestManager.handleScanMonitorStateChangeSync at h
    split at h
    · exact processScanMonitorStateTransitions_neverDisables (m := (m.record _).record _) hm
        (neverDisables_of_log_eq hrec (by simp) rfl) h
    · obtain ⟨m₁, h₁, h₂⟩ := bind_eq_ok h
      exact processScanMonitorStateTransitions_neverDisables
        (postScanMonitorAsyncResultEventFatal_nil_of_ok (m := m.record _) hm h₁)
        (neverDisables_postFatal hrec h₁) h₂

/-- **The driver is never asked to disable the monitor.** Since the list stays empty, the
monitor counts as disabled in every reachable state: every disable request is answered as
already satisfied, and every call of the platform's `configureScanMonitor`, in any run, asks to
enable it. -/
theorem Reachable.configureScanMonitor_enable (h : Reachable k m) :
    m.scanMonitorIsEnabled = false ∧
      ∀ t accepted, Effect.configureScanMonitor t accepted ∈ m.log → t.enable = true := by
  refine ⟨by simp [scanMonitorIsEnabled, h.scanMonitorNanoapps_eq_nil], ?_⟩
  induction h with
  | init => exact fun _ _ h => absurd h (List.not_mem_nil _)
  | configureScanMonitor _ _ _ _ hr hstep ih =>
    exact step_neverDisables hr.scanMonitorNanoapps_eq_nil ih hstep
  | handleScanMonitorStateChangeSync _ _ _ hr _ hstep ih =>
    exact step_neverDisables hr.scanMonitorNanoapps_eq_nil ih hstep

theorem configureScanMonitor_enable_afterDisable :
    ∃ m : WifiRequestManager, Reachable 2 m ∧ Effect.configured ⟨2, 0, false⟩ true ∈ m.log ∧
      m.scanMonitorIsEnabled = false ∧
      ∀ t accepted, Effect.configureScanMonitor t accepted ∈ m.log → t.enable = true :=
  have h := reachable_failed_enable_then_satisfied_disable (k := 2) le_rfl
  ⟨_, h, by decide, Reachable.configureScanMonitor_enable h⟩

end WifiRequestManager

end Chre

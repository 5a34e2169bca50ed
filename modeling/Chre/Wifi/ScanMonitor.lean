import Chre.Wifi.RequestManager

/-!
# Runs of the scan monitor

Over every run of `WifiRequestManager.step` (`Reachable`), with any outcomes of the calls the
manager makes:

* `configureScanMonitor_answered_once`: the async results posted so far, followed by the
  requests still queued, are exactly the requests `configureScanMonitor` returned `true` for,
  in order; so each accepted request is answered once, to its nanoapp with its cookie, and
  all are answered whenever the queue is empty. A call returning `false` posts nothing.
* `configureScanMonitor_one_transition_in_flight`: the driver is called only with no
  transition outstanding, and the queue's head is the transition outstanding.

Both come from `Invariant`, preserved by one `step` (`step_invariant`). Its cases are read off
one inversion lemma per function: `configureScanMonitor_cases`, and for the completion loop
`processScanMonitorStateTransitions_invariant`, by induction on the queue. The list's `erase`s
are logged (`Erases`); none of the bookkeeping above reads them, and the invariant records that
each is at the list's size. The loop never
reaches its invalid-state branch because, for every list and flag, a request is either
already satisfied or needs a transition (`scanMonitorIsInRequestedState_or_isRequired`).
-/

namespace Chre

namespace Effect

/-- The request an async-result event answers. -/
@[simp] def answered? : Effect → Option ScanMonitorStateTransition
  | .asyncResult t _ _ => some t
  | _ => none

/-- The request `configureScanMonitor` returned `true` for. -/
@[simp] def accepted? : Effect → Option ScanMonitorStateTransition
  | .configured t success => if success then some t else none
  | _ => none

end Effect

namespace WifiRequestManager

variable {k : Nat} {m m' : WifiRequestManager} {b : Bool}

/-- The requests answered by an async-result event in `log`, in order. -/
def answered (log : List Effect) : List ScanMonitorStateTransition :=
  log.filterMap Effect.answered?

/-- The requests `configureScanMonitor` returned `true` for in `log`, in order. -/
def accepted (log : List Effect) : List ScanMonitorStateTransition :=
  log.filterMap Effect.accepted?

/-- Every call to the driver in `log` is made with no transition outstanding. -/
def Serialised (log : List Effect) : Prop :=
  ∀ pre t accepted post, log = pre ++ Effect.configureScanMonitor t accepted :: post →
    outstandingTransition pre = none

@[simp] theorem answered_append (l l' : List Effect) :
    answered (l ++ l') = answered l ++ answered l' :=
  List.filterMap_append ..

@[simp] theorem answered_nil : answered [] = [] := rfl

@[simp] theorem answered_cons (e : Effect) (l : List Effect) :
    answered (e :: l) = e.answered?.toList ++ answered l := by
  simp only [answered, List.filterMap_cons]
  cases e.answered? <;> rfl

@[simp] theorem accepted_append (l l' : List Effect) :
    accepted (l ++ l') = accepted l ++ accepted l' :=
  List.filterMap_append ..

@[simp] theorem accepted_nil : accepted [] = [] := rfl

@[simp] theorem accepted_cons (e : Effect) (l : List Effect) :
    accepted (e :: l) = e.accepted?.toList ++ accepted l := by
  simp only [accepted, List.filterMap_cons]
  cases e.accepted? <;> rfl

@[simp] theorem outstandingTransition_append (l l' : List Effect) :
    outstandingTransition (l ++ l') = l'.foldl Effect.track (outstandingTransition l) :=
  List.foldl_append ..

theorem serialised_append_singleton {l : List Effect} {e : Effect} :
    Serialised (l ++ [e]) ↔
      Serialised l ∧ ∀ t a, e = .configureScanMonitor t a → outstandingTransition l = none := by
  constructor
  · intro h
    refine ⟨fun pre t a post hl => h pre t a (post ++ [e]) (by simp [hl]), ?_⟩
    rintro t a rfl
    exact h l t a [] rfl
  · rintro ⟨hl, he⟩ pre t a post heq
    rcases List.eq_nil_or_concat post with rfl | ⟨post', x, rfl⟩
    · obtain ⟨rfl, h1⟩ := List.append_inj' heq rfl
      exact he t a (List.singleton_inj.1 h1)
    · rw [List.concat_eq_append, ← List.cons_append, ← List.append_assoc] at heq
      exact hl pre t a post' (List.append_inj' heq rfl).1

/-- Every `erase` of the list in `log` is at the list's size. -/
def ErasesAtSize (log : List Effect) : Prop :=
  ∀ index size, Effect.erase index size ∈ log → index = size

@[simp] theorem erasesAtSize_nil : ErasesAtSize [] := fun _ _ h => nomatch h

@[simp] theorem erasesAtSize_append {l l' : List Effect} :
    ErasesAtSize (l ++ l') ↔ ErasesAtSize l ∧ ErasesAtSize l' := by
  simp only [ErasesAtSize, List.mem_append, or_imp, forall_and]

@[simp] theorem erasesAtSize_cons {e : Effect} {l : List Effect} :
    ErasesAtSize (e :: l) ↔
      (∀ index size, Effect.erase index size = e → index = size) ∧ ErasesAtSize l := by
  simp only [ErasesAtSize, List.mem_cons, or_imp, forall_and]

/-- A stretch of the log with only calls of `erase` on the list, which none of the requests'
bookkeeping reads, each at the list's size. -/
def Erases (l : List Effect) : Prop :=
  ∀ e ∈ l, ∃ size, e = .erase size size

namespace Erases

variable {l : List Effect}

theorem nil : Erases [] := nofun

theorem singleton (size : Nat) : Erases [.erase size size] := by simp [Erases]

theorem answered (h : Erases l) : WifiRequestManager.answered l = [] :=
  List.filterMap_eq_nil_iff.2 fun e he => by obtain ⟨_, rfl⟩ := h e he; rfl

theorem accepted (h : Erases l) : WifiRequestManager.accepted l = [] :=
  List.filterMap_eq_nil_iff.2 fun e he => by obtain ⟨_, rfl⟩ := h e he; rfl

theorem track (h : Erases l) (o : Option ScanMonitorStateTransition) : l.foldl Effect.track o = o := by
  induction l generalizing o with
  | nil => rfl
  | cons e l ih =>
    obtain ⟨_, rfl⟩ := h e (.head _)
    exact ih (fun e he => h e (.tail _ he)) o

theorem erasesAtSize (h : Erases l) : ErasesAtSize l := fun _ _ hm => by
  obtain ⟨_, he⟩ := h _ hm
  cases he
  rfl

/-- An effect other than an `erase` is not in `l`. -/
theorem not_mem (h : Erases l) {e : Effect} (he : ∀ size, e ≠ .erase size size) : e ∉ l :=
  fun hm => by obtain ⟨_, hc⟩ := h _ hm; exact he _ hc

theorem serialised (h : Erases l) {log : List Effect} (hs : Serialised log) :
    Serialised (log ++ l) := by
  intro pre t a post heq
  rcases List.append_eq_append_iff.1 heq with ⟨a', -, hl⟩ | ⟨c', hpre, hpost⟩
  · exact absurd (hl ▸ List.mem_append_right _ (List.mem_cons_self _ _)) (h.not_mem fun _ h => by cases h)
  · cases c' with
    | nil => exact absurd (List.nil_append l ▸ hpost ▸ List.mem_cons_self _ _) (h.not_mem fun _ h => by cases h)
    | cons x c'' =>
      obtain ⟨rfl, -⟩ := List.cons_eq_cons.1 hpost
      exact hs pre t a c'' hpre

end Erases

@[simp] theorem record_scanMonitorNanoapps (m : WifiRequestManager) (e : Effect) :
    (m.record e).scanMonitorNanoapps = m.scanMonitorNanoapps := rfl

@[simp] theorem record_scanMonitorStateTransitions (m : WifiRequestManager) (e : Effect) :
    (m.record e).scanMonitorStateTransitions = m.scanMonitorStateTransitions := rfl

@[simp] theorem record_log (m : WifiRequestManager) (e : Effect) :
    (m.record e).log = m.log ++ [e] := rfl

theorem bind_eq_ok {α β : Type} {x : Except String α} {f : α → Except String β} {b : β}
    (h : x >>= f = .ok b) : ∃ a, x = .ok a ∧ f a = .ok b := by
  cases x with
  | error => cases h
  | ok a => exact ⟨a, rfl, h⟩

/-! ### One lemma per function -/

/-- For every monitoring list and flag, a request is already satisfied or needs a
transition, so neither invalid branch is ever taken. -/
theorem scanMonitorIsInRequestedState_or_isRequired (m : WifiRequestManager) (e h : Bool) :
    m.scanMonitorIsInRequestedState e h = true ∨
      m.scanMonitorStateTransitionIsRequired e h = true := by
  unfold scanMonitorIsInRequestedState scanMonitorStateTransitionIsRequired scanMonitorIsEnabled
  rcases m.scanMonitorNanoapps with _ | ⟨a, _ | ⟨c, l⟩⟩ <;> cases e <;> cases h <;> simp

theorem addScanMonitorRequestToQueue_eq {id : UInt32} {e : Bool} {c : Nat}
    (h : m.addScanMonitorRequestToQueue k id e c = (b, m')) :
    m'.log = m.log ∧ m'.scanMonitorStateTransitions =
      m.scanMonitorStateTransitions ++ (if b then [⟨id, c, e⟩] else []) := by
  unfold addScanMonitorRequestToQueue at h
  split_ifs at h <;> cases h <;> simp

/-- The list update logs at most its `erase`, which is at the list's size:
`nanoappHasScanMonitorRequest` reports a request exactly when the index it finds is `size()`. -/
theorem updateNanoappScanMonitoringList_log (e : Bool) (id : UInt32) (p : Bool) :
    ∃ l, Erases l ∧ (m.updateNanoappScanMonitoringList e id p).2.log = m.log ++ l := by
  dsimp only [updateNanoappScanMonitoringList, nanoappHasScanMonitorRequest]
  split_ifs
  pick_goal 5
  · -- the erase
    rename_i hex
    replace hex : DynamicVector.find m.scanMonitorNanoapps id = m.scanMonitorNanoapps.length := by
      simpa using hex
    exact ⟨_, hex ▸ Erases.singleton _, rfl⟩
  all_goals exact ⟨[], Erases.nil, (List.append_nil _).symm⟩

@[simp] theorem updateNanoappScanMonitoringList_scanMonitorStateTransitions (e : Bool)
    (id : UInt32) (p : Bool) :
    (m.updateNanoappScanMonitoringList e id p).2.scanMonitorStateTransitions =
      m.scanMonitorStateTransitions := by
  dsimp only [updateNanoappScanMonitoringList]; split_ifs <;> rfl

theorem postScanMonitorAsyncResultEvent_eq {t : ScanMonitorStateTransition} {s : Bool}
    {err : UInt8} {o : Outcome} (h : m.postScanMonitorAsyncResultEvent t s err o = (b, m')) :
    m'.scanMonitorStateTransitions = m.scanMonitorStateTransitions ∧ ∃ l, Erases l ∧
      m'.log = m.log ++ l ++ (if b then [.asyncResult t s err] else []) := by
  dsimp only [postScanMonitorAsyncResultEvent] at h
  split_ifs at h <;> cases h
  all_goals first
    | exact ⟨rfl, [], Erases.nil, by simp⟩
    | obtain ⟨l, hl, hlog⟩ := updateNanoappScanMonitoringList_log (m := m) t.enable
        t.nanoappInstanceId o.pushBack
      exact ⟨by simp, l, hl, by simp [hlog]⟩

theorem postScanMonitorAsyncResultEventFatal_eq_ok {t : ScanMonitorStateTransition} {s : Bool}
    {err : UInt8} {o : Outcome} (h : m.postScanMonitorAsyncResultEventFatal t s err o = .ok m') :
    m'.scanMonitorStateTransitions = m.scanMonitorStateTransitions ∧ ∃ l, Erases l ∧
      m'.log = m.log ++ l ++ [.asyncResult t s err] := by
  dsimp only [postScanMonitorAsyncResultEventFatal] at h
  split_ifs at h with hp
  cases h
  simpa using postScanMonitorAsyncResultEvent_eq (b := true) (Prod.ext hp rfl)

/-- **What `configureScanMonitor` can do.** It queues the request behind a transition (or
refuses it, changing neither log nor queue), answers it at once, or calls the driver for it
with an empty queue, keeping it queued exactly when the driver accepts. -/
theorem configureScanMonitor_cases {id : UInt32} {e : Bool} {c : Nat} {o : Outcome}
    (h : m.configureScanMonitor k id e c o = (b, m')) :
    ((∃ l, Erases l ∧ m'.log = m.log ++ l) ∧ m'.scanMonitorStateTransitions =
        m.scanMonitorStateTransitions ++ (if b then [⟨id, c, e⟩] else []) ∧
      (b = true → m.scanMonitorStateTransitions ≠ [])) ∨
    (m.scanMonitorStateTransitions = [] ∧ b = true ∧ m'.scanMonitorStateTransitions = [] ∧
      ∃ l, Erases l ∧ m'.log = m.log ++ l ++ [.asyncResult ⟨id, c, e⟩ true chreErrorNone]) ∨
    (m.scanMonitorStateTransitions = [] ∧
      m'.log = m.log ++ [.configureScanMonitor ⟨id, c, e⟩ b] ∧
      m'.scanMonitorStateTransitions = if b then [⟨id, c, e⟩] else []) := by
  dsimp only [configureScanMonitor] at h
  split_ifs at h with hq hin hreq hqd hdrv
  · obtain ⟨hlog, htr⟩ := addScanMonitorRequestToQueue_eq h
    exact .inl ⟨⟨[], Erases.nil, by simpa using hlog⟩, htr,
      fun _ => by simpa [List.isEmpty_iff] using hq⟩
  · replace hq : m.scanMonitorStateTransitions = [] := by simpa [List.isEmpty_iff] using hq
    obtain ⟨htr, l, hl, hlog⟩ := postScanMonitorAsyncResultEvent_eq h
    cases b
    · exact .inl ⟨⟨l, hl, by simpa using hlog⟩, by simpa using htr, nofun⟩
    · exact .inr (.inl ⟨hq, rfl, htr.trans hq, l, hl, by simpa using hlog⟩)
  · replace hq : m.scanMonitorStateTransitions = [] := by simpa [List.isEmpty_iff] using hq
    obtain ⟨hlog, htr⟩ := addScanMonitorRequestToQueue_eq (Prod.ext hqd rfl)
    cases h
    exact .inr (.inr ⟨hq, by simp [hlog, hdrv], by simp [htr, hq, hdrv]⟩)
  · replace hq : m.scanMonitorStateTransitions = [] := by simpa [List.isEmpty_iff] using hq
    obtain ⟨hlog, htr⟩ := addScanMonitorRequestToQueue_eq (Prod.ext hqd rfl)
    cases h
    exact .inr (.inr ⟨hq, by simp [hlog, hdrv], by simp [htr, hq]⟩)
  · cases h
    obtain ⟨hlog, htr⟩ := addScanMonitorRequestToQueue_eq (b := false) (Prod.ext (by simpa using hqd) rfl)
    exact .inl ⟨⟨[], Erases.nil, by simpa using hlog⟩, by simpa using htr, nofun⟩
  · exact absurd (scanMonitorIsInRequestedState_or_isRequired m e _) (not_or.2 ⟨hin, hreq⟩)

/-! ### The invariant -/

/-- What every reachable state satisfies. -/
structure Invariant (m : WifiRequestManager) : Prop where
  /-- The requests answered so far, then those still queued, are the accepted requests. -/
  answered_append : answered m.log ++ m.scanMonitorStateTransitions = accepted m.log
  serialised : Serialised m.log
  /-- The queue's head is the transition outstanding, and there is one iff it is non-empty. -/
  outstanding : outstandingTransition m.log = m.scanMonitorStateTransitions.head?
  /-- Every `erase` of the list is at its size. -/
  erasesAtSize : ErasesAtSize m.log

theorem invariant_init : Invariant {} :=
  ⟨rfl, fun pre _ _ _ h => absurd h.symm (by simp), rfl, erasesAtSize_nil⟩

/-- The completion loop, started with nothing outstanding behind the answered requests, on a
queue of accepted requests not yet answered, ends in a state of the invariant. -/
theorem processScanMonitorStateTransitions_invariant {s : Bool} {err : UInt8} :
    ∀ {pending : List ScanMonitorStateTransition} {o : Nat → Outcome} {m : WifiRequestManager},
      answered m.log ++ pending = accepted m.log → Serialised m.log →
      outstandingTransition m.log = none → ErasesAtSize m.log →
      processScanMonitorStateTransitions s err pending o m = .ok m' → Invariant m'
  | [], o, m, hans, hser, hout, her, h => by
    cases h
    exact ⟨by simpa using hans, hser, hout, her⟩
  | t :: rest, o, m, hans, hser, hout, her, h => by
    have hpost {m m₁ : WifiRequestManager} {s' err'} (hm : answered m.log ++ t :: rest =
        accepted m.log) (hs : Serialised m.log) (ho : outstandingTransition m.log = none)
        (he : ErasesAtSize m.log)
        (h₁ : m.postScanMonitorAsyncResultEventFatal t s' err' (o 0) = .ok m₁)
        (h₂ : processScanMonitorStateTransitions s err rest (fun i => o (i + 1)) m₁ = .ok m') :
        Invariant m' := by
      obtain ⟨-, l, hl, hlog⟩ := postScanMonitorAsyncResultEventFatal_eq_ok h₁
      exact processScanMonitorStateTransitions_invariant
        (by simpa [hlog, hl.answered, hl.accepted] using hm)
        (hlog ▸ serialised_append_singleton.2 ⟨hl.serialised hs, by simp⟩)
        (by simpa [hlog, hl.track] using ho) (by simp [hlog, he, hl.erasesAtSize]) h₂
    simp only [processScanMonitorStateTransitions] at h
    split_ifs at h with hin hreq hacc
    · obtain ⟨m₁, h₁, h₂⟩ := bind_eq_ok h
      exact hpost hans hser hout her h₁ h₂
    · cases h
      exact ⟨by simpa using hans, serialised_append_singleton.2 ⟨hser, fun _ _ _ => hout⟩,
        by simp [hout, hacc], by simp [her]⟩
    · obtain ⟨m₁, h₁, h₂⟩ := bind_eq_ok h
      exact hpost (by simpa using hans) (serialised_append_singleton.2 ⟨hser, fun _ _ _ => hout⟩)
        (by simp [hout, hacc]) (by simp [her]) h₁ h₂
    · exact absurd (scanMonitorIsInRequestedState_or_isRequired m _ _) (not_or.2 ⟨hin, hreq⟩)

theorem handleScanMonitorStateChangeSync_invariant {en : Bool} {err : UInt8}
    {o : Nat → Outcome} (hi : Invariant m)
    (h : (m.record (.scanMonitorStateChange en err)).handleScanMonitorStateChangeSync en err o =
      .ok m') : Invariant m' := by
  have hser : Serialised (m.record (.scanMonitorStateChange en err)).log :=
    serialised_append_singleton.2 ⟨hi.serialised, by simp⟩
  have hans := hi.answered_append
  unfold handleScanMonitorStateChangeSync at h
  split at h
  · rename_i htr
    simp only [record_scanMonitorStateTransitions] at htr
    exact processScanMonitorStateTransitions_invariant (by simpa [htr] using hans)
      (serialised_append_singleton.2 ⟨hser, by simp⟩) (by simp) (by simp [hi.erasesAtSize]) h
  · rename_i t rest htr
    obtain ⟨m₁, h₁, h₂⟩ := bind_eq_ok h
    obtain ⟨-, l, hl, hlog⟩ := postScanMonitorAsyncResultEventFatal_eq_ok h₁
    simp only [record_scanMonitorStateTransitions] at htr
    exact processScanMonitorStateTransitions_invariant
      (by simpa [hlog, htr, hl.answered, hl.accepted] using hans)
      (hlog ▸ serialised_append_singleton.2 ⟨hl.serialised hser, by simp⟩)
      (by simp [hlog, hl.track]) (by simp [hlog, hi.erasesAtSize, hl.erasesAtSize]) h₂

theorem configureScanMonitor_invariant {id : UInt32} {e : Bool} {c : Nat} {o : Outcome}
    (hi : Invariant m) (h : m.configureScanMonitor k id e c o = (b, m')) :
    Invariant (m'.record (.configured ⟨id, c, e⟩ b)) := by
  have hans := hi.answered_append
  have hout := hi.outstanding
  have hser {l : List Effect} {e' : Effect} (hl : Serialised l) (he' : ∀ t a,
      e' ≠ .configureScanMonitor t a ∨ outstandingTransition l = none) :
      Serialised (l ++ [e']) :=
    serialised_append_singleton.2 ⟨hl, fun t a he => (he' t a).resolve_left (not_not.2 he)⟩
  rcases configureScanMonitor_cases h with ⟨⟨l, hl, hlog⟩, htr, hq⟩ |
    ⟨hq, rfl, htr, l, hl, hlog⟩ | ⟨hq, hlog, htr⟩
  · refine ⟨?_, hser (hlog ▸ hl.serialised hi.serialised) (by simp), ?_,
      by simp [hlog, hi.erasesAtSize, hl.erasesAtSize]⟩
    · cases b <;> simp [hlog, htr, hl.answered, hl.accepted, ← hans]
    · cases b
      · simpa [hlog, htr, hl.track] using hout
      · simpa [hlog, htr, hl.track, List.head?_append_of_ne_nil _ (hq rfl)] using hout
  · rw [hq] at hans hout
    exact ⟨by simpa [hlog, htr, hl.answered, hl.accepted] using hans,
      hser (hlog ▸ hser (hl.serialised hi.serialised) (by simp)) (by simp),
      by simpa [hlog, htr, hl.track], by simp [hlog, hi.erasesAtSize, hl.erasesAtSize]⟩
  · rw [hq] at hans hout
    refine ⟨?_, hser (hlog ▸ hser hi.serialised (fun _ _ => .inr hout)) (by simp), ?_,
      by simp [hlog, hi.erasesAtSize]⟩
    · cases b <;> simpa [hlog, htr] using hans
    · cases b <;> simp [hlog, htr, hout]

/-- **One call keeps the invariant.** -/
theorem step_invariant (hi : Invariant m) : ∀ {op : Op}, m.step k op = .ok m' → Invariant m'
  | .configureScanMonitor _ _ _ _, h => by
    cases h
    exact configureScanMonitor_invariant hi rfl
  | .handleScanMonitorStateChangeSync _ _ _, h => handleScanMonitorStateChangeSync_invariant hi h

theorem Reachable.invariant (h : Reachable k m) : Invariant m := by
  induction h with
  | init => exact invariant_init
  | configureScanMonitor _ _ _ _ _ hstep ih => exact step_invariant ih hstep
  | handleScanMonitorStateChangeSync _ _ _ _ _ hstep ih => exact step_invariant ih hstep

/-! ### Answers and transitions over runs -/

/-- Nanoapp 1 asks to enable the monitor, the driver accepts, then reports it enabled with
`CHRE_ERROR_NONE`: the request is answered with a success, and the monitoring list stays
empty, because `nanoappHasScanMonitorRequest` reports a request only for an absent nanoapp. -/
theorem reachable_enable_then_report : Reachable 1
    { log := [.configureScanMonitor ⟨1, 0, true⟩ true, .configured ⟨1, 0, true⟩ true,
      .scanMonitorStateChange true chreErrorNone, .asyncResult ⟨1, 0, true⟩ true chreErrorNone] } :=
  @Reachable.handleScanMonitorStateChangeSync 1
    { scanMonitorStateTransitions := [⟨1, 0, true⟩],
      log := [.configureScanMonitor ⟨1, 0, true⟩ true, .configured ⟨1, 0, true⟩ true] } _
    true chreErrorNone (fun _ => {})
    (@Reachable.configureScanMonitor 1 {} _ 1 true 0 {} .init rfl) rfl rfl

/-- Nanoapp 1 asks to enable the monitor and the driver accepts; nanoapp 2 then asks to disable
it, and its request is queued behind the transition in flight. -/
theorem reachable_disable_queued_behind_enable (hk : 2 ≤ k) : Reachable k
    { scanMonitorStateTransitions := [⟨1, 0, true⟩, ⟨2, 0, false⟩],
      log := [.configureScanMonitor ⟨1, 0, true⟩ true, .configured ⟨1, 0, true⟩ true,
        .configured ⟨2, 0, false⟩ true] } :=
  @Reachable.configureScanMonitor k
    { scanMonitorStateTransitions := [⟨1, 0, true⟩],
      log := [.configureScanMonitor ⟨1, 0, true⟩ true, .configured ⟨1, 0, true⟩ true] } _
    2 false 0 {}
    (@Reachable.configureScanMonitor k {} _ 1 true 0 {} .init
      (by simp [step, configureScanMonitor, addScanMonitorRequestToQueue, record,
        scanMonitorIsInRequestedState, scanMonitorStateTransitionIsRequired,
        scanMonitorIsEnabled, show 0 < k by omega]))
    (by simp [step, configureScanMonitor, addScanMonitorRequestToQueue, record,
      show 1 < k by omega])

/-- **At most one transition in flight.** In every reachable state, every call to the driver
was made with no transition outstanding, and the queue's head is the transition outstanding,
so the queue is non-empty exactly when one is. -/
theorem configureScanMonitor_one_transition_in_flight (h : Reachable k m) :
    Serialised m.log ∧ outstandingTransition m.log = m.scanMonitorStateTransitions.head? :=
  ⟨h.invariant.serialised, h.invariant.outstanding⟩

theorem configureScanMonitor_one_transition_in_flight_queued :
    let m : WifiRequestManager :=
      { scanMonitorStateTransitions := [⟨1, 0, true⟩, ⟨2, 0, false⟩],
        log := [.configureScanMonitor ⟨1, 0, true⟩ true, .configured ⟨1, 0, true⟩ true,
          .configured ⟨2, 0, false⟩ true] }
    Reachable 2 m ∧ Serialised m.log ∧
      outstandingTransition m.log = m.scanMonitorStateTransitions.head? :=
  ⟨reachable_disable_queued_behind_enable le_rfl,
    configureScanMonitor_one_transition_in_flight (reachable_disable_queued_behind_enable le_rfl)⟩

/-! ### The monitoring list -/

/-- The scan-monitor state the driver last reported with `CHRE_ERROR_NONE`; disabled before
any such report. -/
def lastReportedEnabled (log : List Effect) : Bool :=
  log.foldl (fun b e => match e with
    | .scanMonitorStateChange enabled errorCode => if errorCode = chreErrorNone then enabled else b
    | _ => b) false

/-- Whether the most recent request of the nanoapp `n` that was answered with a success asked
to enable. -/
def lastSuccessfulRequest (log : List Effect) (n : UInt32) : Option Bool :=
  log.foldl (fun r e => match e with
    | .asyncResult t true _ => if t.nanoappInstanceId = n then some t.enable else r
    | _ => r) none

/-- The monitor is not enabled after the driver reported it enabled with nothing queued. -/
theorem scanMonitorIsEnabled_ne_lastReportedEnabled :
    ¬ ∀ m : WifiRequestManager, Reachable 1 m → m.scanMonitorStateTransitions = [] →
      m.scanMonitorIsEnabled = lastReportedEnabled m.log :=
  fun h => absurd (h _ reachable_enable_then_report rfl) (by decide)

/-- A nanoapp whose enable request succeeded is not in the monitoring list. -/
theorem scanMonitorNanoapps_ne_lastSuccessfulRequest :
    ¬ ∀ m : WifiRequestManager, Reachable 1 m → m.scanMonitorNanoapps.Nodup ∧
      ∀ n, n ∈ m.scanMonitorNanoapps ↔ lastSuccessfulRequest m.log n = some true :=
  fun h => absurd ((h _ reachable_enable_then_report).2 1) (by decide)

end WifiRequestManager

end Chre

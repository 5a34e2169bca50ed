import Chre.EventLoop.Run

/-!
# One loaded nanoapp per app id

`startNanoapp` refuses an app id that is already loaded, and gives the nanoapp it loads the
instance id after the last one handed out. Every other function of the loop keeps each loaded
nanoapp's app id and instance id, or removes nanoapps (`unloadNanoappAtIndex`, and the
`pop_back` of a failed start). So, whatever the code the loop calls does, starts and unloads it
nests included, the loaded nanoapps have distinct app ids and distinct instance ids, none past
the last id handed out (`Identified`, `runRequests_identified`, `RunReachable.identified`), and
`lookupAppByAppId` finds the one loaded nanoapp with an app id (`lookupAppByAppId_eq_some`).

A start whose `start()` fails leaves `mNanoapps` as it was, when `start()` starts and unloads
nothing: it can then change only the nanoapp it runs as, which is the one `pop_back` removes
(`startNanoapp_failed_nanoapps`).
-/

namespace Chre

namespace EventLoop

/-- The app id and instance id of each loaded nanoapp, in `mNanoapps` order. -/
def idents (s : EventLoop) : List (UInt64 × UInt32) :=
  s.nanoapps.map fun app => (app.appId, app.instanceId)

/-- What the loaded nanoapps' identities satisfy in every state: distinct app ids, distinct
instance ids, none past the last one handed out, which is not `kBroadcastInstanceId`. -/
structure Identified (s : EventLoop) : Prop where
  appIds : (s.idents.map Prod.fst).Nodup
  instanceIds : (s.idents.map Prod.snd).Nodup
  le_last : ∀ p ∈ s.idents, p.2.toNat ≤ s.lastInstanceId.toNat
  last_ne : s.lastInstanceId ≠ kBroadcastInstanceId

theorem map_ident_map (l : List Nanoapp) {f : Nanoapp → Nanoapp}
    (hf : ∀ app, (f app).appId = app.appId ∧ (f app).instanceId = app.instanceId) :
    (l.map f).map (fun app => (app.appId, app.instanceId)) =
      l.map fun app => (app.appId, app.instanceId) := by
  rw [List.map_map]
  exact List.map_congr_left fun app _ => by simp [Function.comp, (hf app).1, (hf app).2]

namespace Identified

variable {s s' : EventLoop}

theorem init : Identified {} :=
  ⟨.nil, .nil, by simp [idents], by decide⟩

/-- Keeping some of the nanoapps, with their identities, and the last id keeps `Identified`. -/
theorem of_sublist (h : Identified s) (hl : s'.idents.Sublist s.idents)
    (hlast : s'.lastInstanceId = s.lastInstanceId) : Identified s' :=
  ⟨h.appIds.sublist (hl.map _), h.instanceIds.sublist (hl.map _),
    fun p hp => hlast ▸ h.le_last p (hl.subset hp), hlast ▸ h.last_ne⟩

theorem of_idents (h : Identified s) (hl : s'.idents = s.idents)
    (hlast : s'.lastInstanceId = s.lastInstanceId) : Identified s' :=
  h.of_sublist (hl ▸ List.Sublist.refl _) hlast

theorem appIds_nodup (h : Identified s) : (s.nanoapps.map (·.appId)).Nodup := by
  simpa [idents, List.map_map, Function.comp_def] using h.appIds

/-- No loaded nanoapp has the id `getNextInstanceId` hands out next. -/
theorem instanceId_ne_next (h : Identified s) {app : Nanoapp} (happ : app ∈ s.nanoapps) :
    app.instanceId ≠ s.lastInstanceId + 1 := fun heq => by
  have hle : app.instanceId.toNat ≤ s.lastInstanceId.toNat :=
    h.le_last _ (List.mem_map_of_mem (fun app => (app.appId, app.instanceId)) happ)
  have hsucc := UInt32.toNat_add_one h.last_ne
  rw [heq] at hle
  omega

/-- Loading a nanoapp with a fresh app id under the next instance id keeps `Identified`. -/
theorem push (h : Identified s) {app : Nanoapp} (happ : app.appId ∉ s.nanoapps.map (·.appId))
    (hid : app.instanceId = s.lastInstanceId + 1) (hnext : app.instanceId ≠ kBroadcastInstanceId)
    (hl : s'.idents = s.idents ++ [(app.appId, app.instanceId)])
    (hlast : s'.lastInstanceId = app.instanceId) : Identified s' := by
  have hsucc := UInt32.toNat_add_one h.last_ne
  have hfresh : app.instanceId ∉ s.idents.map Prod.snd := fun hmem => by
    obtain ⟨p, hp, hp2⟩ := List.mem_map.1 hmem
    have := h.le_last p hp
    rw [hp2, hid] at this
    omega
  refine ⟨?_, ?_, fun p hp => ?_, hlast ▸ hnext⟩
  · rw [hl, List.map_append]
    exact h.appIds.append (List.nodup_singleton _)
      (List.disjoint_singleton.2 (by simpa [idents, List.map_map, Function.comp_def] using happ))
  · rw [hl, List.map_append]
    exact h.instanceIds.append (List.nodup_singleton _) (List.disjoint_singleton.2 hfresh)
  · rw [hl, List.mem_append, List.mem_singleton] at hp
    rw [hlast, hid, hsucc]
    rcases hp with hp | rfl
    · exact (h.le_last p hp).trans (Nat.le_succ _)
    · rw [hid, hsucc]

end Identified

variable {env : Env}

theorem postEvent_identified {s : EventLoop} (h : Identified s) (eventType : UInt16)
    (eventData : Nat) (freeCallback : Option Nat) (senderInstanceId targetInstanceId : UInt32) :
    Identified (postEvent env s eventType eventData freeCallback senderInstanceId
      targetInstanceId).2 := by
  obtain ⟨_, _, _, hframe⟩ := postEvent_frame env s eventType eventData freeCallback
    senderInstanceId targetInstanceId
  rw [hframe]
  exact h.of_idents rfl rfl

theorem modifyNanoapp_identified {s : EventLoop} (h : Identified s) (instanceId : UInt32)
    {f : Nanoapp → Nanoapp}
    (hf : ∀ app, (f app).appId = app.appId ∧ (f app).instanceId = app.instanceId) :
    Identified (s.modifyNanoapp instanceId f) :=
  h.of_idents (map_ident_map _ fun app => by split <;> simp [hf]) rfl

/-! ### Every function of the loop keeps `Identified` -/

/-- A runner whose runs keep `Identified`. -/
def KeepsIdentified (run : Runner) : Prop :=
  ∀ rs s s', Identified s → run rs s = some s' → Identified s'

section Procedures

variable {run : Runner} (hrun : KeepsIdentified run)
include hrun

theorem freeEvent_identified {event : Nat} {s s' : EventLoop} (hs : Identified s)
    (h : freeEvent env run event s = some s') : Identified s' := by
  obtain ⟨e, -, h⟩ := Option.bind_eq_some.1 h
  dsimp only at h
  split at h
  · simp only [Option.bind_eq_bind, Option.some_bind, Option.some.injEq] at h
    subst h
    exact hs.of_idents rfl rfl
  · simp only [Option.bind_eq_bind, Option.bind_eq_some, Option.map_eq_some',
      Option.some.injEq] at h
    obtain ⟨_, ⟨s₂, h₂, rfl⟩, rfl⟩ := h
    exact (hrun _ _ _ (by exact hs.of_idents rfl rfl) h₂).of_idents rfl rfl

theorem distributeEvent_identified {event : Nat} {s s' : EventLoop} (hs : Identified s)
    (h : distributeEvent env run event s = some s') : Identified s' := by
  obtain ⟨e, -, h⟩ := Option.bind_eq_some.1 h
  have hs₁ : ∀ c : Nanoapp → Bool, Identified { s with
      nanoapps := s.nanoapps.map fun app => if c app then app.postEvent event else app } :=
    fun _ => hs.of_idents (map_ident_map _ fun app => by split <;> exact ⟨rfl, rfl⟩) rfl
  dsimp only at h
  split_ifs at h
  · exact freeEvent_identified hrun (by exact (hs₁ _).of_idents rfl rfl) h
  · cases h; exact (hs₁ _).of_idents rfl rfl

theorem flushInboundEventQueue_identified :
    ∀ {fuel : Nat} {s s' : EventLoop}, Identified s →
      flushInboundEventQueue env run fuel s = some s' → Identified s'
  | 0, _, _, _, h => by cases h
  | fuel + 1, s, _, hs, h => by
    unfold flushInboundEventQueue at h
    split at h
    · cases h; exact hs
    · obtain ⟨s₁, h₁, h⟩ := Option.bind_eq_some.1 h
      exact flushInboundEventQueue_identified
        (distributeEvent_identified hrun (by exact hs.of_idents rfl rfl) h₁) h

theorem deliverNextEvent_identified {i : Nat} {s : EventLoop} {r : Bool × EventLoop}
    (hs : Identified s) (h : deliverNextEvent env run i s = some r) : Identified r.2 := by
  obtain ⟨app, happ, h⟩ := Option.bind_eq_some.1 h
  obtain ⟨event, -, h⟩ := Option.bind_eq_some.1 h
  obtain ⟨e, -, h⟩ := Option.bind_eq_some.1 h
  obtain ⟨s₁, h₁, h⟩ := Option.bind_eq_some.1 h
  have hs₁ := hrun _ _ _ (by
    refine hs.of_idents ?_ rfl
    simp only [idents, List.map_set]
    exact List.set_self_of_getElem? (by simp [happ])) h₁
  dsimp only at h
  split at h <;>
    simp only [Option.bind_eq_bind, Option.bind_eq_some, Option.some_bind, Option.some.injEq] at h
  · obtain ⟨s₂, h₂, rfl⟩ := h
    exact freeEvent_identified hrun (by exact hs₁.of_idents rfl rfl) h₂
  · subst h
    exact hs₁.of_idents rfl rfl

theorem deliverEventsFrom_identified :
    ∀ {is : List Nat} {b : Bool} {s : EventLoop} {r : Bool × EventLoop}, Identified s →
      deliverEventsFrom env run is b s = some r → Identified r.2
  | [], _, _, _, hs, h => by cases h; exact hs
  | i :: is, b, s, r, hs, h => by
    obtain ⟨app, -, h⟩ := Option.bind_eq_some.1 h
    split at h
    · obtain ⟨r₁, h₁, h⟩ := Option.bind_eq_some.1 h
      exact deliverEventsFrom_identified (deliverNextEvent_identified hrun hs h₁) h
    · exact deliverEventsFrom_identified hs h

theorem flushNanoappEventQueues_identified :
    ∀ {fuel : Nat} {s s' : EventLoop}, Identified s →
      flushNanoappEventQueues env run fuel s = some s' → Identified s'
  | 0, _, _, _, h => by cases h
  | fuel + 1, s, _, hs, h => by
    obtain ⟨r, h₁, h⟩ := Option.bind_eq_some.1 h
    have hr := deliverEventsFrom_identified hrun hs h₁
    split at h
    · exact flushNanoappEventQueues_identified hr h
    · cases h; exact hr

theorem unloadNanoappAtIndex_identified {i : Nat} {s s' : EventLoop} (hs : Identified s)
    (h : unloadNanoappAtIndex env run i s = some s') : Identified s' := by
  obtain ⟨app, s₁, -, h₁, rfl⟩ := unloadNanoappAtIndex_cases env h
  exact (hrun _ _ _ (by exact hs.of_idents rfl rfl) h₁).of_sublist
    ((List.eraseIdx_sublist s₁.nanoapps i).map _) rfl

theorem unloadNanoapp_identified {fuel : Nat} {instanceId : UInt32}
    {allowSystemNanoappUnload : Bool} {s : EventLoop} {r : Bool × EventLoop} (hs : Identified s)
    (h : unloadNanoapp env run fuel instanceId allowSystemNanoappUnload s = some r) :
    Identified r.2 := by
  unfold unloadNanoapp at h
  split at h
  · cases h; exact hs
  · obtain ⟨app, -, h⟩ := Option.bind_eq_some.1 h
    split at h
    · cases h; exact hs
    · obtain ⟨s₁, h₁, h⟩ := Option.bind_eq_some.1 h
      obtain ⟨s₂, h₂, h⟩ := Option.bind_eq_some.1 h
      obtain ⟨N₂, -, h⟩ := Option.bind_eq_some.1 h
      obtain ⟨s₄, h₄, h⟩ := Option.bind_eq_some.1 h
      obtain ⟨s₅, h₅, h⟩ := Option.bind_eq_some.1 h
      cases h
      have hs₂ := flushInboundEventQueue_identified hrun (hrun _ _ _ hs h₁) h₂
      have hs₄ := flushNanoappEventQueues_identified hrun (by exact hs₂.of_idents rfl rfl) h₄
      exact (unloadNanoappAtIndex_identified hrun hs₄ h₅).of_idents rfl rfl

theorem startNanoapp_identified {appId : UInt64} {isSystemNanoapp : Bool} {s : EventLoop}
    {r : Bool × EventLoop} (hs : Identified s)
    (h : startNanoapp env run appId isSystemNanoapp s = some r) : Identified r.2 := by
  unfold startNanoapp at h
  split_ifs at h with hdup
  · cases h; exact hs
  · cases h; exact hs
  obtain ⟨x, hx, h⟩ := Option.bind_eq_some.1 h
  obtain ⟨s₁, h₁, h⟩ := Option.bind_eq_some.1 h
  have hnext : s.lastInstanceId + 1 ≠ kBroadcastInstanceId ∧ x = s.lastInstanceId + 1 := by
    unfold getNextInstanceId at hx
    split_ifs at hx with hb
    exact ⟨hb, (Option.some.inj hx).symm⟩
  obtain ⟨hnext, rfl⟩ := hnext
  have happ : (⟨appId, s.lastInstanceId + 1, isSystemNanoapp, [], []⟩ : Nanoapp).appId ∉
      s.nanoapps.map (·.appId) := fun hmem => hdup <| by
    obtain ⟨app, happ, rfl⟩ := List.mem_map.1 hmem
    simpa [findNanoappInstanceIdByAppId] using ⟨app, happ, rfl⟩
  have hs₁ := hrun _ _ _ (hs.push happ rfl hnext (by simp [idents]) rfl) h₁
  split at h <;> cases h
  · exact hs₁.of_idents rfl rfl
  · exact hs₁.of_sublist (by simpa only [idents, List.map_dropLast] using List.dropLast_sublist _)
      rfl

theorem interpret_identified {fuel : Nat} {s s' : EventLoop} {r : Request} (hs : Identified s)
    (h : interpret env run fuel s r = some s') : Identified s' := by
  cases r with
  | sendEvent =>
    simp only [interpret] at h
    split at h
    · split_ifs at h <;> cases h
      · exact hs
      · exact postEvent_identified hs _ _ _ _ _
    · cases h; exact hs
  | postEvent => cases h; exact postEvent_identified hs _ _ _ _ _
  | registerForBroadcastEvent =>
    cases h; exact modifyNanoapp_identified hs _ fun _ => ⟨rfl, rfl⟩
  | unregisterForBroadcastEvent =>
    cases h; exact modifyNanoapp_identified hs _ fun _ => ⟨rfl, rfl⟩
  | startNanoapp =>
    obtain ⟨r, hr, rfl⟩ := Option.map_eq_some'.1 h
    exact startNanoapp_identified hrun hs hr
  | unloadNanoapp =>
    obtain ⟨r, hr, rfl⟩ := Option.map_eq_some'.1 h
    exact unloadNanoapp_identified hrun hs hr

theorem foldlM_interpret_identified (fuel : Nat) :
    KeepsIdentified fun rs s => rs.foldlM (interpret env run fuel) s := by
  intro rs
  induction rs with
  | nil => intro s s' hs h; cases h; exact hs
  | cons r rs ih =>
    intro s s' hs h
    obtain ⟨s₁, h₁, h₂⟩ := Option.bind_eq_some.1 h
    exact ih s₁ s' (interpret_identified hrun hs h₁) h₂

end Procedures

/-- **Running the requests of any code keeps `Identified`**, whatever starts and unloads they
nest. -/
theorem runRequests_identified : ∀ fuel, KeepsIdentified (runRequests env fuel)
  | 0 => foldlM_interpret_identified (fun _ _ _ _ h => by cases h) 0
  | fuel + 1 => foldlM_interpret_identified (runRequests_identified fuel) fuel

theorem Op.run_identified {fuel : Nat} {s s' : EventLoop} {op : Op} (hs : Identified s)
    (h : op.run env fuel s = some s') : Identified s' := by
  have hrun : KeepsIdentified (runRequests env fuel) := runRequests_identified fuel
  cases op with
  | postEvent => cases h; exact postEvent_identified hs _ _ _ _ _
  | distributeNextEvent =>
    simp only [Op.run] at h
    split at h
    · cases h
    · exact distributeEvent_identified hrun (by exact hs.of_idents rfl rfl) h
  | deliverEvents =>
    obtain ⟨r, h₁, rfl⟩ := Option.map_eq_some'.1 h
    exact deliverEventsFrom_identified hrun hs h₁
  | flushInboundEventQueue => exact flushInboundEventQueue_identified hrun hs h
  | flushNanoappEventQueues => exact flushNanoappEventQueues_identified hrun hs h
  | registerForBroadcastEvent => cases h; exact modifyNanoapp_identified hs _ fun _ => ⟨rfl, rfl⟩
  | unregisterForBroadcastEvent =>
    cases h; exact modifyNanoapp_identified hs _ fun _ => ⟨rfl, rfl⟩

theorem purgeEvents_identified {fuel : Nat} :
    ∀ {n : Nat} {s s' : EventLoop}, Identified s →
      purgeEvents env (runRequests env fuel) n s = some s' → Identified s'
  | 0, _, _, _, h => by cases h
  | n + 1, s, _, hs, h => by
    unfold purgeEvents at h
    split at h
    · cases h; exact hs
    · obtain ⟨s₁, h₁, h⟩ := Option.bind_eq_some.1 h
      exact purgeEvents_identified
        (freeEvent_identified (runRequests_identified fuel) (by exact hs.of_idents rfl rfl) h₁) h

theorem unloadNanoapps_identified {fuel : Nat} :
    ∀ {n : Nat} {s s' : EventLoop}, Identified s →
      unloadNanoapps env (runRequests env fuel) n s = some s' → Identified s'
  | 0, _, _, _, h => by cases h
  | n + 1, s, _, hs, h => by
    unfold unloadNanoapps at h
    split_ifs at h
    · cases h; exact hs
    · obtain ⟨s₁, h₁, h⟩ := Option.bind_eq_some.1 h
      exact unloadNanoapps_identified
        (unloadNanoappAtIndex_identified (runRequests_identified fuel) hs h₁) h

/-- The end of `run()` keeps `Identified`. -/
theorem finishRun_identified {fuel : Nat} {s s' : EventLoop} (hs : Identified s)
    (h : finishRun env (runRequests env fuel) fuel s = some s') : Identified s' := by
  obtain ⟨s₁, h₁, h⟩ := Option.bind_eq_some.1 h
  obtain ⟨s₂, h₂, h₃⟩ := Option.bind_eq_some.1 h
  exact unloadNanoapps_identified (purgeEvents_identified
    (flushNanoappEventQueues_identified (runRequests_identified fuel) hs h₁) h₂) h₃

/-- **Every state a run reaches satisfies `Identified`.** -/
theorem RunReachable.identified {fuel : Nat} {s : EventLoop} (hs : RunReachable env fuel s) :
    Identified s := by
  induction hs with
  | init => exact Identified.init
  | step job _ h ih =>
    cases job with
    | op o =>
      simp only [Job.run] at h
      split at h
      · exact Op.run_identified ih h
      · cases h
    | startNanoapp =>
      obtain ⟨r, hr, rfl⟩ := Option.map_eq_some'.1 h
      exact startNanoapp_identified (runRequests_identified _) ih hr
    | unloadNanoapp =>
      obtain ⟨r, hr, rfl⟩ := Option.map_eq_some'.1 h
      exact unloadNanoapp_identified (runRequests_identified _) ih hr
    | stop => cases h; exact ih.of_idents rfl rfl

/-- With distinct app ids, `lookupAppByAppId` finds exactly the loaded nanoapp with the app
id. -/
theorem lookupAppByAppId_eq_some {s : EventLoop} (hs : Identified s) {appId : UInt64}
    {app : Nanoapp} : s.lookupAppByAppId appId = some app ↔ app ∈ s.nanoapps ∧ app.appId = appId := by
  constructor
  · intro h
    exact ⟨List.mem_of_find?_eq_some h, by simpa using List.find?_some h⟩
  · rintro ⟨happ, rfl⟩
    obtain ⟨a, ha⟩ : ∃ a, s.nanoapps.find? (·.appId == app.appId) = some a :=
      Option.isSome_iff_exists.1 (List.find?_isSome.2 ⟨app, happ, beq_self_eq_true _⟩)
    have hmem := List.mem_of_find?_eq_some ha
    have hid : a.appId = app.appId := by simpa using List.find?_some ha
    rw [lookupAppByAppId, ha, List.inj_on_of_nodup_map hs.appIds_nodup hmem happ hid]

/-! ### A failed start -/

/-- `l'` is `l` with at most the nanoapps of instance id `x` changed. -/
def ChangesOnly (x : UInt32) (l l' : List Nanoapp) : Prop :=
  ∃ f : Nanoapp → Nanoapp, l' = l.map fun app => if app.instanceId = x then f app else app

namespace ChangesOnly

variable {x : UInt32} {l l₁ l₂ : List Nanoapp}

theorem refl (x : UInt32) (l : List Nanoapp) : ChangesOnly x l l :=
  ⟨id, by simp⟩

theorem trans (h₁ : ChangesOnly x l l₁) (h₂ : ChangesOnly x l₁ l₂) : ChangesOnly x l l₂ := by
  obtain ⟨f₁, rfl⟩ := h₁
  obtain ⟨f₂, rfl⟩ := h₂
  refine ⟨fun app => if (f₁ app).instanceId = x then f₂ (f₁ app) else f₁ app, ?_⟩
  rw [List.map_map]
  exact List.map_congr_left fun app _ => by by_cases h : app.instanceId = x <;> simp [h]

end ChangesOnly

theorem interpret_changesOnly {run : Runner} {fuel : Nat} {s s' : EventLoop} {r : Request}
    {x : UInt32} (hr : r.isLifecycle = false) (hc : s.currentApp = some x)
    (h : interpret env run fuel s r = some s') :
    s'.currentApp = some x ∧ ChangesOnly x s.nanoapps s'.nanoapps := by
  have hpost (s : EventLoop) (hc : s.currentApp = some x) (eventType eventData freeCallback
      senderInstanceId targetInstanceId) :
      (postEvent env s eventType eventData freeCallback senderInstanceId targetInstanceId).2.currentApp
        = some x ∧ ChangesOnly x s.nanoapps (postEvent env s eventType eventData freeCallback
          senderInstanceId targetInstanceId).2.nanoapps := by
    obtain ⟨_, _, _, hframe⟩ := postEvent_frame env s eventType eventData freeCallback
      senderInstanceId targetInstanceId
    rw [hframe]
    exact ⟨hc, .refl x _⟩
  cases r with
  | sendEvent =>
    simp only [interpret, hc] at h
    split_ifs at h <;> cases h
    · exact ⟨hc, .refl x _⟩
    · exact hpost s hc _ _ _ _ _
  | postEvent => cases h; exact hpost s hc _ _ _ _ _
  | registerForBroadcastEvent =>
    cases h; exact ⟨hc, _, by simp only [modifyNanoapp, hc, Option.getD_some]; rfl⟩
  | unregisterForBroadcastEvent =>
    cases h; exact ⟨hc, _, by simp only [modifyNanoapp, hc, Option.getD_some]; rfl⟩
  | startNanoapp => simp [Request.isLifecycle] at hr
  | unloadNanoapp => simp [Request.isLifecycle] at hr

/-- Requests that start and unload nothing, run as the nanoapp `x`, change no other nanoapp. -/
theorem runRequests_changesOnly {fuel : Nat} {rs : List Request} {s s' : EventLoop} {x : UInt32}
    (hrs : ∀ r ∈ rs, r.isLifecycle = false) (hc : s.currentApp = some x)
    (h : runRequests env fuel rs s = some s') : ChangesOnly x s.nanoapps s'.nanoapps := by
  have key : ∀ {run : Runner} {fuel : Nat} {rs : List Request} {s : EventLoop},
      (∀ r ∈ rs, r.isLifecycle = false) → s.currentApp = some x →
      rs.foldlM (interpret env run fuel) s = some s' → ChangesOnly x s.nanoapps s'.nanoapps := by
    intro run fuel rs
    induction rs with
    | nil => intro s _ _ h; cases h; exact .refl x _
    | cons r rs ih =>
      intro s hrs hc h
      obtain ⟨s₁, h₁, h₂⟩ := Option.bind_eq_some.1 h
      obtain ⟨hc₁, hs₁⟩ := interpret_changesOnly (hrs r (.head _)) hc h₁
      exact hs₁.trans (ih (fun r hr => hrs r (.tail _ hr)) hc₁ h₂)
  cases fuel <;> exact key hrs hc h

/-- **A failed start leaves `mNanoapps` as it was**, when `start()` starts and unloads nothing:
its requests change only the nanoapp it runs as, whose id no other loaded nanoapp has, and
`pop_back` removes that nanoapp. -/
theorem startNanoapp_failed_nanoapps {fuel : Nat} {appId : UInt64} {isSystemNanoapp : Bool}
    {s s' : EventLoop} (hstart : ∀ s app, ∀ r ∈ (env.nanoappStart s app).2, r.isLifecycle = false)
    (hs : Identified s)
    (h : startNanoapp env (runRequests env fuel) appId isSystemNanoapp s = some (false, s')) :
    s'.nanoapps = s.nanoapps := by
  unfold startNanoapp at h
  split_ifs at h
  · cases h; rfl
  · cases h; rfl
  obtain ⟨x, hx, h⟩ := Option.bind_eq_some.1 h
  obtain ⟨s₁, h₁, h⟩ := Option.bind_eq_some.1 h
  have hxs : x = s.lastInstanceId + 1 := by
    unfold getNextInstanceId at hx
    split_ifs at hx
    exact (Option.some.inj hx).symm
  obtain ⟨f, hf⟩ := runRequests_changesOnly (hstart _ _) rfl h₁
  split at h <;> cases h
  simp only [hf, List.map_append, List.map_singleton, List.dropLast_concat]
  refine (List.map_congr_left fun app happ => ?_).trans (List.map_id _)
  rw [if_neg (hxs ▸ hs.instanceId_ne_next happ), id]

/-- **No two loaded nanoapps share an app id.** Over every run, with any code on the loop, the
loaded nanoapps' app ids are distinct, also once the end of `run()` has unloaded them. A start
whose app id is loaded returns false with nothing changed. A start whose `start()` fails, where
`start()` starts and unloads nothing, leaves `mNanoapps` as before. So `lookupAppByAppId` finds
the loaded nanoapp with an app id, the only one, and `findNanoappInstanceIdByAppId` its instance
id. -/
theorem startNanoapp_appId_unique :
    (∀ (env : Env) (fuel : Nat) (s : EventLoop), RunReachable env fuel s →
      (s.nanoapps.map (·.appId)).Nodup ∧ ∀ s', finishRun env (runRequests env fuel) fuel s = some s' →
        (s'.nanoapps.map (·.appId)).Nodup) ∧
    (∀ (env : Env) (run : Runner) (appId : UInt64) (isSystemNanoapp : Bool) (s : EventLoop),
      (s.findNanoappInstanceIdByAppId appId).isSome →
        startNanoapp env run appId isSystemNanoapp s = some (false, s)) ∧
    (∀ env : Env, (∀ s app, ∀ r ∈ (env.nanoappStart s app).2, r.isLifecycle = false) →
      ∀ (fuel : Nat) (s : EventLoop), RunReachable env fuel s →
      ∀ appId isSystemNanoapp s', startNanoapp env (runRequests env fuel) appId isSystemNanoapp s =
        some (false, s') → s'.nanoapps = s.nanoapps) ∧
    (∀ (env : Env) (fuel : Nat) (s : EventLoop), RunReachable env fuel s →
      ∀ (appId : UInt64) (app : Nanoapp),
        (s.lookupAppByAppId appId = some app ↔ app ∈ s.nanoapps ∧ app.appId = appId) ∧
        s.findNanoappInstanceIdByAppId appId = (s.lookupAppByAppId appId).map (·.instanceId)) := by
  refine ⟨fun env fuel s hs => ⟨hs.identified.appIds_nodup, fun s' h =>
      (finishRun_identified hs.identified h).appIds_nodup⟩,
    fun env run appId isSystemNanoapp s hdup => by simp [startNanoapp, hdup],
    fun env hstart fuel s hs appId isSystemNanoapp s' h =>
      startNanoapp_failed_nanoapps hstart hs.identified h,
    fun env fuel s hs appId app => ⟨lookupAppByAppId_eq_some hs.identified, rfl⟩⟩

end EventLoop

end Chre

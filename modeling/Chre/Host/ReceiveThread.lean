import Chre.Host.SocketClient

/-!
# The receive thread against `disconnect()`

Three invariants of `SocketClient` hold over every interleaving of the receive thread with a call
of `disconnect()` (`Reachable.inv`). Each is proved once per step of either thread:
* `Sockets`: the sockets opened so far are `0, …, socketsOpened - 1`. Where the receive thread
  is fixes `mSockFd` and how many sockets it has closed (`ReceivePc.socketUse`). Each successful
  reconnect is followed by one `onSocketReconnected()`.
* `Shutdown`: the flag is set once, by `disconnect()`. A `recv()` pending once it is set is on
  the socket `disconnect()` shuts down. After it, the receive thread calls `recv()` and
  `tryConnect()` at most once each.
* `Aborts`: `onReconnectAborted()` is called at most once, and only after `reconnect()` ran out
  of retries with the flag unset.

Once the flag is set, every move of the receive thread lowers `ReceivePc.rank`, which is at most
`8`. So the thread returns within eight of its own moves, whatever `recv` and `tryConnect` do
(`receiveMoves_done`), and `join()` in `disconnect()` returns. The main results are
`disconnect_join_returns` and `receiveThread_closes_sockets`.
-/

namespace Chre

namespace SocketClient

variable {t t' : Client} {result : RecvResult} {connects : Bool}

@[simp] theorem opened_append (l l' : List Effect) :
    opened (l ++ l') = opened l ++ l'.filterMap Effect.openedSocket := by
  simp [opened]

@[simp] theorem closed_append (l l' : List Effect) :
    closed (l ++ l') = closed l ++ l'.filterMap Effect.closedSocket := by
  simp [closed]

/-- An entry `x` of `l ++ es` that is not in `es` is an entry of `l`. -/
theorem append_eq_append_cons_of_not_mem {α : Type} {x : α} {l es pre post : List α}
    (hx : x ∉ es) (h : l ++ es = pre ++ x :: post) :
    ∃ post', l = pre ++ x :: post' ∧ post = post' ++ es := by
  rcases List.append_eq_append_iff.1 h with ⟨a', rfl, hes⟩ | ⟨_ | ⟨y, c⟩, rfl, hc⟩
  · exact absurd (hes ▸ List.mem_append_right a' (List.mem_cons_self x post)) hx
  · rw [List.nil_append] at hc
    exact absurd (hc ▸ List.mem_cons_self x post) hx
  · obtain ⟨rfl, rfl⟩ := List.cons.inj hc
    exact ⟨c, rfl, rfl⟩

/-- Appending `x` to a log without `x` gives the log's only `x`. -/
theorem append_singleton_eq_append_cons {α : Type} {x : α} {l pre post : List α} (hx : x ∉ l)
    (h : l ++ [x] = pre ++ x :: post) : pre = l ∧ post = [] := by
  rcases List.append_eq_append_iff.1 h with
    ⟨_ | ⟨y, a⟩, rfl, hes⟩ | ⟨_ | ⟨y, c⟩, rfl, hc⟩
  · exact ⟨by simp, (List.cons.inj hes).2.symm⟩
  · simp at hes
  · exact ⟨by simp, by simpa using hc⟩
  · obtain ⟨rfl, -⟩ := List.cons.inj hc
    exact absurd (List.mem_append_right _ (List.mem_cons_self _ _)) hx

/-- What the receive thread has done with the last socket opened: it holds it in `mSockFd`, it
has closed it and not yet cleared `mSockFd`, or it has cleared `mSockFd`. -/
inductive SocketUse
  | held
  | closed
  | cleared
  deriving DecidableEq

/-- `mSockFd` once `n` sockets have been opened. -/
def SocketUse.sockFd : SocketUse → Nat → Option Nat
  | .cleared, _ => none
  | _, n => some (n - 1)

/-- How many sockets the receive thread has closed once `n` have been opened. -/
def SocketUse.closedCount : SocketUse → Nat → Nat
  | .held, n => n - 1
  | _, n => n

/-- What the receive thread has done with the last socket opened, at each point of its code. -/
def ReceivePc.socketUse : ReceivePc → SocketUse
  | .loop | .recv | .recvOn _ | .remote | .close | .reconnected => .held
  | .invalidate => .closed
  | _ => .cleared

/-- The receive thread's sockets. Socket `0` was opened by `connect()` and each later one by a
successful `tryConnect()`, which `onSocketReconnected()` follows; the thread closes them in
order, and `mSockFd` is the last one until the thread clears it. -/
structure Sockets (t : Client) : Prop where
  opened_log : opened t.log = List.range t.socketsOpened
  reconnected_count : t.log.count .onSocketReconnected +
    (if t.receivePc = .reconnected then 1 else 0) + 1 = t.socketsOpened
  sockFd_eq : t.sockFd = t.receivePc.socketUse.sockFd t.socketsOpened
  closed_log :
    closed t.log = (List.range (t.receivePc.socketUse.closedCount t.socketsOpened)).map some
  recvOn_sockFd : ∀ sock, t.receivePc = .recvOn sock → sock = t.sockFd

theorem Sockets.init (reconnectAutomatically : Bool) : Sockets { reconnectAutomatically } :=
  ⟨rfl, rfl, rfl, rfl, fun _ h => by cases h⟩

/-- A step that leaves the socket alone keeps `Sockets`: it logs nothing about sockets, and it
moves the receive thread between points where the thread has done the same with the socket. -/
theorem Sockets.quiet (hi : Sockets t) (huse : t'.receivePc.socketUse = t.receivePc.socketUse)
    (hrec : t'.receivePc = .reconnected ↔ t.receivePc = .reconnected)
    (hsock : t'.sockFd = t.sockFd) (hn : t'.socketsOpened = t.socketsOpened)
    (hrecv : ∀ sock, t'.receivePc = .recvOn sock → sock = t'.sockFd)
    (ho : opened t'.log = opened t.log) (hc : closed t'.log = closed t.log)
    (hr : t'.log.count .onSocketReconnected = t.log.count .onSocketReconnected) : Sockets t' where
  opened_log := by rw [ho, hn, hi.opened_log]
  reconnected_count := by
    simp only [hr, hrec, hn]
    exact hi.reconnected_count
  sockFd_eq := by rw [hsock, huse, hn, hi.sockFd_eq]
  closed_log := by rw [hc, huse, hn, hi.closed_log]
  recvOn_sockFd := hrecv

theorem Sockets.receiveThreadStep (hi : Sockets t)
    (h : receiveThreadStep t result connects = some t') : Sockets t' := by
  have hs := hi.sockFd_eq
  cases hpc : t.receivePc <;> simp only [SocketClient.receiveThreadStep, hpc] at h
  all_goals repeat' split at h
  all_goals cases h
  -- the moves that close, clear or open a socket
  case close =>
    obtain ⟨n, hn⟩ : ∃ n, t.socketsOpened = n + 1 :=
      ⟨t.socketsOpened - 1, by have := hi.reconnected_count; omega⟩
    refine ⟨by simpa [Effect.openedSocket] using hi.opened_log,
      by simpa [hpc] using hi.reconnected_count, by simpa [hpc] using hs, ?_,
      fun _ h => by cases h⟩
    simp [hi.closed_log, hpc, hs, hn, ReceivePc.socketUse, SocketUse.closedCount, SocketUse.sockFd,
      Effect.closedSocket, List.range_succ]
  case invalidate =>
    exact ⟨hi.opened_log, by simpa [hpc] using hi.reconnected_count, rfl,
      by simpa [hpc, ReceivePc.socketUse, SocketUse.closedCount] using hi.closed_log,
      fun _ h => by cases h⟩
  case tryConnect.isTrue =>
    exact ⟨by simp [hi.opened_log, Effect.openedSocket, List.range_succ],
      by simpa [hpc] using hi.reconnected_count, rfl,
      by simpa [hpc, ReceivePc.socketUse, SocketUse.closedCount, Effect.closedSocket] using
        hi.closed_log, fun _ h => by cases h⟩
  case tryConnect.isFalse =>
    exact hi.quiet (by simp [hpc, ReceivePc.socketUse]) (by simp [hpc])
      (by simpa [hpc, ReceivePc.socketUse, SocketUse.sockFd] using hs.symm) rfl
      (fun _ h => by cases h) (by simp [Effect.openedSocket]) (by simp [Effect.closedSocket])
      (by simp)
  case reconnected =>
    exact ⟨by simpa [Effect.openedSocket] using hi.opened_log,
      by simpa [hpc, Nat.add_right_comm] using hi.reconnected_count,
      by simpa [hpc, ReceivePc.socketUse] using hs,
      by simpa [hpc, Effect.closedSocket, ReceivePc.socketUse] using hi.closed_log,
      fun _ h => by cases h⟩
  -- the moves that leave the socket alone
  case recv =>
    exact hi.quiet (by rw [hpc]; rfl) (by simp [hpc]) rfl rfl (fun _ h => by cases h; rfl)
      (by simp [Effect.openedSocket]) (by simp [Effect.closedSocket]) (by simp)
  all_goals
    exact hi.quiet (by simp [hpc, ReceivePc.socketUse]) (by simp [hpc]) rfl rfl
      (fun _ h => by cases h) (by simp [Effect.openedSocket]) (by simp [Effect.closedSocket])
      (by simp)

/-- What a step of `disconnect()` leaves alone: the receive thread and the socket. It logs at most
one effect of its own. -/
theorem disconnectStep_frame (h : disconnectStep t = some t') :
    t'.receivePc = t.receivePc ∧ t'.delay = t.delay ∧ t'.sockFd = t.sockFd ∧
      t'.socketsOpened = t.socketsOpened ∧ t'.reconnectAutomatically = t.reconnectAutomatically ∧
      (t.gracefulShutdown = true → t'.gracefulShutdown = true) ∧
      (t'.log = t.log ∨ t'.log = t.log ++ [.setGracefulShutdown] ∨
        t'.log = t.log ++ [.shutdown t.sockFd]) := by
  cases hpc : t.disconnectPc <;> simp only [SocketClient.disconnectStep, hpc] at h
  all_goals repeat' split at h
  all_goals cases h
  all_goals simp

theorem Sockets.disconnectStep (hi : Sockets t) (h : disconnectStep t = some t') : Sockets t' := by
  obtain ⟨hpc, -, hsock, hn, -, -, hlog⟩ := disconnectStep_frame h
  refine hi.quiet (by rw [hpc]) (by rw [hpc]) hsock hn (by rw [hpc, hsock]; exact hi.recvOn_sockFd)
    ?_ ?_ ?_ <;> rcases hlog with h | h | h <;> simp [h, Effect.openedSocket, Effect.closedSocket]

/-! ### Shutting down -/

/-- In `recv()`, or about to call it on `mSockFd`. -/
def ReceivePc.inRecv : ReceivePc → Bool
  | .recv | .recvOn _ => true
  | _ => false

/-- A `recv()` the receive thread is about to make. -/
def ReceivePc.pendingRecv : ReceivePc → Nat
  | .recv => 1
  | _ => 0

/-- A `tryConnect()` the receive thread is about to make. -/
def ReceivePc.pendingTryConnect : ReceivePc → Nat
  | .tryConnect _ => 1
  | _ => 0

/-- With `post` logged since `disconnect()` set the flag: the receive thread calls `recv()` and
`tryConnect()` at most once each, counting the calls it is about to make. -/
def AfterFlag (pc : ReceivePc) (post : List Effect) : Prop :=
  post.countP Effect.isRecv + pc.pendingRecv ≤ 1 ∧
    post.countP Effect.isTryConnect + pc.pendingTryConnect ≤ 1

theorem AfterFlag.nil (pc : ReceivePc) : AfterFlag pc [] := by
  cases pc <;> simp [AfterFlag, ReceivePc.pendingRecv, ReceivePc.pendingTryConnect]

theorem AfterFlag.append_shutdown {pc : ReceivePc} {post : List Effect} (h : AfterFlag pc post)
    (sock : Option Nat) : AfterFlag pc (post ++ [.shutdown sock]) := by
  simpa [AfterFlag, Effect.isRecv, Effect.isTryConnect] using h

/-- `disconnect()` against the receive thread. The flag is set once, by `disconnect()`; a `recv()`
pending once it is set is on the socket `disconnect()` shuts down or is about to; and after it
the receive thread calls `recv()` and `tryConnect()` at most once each. -/
structure Shutdown (t : Client) : Prop where
  flag_iff : t.gracefulShutdown = true ↔ t.disconnectPc ≠ .idle
  setGracefulShutdown_count : t.log.count .setGracefulShutdown = t.gracefulShutdown.toNat
  returned_done : t.disconnectPc = .returned → t.receivePc = .done
  pending_recv : t.gracefulShutdown = true → t.receivePc.inRecv = true →
    .shutdown t.sockFd ∈ t.log ∨ t.disconnectPc ∈ [.notify, .test, .shutdown]
  after_flag : ∀ pre post, t.log = pre ++ .setGracefulShutdown :: post →
    AfterFlag t.receivePc post

theorem Sockets.sockFd_of_inRecv (hs : Sockets t) (h : t.receivePc.inRecv = true) :
    t.sockFd = some (t.socketsOpened - 1) := by
  rw [hs.sockFd_eq]
  cases hpc : t.receivePc <;> simp_all [ReceivePc.inRecv, ReceivePc.socketUse, SocketUse.sockFd]

theorem Shutdown.init (reconnectAutomatically : Bool) : Shutdown { reconnectAutomatically } where
  flag_iff := by simp
  setGracefulShutdown_count := rfl
  returned_done h := by cases h
  pending_recv h := by cases h
  after_flag _ _ h := by simp at h

theorem Shutdown.flag_of_mem (hi : Shutdown t) (h : .setGracefulShutdown ∈ t.log) :
    t.gracefulShutdown = true := by
  have := hi.setGracefulShutdown_count ▸ List.count_pos_iff.2 h
  cases hf : t.gracefulShutdown <;> simp_all

theorem Shutdown.not_mem_of_flag (hi : Shutdown t) (h : t.gracefulShutdown = false) :
    .setGracefulShutdown ∉ t.log :=
  List.count_eq_zero.1 (by rw [hi.setGracefulShutdown_count, h]; rfl)

/-- A step of the receive thread keeps `Shutdown` when, once the flag is set, it moves into
`recv()` only from `recv()` and keeps the count of calls after the flag. -/
theorem Shutdown.receive (hi : Shutdown t) (es : List Effect) (hlog : t'.log = t.log ++ es)
    (hflag : t'.gracefulShutdown = t.gracefulShutdown) (hdc : t'.disconnectPc = t.disconnectPc)
    (hnd : t.receivePc ≠ .done) (hes : .setGracefulShutdown ∉ es)
    (hrecv : t.gracefulShutdown = true → t'.receivePc.inRecv = true →
      t.receivePc.inRecv = true ∧ t'.sockFd = t.sockFd)
    (hafter : t.gracefulShutdown = true → ∀ post, AfterFlag t.receivePc post →
      AfterFlag t'.receivePc (post ++ es)) : Shutdown t' where
  flag_iff := by rw [hflag, hdc]; exact hi.flag_iff
  setGracefulShutdown_count := by
    rw [hlog, List.count_append, List.count_eq_zero.2 hes, hflag]
    exact hi.setGracefulShutdown_count
  returned_done h := absurd (hi.returned_done (hdc ▸ h)) hnd
  pending_recv hf hin := by
    rw [hflag] at hf
    obtain ⟨hin, hsock⟩ := hrecv hf hin
    rw [hlog, hsock, hdc, List.mem_append]
    exact (hi.pending_recv hf hin).imp_left Or.inl
  after_flag pre post h := by
    rw [hlog] at h
    obtain ⟨post, hl, rfl⟩ := append_eq_append_cons_of_not_mem hes h
    exact hafter (hi.flag_of_mem (by simp [hl])) _ (hi.after_flag pre post hl)

/-- A move that neither makes nor is about to make a `recv()` or `tryConnect()` keeps the
count after the flag. -/
theorem AfterFlag.quiet {pc pc' : ReceivePc} {post es : List Effect} (h : AfterFlag pc post)
    (hr : es.countP Effect.isRecv = 0) (ht : es.countP Effect.isTryConnect = 0)
    (hpr : pc'.pendingRecv = 0) (hpt : pc'.pendingTryConnect = 0) :
    AfterFlag pc' (post ++ es) := by
  simp only [AfterFlag, List.countP_append, hr, ht, hpr, hpt] at h ⊢
  omega

theorem Shutdown.receiveThreadStep (hi : Shutdown t)
    (h : receiveThreadStep t result connects = some t') : Shutdown t' := by
  cases hpc : t.receivePc <;> simp only [SocketClient.receiveThreadStep, hpc] at h
  all_goals repeat' split at h
  all_goals cases h
  -- the moves towards `recv()` and `tryConnect()`, made only while the flag is not set
  case loop.isFalse hf | waiting.isFalse hf =>
    exact hi.receive [] (List.append_nil _).symm rfl rfl (by simp [hpc]) (by simp)
      (fun h => absurd h hf) (fun h => absurd h hf)
  -- the calls themselves
  case recv =>
    refine hi.receive _ rfl rfl rfl (by simp [hpc]) (by simp)
      (fun _ _ => ⟨by simp [hpc, ReceivePc.inRecv], rfl⟩) fun _ post h => ?_
    simp only [AfterFlag, hpc, ReceivePc.pendingRecv, List.countP_append] at h ⊢
    exact ⟨by simpa [Effect.isRecv] using h.1, by simpa [Effect.isTryConnect] using h.2⟩
  case tryConnect.isTrue | tryConnect.isFalse =>
    refine hi.receive _ rfl rfl rfl (by simp [hpc]) (by simp) (fun _ h => by cases h)
      fun _ post h => ?_
    simp only [AfterFlag, hpc, ReceivePc.pendingTryConnect, List.countP_append] at h ⊢
    exact ⟨by simpa [Effect.isRecv] using h.1, by simpa [Effect.isTryConnect] using h.2⟩
  all_goals
    first
    | exact hi.receive [] (List.append_nil _).symm rfl rfl (by simp [hpc]) (by simp)
        (fun _ h => by cases h) (fun _ _ h => h.quiet rfl rfl rfl rfl)
    | exact hi.receive _ rfl rfl rfl (by simp [hpc]) (by simp)
        (fun _ h => by cases h) (fun _ _ h => h.quiet rfl rfl rfl rfl)

theorem Shutdown.disconnectStep (hs : Sockets t) (hi : Shutdown t)
    (h : disconnectStep t = some t') : Shutdown t' := by
  cases hpc : t.disconnectPc <;> simp only [SocketClient.disconnectStep, hpc] at h
  all_goals repeat' split at h
  all_goals cases h
  case idle =>
    have hnm : .setGracefulShutdown ∉ t.log := fun hm => by
      simpa [hpc] using hi.flag_iff.1 (hi.flag_of_mem hm)
    refine ⟨by simp, by simp [List.count_eq_zero.2 hnm], (fun h => by cases h),
      fun _ _ => .inr (by simp), fun pre post h => ?_⟩
    obtain ⟨-, rfl⟩ := append_singleton_eq_append_cons hnm h
    exact AfterFlag.nil _
  case notify | test.isTrue =>
    exact ⟨by simpa [hpc] using hi.flag_iff, hi.setGracefulShutdown_count, (fun h => by cases h),
      fun _ _ => .inr (by simp), hi.after_flag⟩
  case test.isFalse hsock =>
    exact ⟨by simpa [hpc] using hi.flag_iff, hi.setGracefulShutdown_count, (fun h => by cases h),
      fun _ hin => by simp [hs.sockFd_of_inRecv hin] at hsock, hi.after_flag⟩
  case shutdown =>
    refine ⟨by simpa [hpc] using hi.flag_iff, by simpa using hi.setGracefulShutdown_count,
      (fun h => by cases h), fun _ _ => .inl (by simp), fun pre post h => ?_⟩
    obtain ⟨post, hl, rfl⟩ := append_eq_append_cons_of_not_mem (by simp) h
    exact (hi.after_flag pre post hl).append_shutdown _
  case join hdone =>
    exact ⟨by simpa [hpc] using hi.flag_iff, hi.setGracefulShutdown_count, fun _ => hdone,
      fun _ hin => by simp [hdone, ReceivePc.inRecv] at hin, hi.after_flag⟩

/-! ### Aborting -/

/-- `reconnect()` ran out of retries before the flag was set, and only `disconnect()` has logged
anything since. -/
def GaveUp (l : List Effect) : Prop :=
  ∃ pre post, l = pre ++ .reconnectGaveUp :: post ∧ .setGracefulShutdown ∉ pre ∧
    ∀ e ∈ post, e.isDisconnect = true

theorem GaveUp.append {l es : List Effect} (h : GaveUp l)
    (hes : ∀ e ∈ es, e.isDisconnect = true) : GaveUp (l ++ es) := by
  obtain ⟨pre, post, rfl, hpre, hpost⟩ := h
  exact ⟨pre, post ++ es, by simp, hpre, by simpa using fun e he => (he.elim (hpost e) (hes e))⟩

/-- `onReconnectAborted()` is called at most once, as the receive thread's last act, and only
after `reconnect()` ran out of retries before the flag was set. -/
structure Aborts (t : Client) : Prop where
  pending : (t.receivePc = .returnFalse ∨ t.receivePc = .abortCheck) →
    t.gracefulShutdown = false → t.reconnectAutomatically = true → GaveUp t.log
  aborted : t.receivePc = .aborted → GaveUp t.log
  aborted_count : t.log.count .onReconnectAborted + (if t.receivePc = .done then 0 else 1) ≤ 1
  aborted_gaveUp : ∀ pre post, t.log = pre ++ .onReconnectAborted :: post → GaveUp pre

theorem Aborts.init (reconnectAutomatically : Bool) : Aborts { reconnectAutomatically } where
  pending h := by simp at h
  aborted h := by cases h
  aborted_count := by simp
  aborted_gaveUp _ _ h := by simp at h

/-- A step of the receive thread other than `onReconnectAborted()` keeps `Aborts` when it moves
to the abort check only as the code does. -/
theorem Aborts.receive (hi : Aborts t) (es : List Effect) (hlog : t'.log = t.log ++ es)
    (hnd : t.receivePc ≠ .done) (hes : .onReconnectAborted ∉ es)
    (hpending : (t'.receivePc = .returnFalse ∨ t'.receivePc = .abortCheck) →
      t'.gracefulShutdown = false → t'.reconnectAutomatically = true → GaveUp t'.log)
    (haborted : t'.receivePc = .aborted → GaveUp t'.log) : Aborts t' := by
  have hnm : .onReconnectAborted ∉ t'.log := by
    have := hi.aborted_count
    rw [hlog, List.mem_append, not_or]
    exact ⟨List.count_eq_zero.1 (by simp only [hnd, if_false] at this; omega), hes⟩
  refine ⟨hpending, haborted, ?_, fun pre post h => absurd (h ▸ by simp) hnm⟩
  rw [List.count_eq_zero.2 hnm]
  split <;> simp

theorem Aborts.receiveThreadStep (hsd : Shutdown t) (hi : Aborts t)
    (h : receiveThreadStep t result connects = some t') : Aborts t' := by
  cases hpc : t.receivePc <;> simp only [SocketClient.receiveThreadStep, hpc] at h
  all_goals repeat' split at h
  all_goals cases h
  case aborted =>
    have hnm : .onReconnectAborted ∉ t.log := fun hm => by
      have := hi.aborted_count
      simp only [hpc, reduceCtorEq, if_false] at this
      exact absurd (List.count_pos_iff.2 hm) (by omega)
    refine ⟨by simp, by simp, by simp [List.count_eq_zero.2 hnm], fun pre post h => ?_⟩
    obtain ⟨rfl, -⟩ := append_singleton_eq_append_cons hnm h
    exact hi.aborted hpc
  -- the moves to the abort check
  case again.isFalse hc =>
    exact hi.receive [] (List.append_nil _).symm (by simp [hpc]) (by simp)
      (fun _ hf ha => absurd (by simp only at hf ha; simp [hf, ha]) hc) (fun h => by cases h)
  case retry.isFalse =>
    exact hi.receive _ rfl (by simp [hpc]) (by simp)
      (fun _ hf _ => ⟨t.log, [], rfl, hsd.not_mem_of_flag hf, by simp⟩) (fun h => by cases h)
  case wait.isTrue hf | waiting.isTrue hf =>
    exact hi.receive [] (List.append_nil _).symm (by simp [hpc]) (by simp)
      (fun _ h => nomatch hf.symm.trans h) (fun h => by cases h)
  case returnFalse =>
    exact hi.receive [] (List.append_nil _).symm (by simp [hpc]) (by simp)
      (fun _ => hi.pending (.inl hpc)) (fun h => by cases h)
  case abortCheck.isTrue hc =>
    exact hi.receive [] (List.append_nil _).symm (by simp [hpc]) (by simp)
      (fun h => by rcases h with h | h <;> cases h)
      (fun _ => hi.pending (.inr hpc) (by simp_all) (by simp_all))
  -- the other moves
  all_goals
    first
    | refine hi.receive [] (List.append_nil _).symm (by simp [hpc]) (by simp) ?_ ?_
    | refine hi.receive _ rfl (by simp [hpc]) (by simp) ?_ ?_
  all_goals exact fun h => by rcases h with h | h <;> cases h

theorem Aborts.disconnectStep (hi : Aborts t) (h : disconnectStep t = some t') : Aborts t' := by
  obtain ⟨hpc, -, -, -, hauto, hflag, hlog⟩ := disconnectStep_frame h
  obtain ⟨es, hlog, hes⟩ :
      ∃ es, t'.log = t.log ++ es ∧ ∀ e ∈ es, e.isDisconnect = true := by
    rcases hlog with h | h | h
    exacts [⟨[], by simp [h], by simp⟩, ⟨_, h, by simp [Effect.isDisconnect]⟩,
      ⟨_, h, by simp [Effect.isDisconnect]⟩]
  have hnm : .onReconnectAborted ∉ es := fun h => by simpa [Effect.isDisconnect] using hes _ h
  refine ⟨fun h hf ha => ?_, fun h => hlog ▸ (hi.aborted (hpc ▸ h)).append hes, ?_,
    fun pre post h => ?_⟩
  · have hf : t.gracefulShutdown = false := Bool.eq_false_iff.2 fun h => by simp [hflag h] at hf
    exact hlog ▸ (hi.pending (hpc ▸ h) hf (hauto ▸ ha)).append hes
  · simpa [hlog, hpc, List.count_eq_zero.2 hnm] using hi.aborted_count
  · obtain ⟨post, hl, -⟩ := append_eq_append_cons_of_not_mem hnm (hlog ▸ h)
    exact hi.aborted_gaveUp pre post hl

/-! ### Every interleaving -/

structure Inv (t : Client) : Prop where
  sockets : Sockets t
  shutdown : Shutdown t
  aborts : Aborts t

theorem Inv.step (hi : Inv t) {m : Move} (h : step t m = some t') : Inv t' := by
  cases m with
  | receive result connects =>
    exact ⟨hi.sockets.receiveThreadStep h, hi.shutdown.receiveThreadStep h,
      hi.aborts.receiveThreadStep hi.shutdown h⟩
  | disconnect =>
    exact ⟨hi.sockets.disconnectStep h, hi.shutdown.disconnectStep hi.sockets h,
      hi.aborts.disconnectStep h⟩

theorem Reachable.inv (h : Reachable t) : Inv t := by
  induction h with
  | init a => exact ⟨.init a, .init a, .init a⟩
  | step _ _ h ih => exact ih.step h

/-! ### Progress once the flag is set -/

/-- How far the receive thread is from returning once the flag is set. -/
def ReceivePc.rank : ReceivePc → Nat
  | .done => 0
  | .aborted => 1
  | .abortCheck => 2
  | .again | .returnFalse => 3
  | .invalidate | .wait _ | .waiting _ => 4
  | .close | .retry _ => 5
  | .loop | .remote => 6
  | .recvOn _ | .reconnected => 7
  | .recv | .tryConnect _ => 8

theorem ReceivePc.rank_le (pc : ReceivePc) : pc.rank ≤ 8 := by
  cases pc <;> simp [rank]

/-- Once the flag is set, the receive thread can move until it has returned, whatever `recv` and
`tryConnect` do, and each of its moves lowers its rank. -/
theorem receiveThreadStep_rank (hf : t.gracefulShutdown = true) (hnd : t.receivePc ≠ .done)
    (result : RecvResult) (connects : Bool) :
    ∃ t', receiveThreadStep t result connects = some t' ∧
      t'.receivePc.rank < t.receivePc.rank ∧ t'.gracefulShutdown = true ∧
      t'.disconnectPc = t.disconnectPc := by
  cases hpc : t.receivePc <;>
    simp only [SocketClient.receiveThreadStep, hpc, hf, if_true, Bool.not_true, Bool.false_and,
      Bool.false_eq_true, if_false] at hnd ⊢
  case done => exact absurd rfl hnd
  all_goals repeat' split
  all_goals exact ⟨_, rfl, by simp [ReceivePc.rank], rfl, rfl⟩

/-- `n` moves of the receive thread, answered by `answers`. -/
def receiveMoves (answers : Nat → RecvResult × Bool) (n : Nat) : List Move :=
  (List.range n).map fun i => .receive (answers i).1 (answers i).2

theorem receiveMoves_succ (answers : Nat → RecvResult × Bool) (n : Nat) :
    receiveMoves answers (n + 1) =
      .receive (answers 0).1 (answers 0).2 :: receiveMoves (fun i => answers (i + 1)) n := by
  simp [receiveMoves, List.range_succ_eq_map]

/-- Once the flag is set, the receive thread returns within `rank` of its own moves. -/
theorem receiveMoves_done (hf : t.gracefulShutdown = true) (answers : Nat → RecvResult × Bool) :
    ∃ n ≤ t.receivePc.rank, ∃ t', interleave t (receiveMoves answers n) = some t' ∧
      t'.receivePc = .done ∧ t'.disconnectPc = t.disconnectPc := by
  generalize hr : t.receivePc.rank = r
  induction r using Nat.strong_induction_on generalizing t answers with
  | _ r ih =>
    subst hr
    by_cases hnd : t.receivePc = .done
    · exact ⟨0, Nat.zero_le _, t, rfl, hnd, rfl⟩
    obtain ⟨t₁, h₁, hlt, hf₁, hdc⟩ :=
      receiveThreadStep_rank hf hnd (answers 0).1 (answers 0).2
    obtain ⟨n, hn, t', h', hdone, hdc'⟩ := ih _ hlt hf₁ (fun i => answers (i + 1)) rfl
    refine ⟨n + 1, by omega, t', ?_, hdone, hdc'.trans hdc⟩
    rw [receiveMoves_succ, interleave_cons]
    exact (congrArg (Option.bind · _) h₁).trans h'

/-- Before its `shutdown`, `disconnect()` reaches it within three of its own moves, and shuts down
the socket in `mSockFd` when the receive thread has not moved. -/
theorem disconnect_shuts_down {s : Nat} (hs : t.sockFd = some s)
    (hdc : t.disconnectPc ∈ [.notify, .test, .shutdown]) :
    ∃ k ≤ 3, ∃ t', interleave t (List.replicate k .disconnect) = some t' ∧
      t'.receivePc = t.receivePc ∧ .shutdown (some s) ∈ t'.log := by
  simp only [List.mem_cons, List.mem_singleton, List.not_mem_nil, or_false] at hdc
  rcases hdc with hdc | hdc | hdc
  · exact ⟨3, le_rfl, by simp [List.replicate, step, SocketClient.disconnectStep, hdc, hs]⟩
  · exact ⟨2, by omega, by simp [List.replicate, step, SocketClient.disconnectStep, hdc, hs]⟩
  · exact ⟨1, by omega, by simp [List.replicate, step, SocketClient.disconnectStep, hdc, hs]⟩

/-- Once the flag is set, no move of either thread puts the receive thread into a new wait on
`mShutdownCond`. -/
theorem step_waiting (hf : t.gracefulShutdown = true) {m : Move} (h : step t m = some t')
    {n : Nat} (hw : t'.receivePc = .waiting n) : t.receivePc = .waiting n := by
  cases m with
  | disconnect => exact (disconnectStep_frame h).1 ▸ hw
  | receive result connects =>
    cases hpc : t.receivePc <;> simp only [step, SocketClient.receiveThreadStep, hpc] at h
    all_goals repeat' split at h
    all_goals cases h
    all_goals simp_all

/-! ### Results -/

/-- **`disconnect()` returns, and the receive thread stops soon after it starts.** Over every
interleaving of the receive thread with a call of `disconnect()`, whatever `recv` and
`tryConnect` return:
* once `disconnect()` is in `join()`, the receive thread returns within eight of its own moves,
  and `join()` returns;
* once the flag is set, the receive thread returns within eight of its own moves;
* a `recv()` pending once the flag is set is on a socket that `disconnect()` has shut down, or
  shuts down within three of its own moves, the receive thread standing still;
* once the flag is set, no move starts a new wait on `mShutdownCond`;
* after the flag is set, the receive thread calls `recv()` and `tryConnect()` at most once each.
-/
theorem disconnect_join_returns :
    (∀ t : Client, Reachable t → t.disconnectPc = .join →
      ∀ answers : Nat → RecvResult × Bool,
      ∃ n ≤ 8, ∃ t', interleave t (receiveMoves answers n ++ [.disconnect]) = some t' ∧
        t'.disconnectPc = .returned) ∧
    (∀ t : Client, t.gracefulShutdown = true → ∀ answers : Nat → RecvResult × Bool,
      ∃ n ≤ 8, ∃ t', interleave t (receiveMoves answers n) = some t' ∧
        t'.receivePc = .done) ∧
    (∀ t : Client, Reachable t → t.gracefulShutdown = true → ∀ s,
      t.receivePc = .recvOn (some s) →
      .shutdown (some s) ∈ t.log ∨ (t.disconnectPc ∈ [.notify, .test, .shutdown] ∧
        ∃ k ≤ 3, ∃ t', interleave t (List.replicate k .disconnect) = some t' ∧
          t'.receivePc = t.receivePc ∧ .shutdown (some s) ∈ t'.log)) ∧
    (∀ (t t' : Client) (m : Move) (n : Nat), t.gracefulShutdown = true → step t m = some t' →
      t'.receivePc = .waiting n → t.receivePc = .waiting n) ∧
    (∀ t : Client, Reachable t → ∀ pre post, t.log = pre ++ .setGracefulShutdown :: post →
      post.countP Effect.isRecv ≤ 1 ∧ post.countP Effect.isTryConnect ≤ 1) := by
  refine ⟨fun t ht hdc answers => ?_, fun t hf answers => ?_, fun t ht hf s hrecv => ?_,
    fun t t' m n hf h hw => step_waiting hf h hw, fun t ht pre post h => ?_⟩
  · obtain ⟨n, hn, t', h', hdone, hdc'⟩ :=
      receiveMoves_done (ht.inv.shutdown.flag_iff.2 (by simp [hdc])) answers
    refine ⟨n, hn.trans t.receivePc.rank_le, { t' with disconnectPc := .returned }, ?_, rfl⟩
    simp [h', step, SocketClient.disconnectStep, hdc', hdc, hdone]
  · obtain ⟨n, hn, t', h', hdone, -⟩ := receiveMoves_done hf answers
    exact ⟨n, hn.trans t.receivePc.rank_le, t', h', hdone⟩
  · have hi := ht.inv
    have hsock : t.sockFd = some s := (hi.sockets.recvOn_sockFd _ hrecv).symm
    rcases hi.shutdown.pending_recv hf (by simp [hrecv, ReceivePc.inRecv]) with h | h
    · exact .inl (hsock ▸ h)
    · exact .inr ⟨h, disconnect_shuts_down hsock h⟩
  · obtain ⟨h₁, h₂⟩ := ht.inv.shutdown.after_flag pre post h
    exact ⟨by omega, by omega⟩

/-- **Every socket is closed once, each reconnect is reported once, and an abort only follows a
give-up.** Over every interleaving of the receive thread with a call of `disconnect()`:
* the receive thread closes the sockets in the order they were opened, each at most once; once
  it has returned it has closed every one and `mSockFd` is `INVALID_SOCKET`;
* `onSocketReconnected()` has been called once per successful `tryConnect()` in `reconnect()`,
  but for the one the receive thread is about to report;
* `onReconnectAborted()` is called at most once, and only after `reconnect()` ran out of retries
  before the flag was set.
-/
theorem receiveThread_closes_sockets :
    (∀ t : Client, Reachable t →
      closed t.log <+: (opened t.log).map some ∧ (opened t.log).Nodup ∧
      (t.receivePc = .done → t.sockFd = none ∧ closed t.log = (opened t.log).map some)) ∧
    (∀ t : Client, Reachable t → (t.log.filterMap Effect.openedSocket).length =
      t.log.count .onSocketReconnected + (if t.receivePc = .reconnected then 1 else 0)) ∧
    (∀ t : Client, Reachable t → t.log.count .onReconnectAborted ≤ 1 ∧
      ∀ pre post, t.log = pre ++ .onReconnectAborted :: post → GaveUp pre) := by
  refine ⟨fun t ht => ?_, fun t ht => ?_, fun t ht => ?_⟩
  · have hs := ht.inv.sockets
    have hk : t.receivePc.socketUse.closedCount t.socketsOpened ≤ t.socketsOpened := by
      cases t.receivePc.socketUse <;> simp [SocketUse.closedCount]
    rw [hs.opened_log, hs.closed_log]
    refine ⟨?_, List.nodup_range _, fun hd => ?_⟩
    · rw [← Nat.min_eq_left hk, ← List.take_range]
      exact (List.take_prefix _ _).map some
    · simp [hs.sockFd_eq, hd, ReceivePc.socketUse, SocketUse.sockFd, SocketUse.closedCount]
  · have h := congrArg List.length ht.inv.sockets.opened_log
    have := ht.inv.sockets.reconnected_count
    simp only [opened, List.length_cons, List.length_range] at h
    omega
  · have hi := ht.inv.aborts
    exact ⟨by have := hi.aborted_count; omega, hi.aborted_gaveUp⟩

end SocketClient

end Chre

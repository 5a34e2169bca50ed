import Mathlib.Data.List.Basic

/-!
# The host's socket client

A shallow embedding of `SocketClient` (`host/common/socket_client.cc`) once `connect()` has
opened its socket and started the receive thread: the receive thread (`receiveThread`, with
`reconnect` and `tryConnect`) and one call of `disconnect()` on another thread, interleaved.

Each thread moves by one step at each access to the shared state: a read or write of
`mGracefulShutdown` or `mSockFd`, which are sequentially consistent atomics, or a call out of
the client (`recv`, `close`, `shutdown`, `socket_local_client`, a callback). `wait_for` on
`mShutdownCond` and the test after it run under `mShutdownMutex`, which `disconnect()` holds
when it sets the flag, so each is one step. Sockets are named by the order they were opened
in (the model never reuses a descriptor): socket `0` is the one `connect()` opened, and `none`
is `INVALID_SOCKET`. What `recv`
returns and whether `tryConnect` connects are chosen by the environment at each call.

The client logs what it does outside itself (`Effect`), which is what the statements count.
-/

namespace Chre

namespace SocketClient

/-- What `recv()` returns: some bytes, `0` once the remote end has closed, or an error. -/
inductive RecvResult
  | data
  | closed
  | error
  deriving DecidableEq, Repr

/-- What the client does outside itself. Sockets are named by their opening order; `none` is
`INVALID_SOCKET`. -/
inductive Effect
  /-- `recv()` is called on the socket. -/
  | recv (sock : Option Nat)
  | onMessageReceived
  | onSocketDisconnectedByRemote
  | close (sock : Option Nat)
  /-- `tryConnect()` stores what `socket_local_client` returned. -/
  | tryConnect (sock : Option Nat)
  | onSocketReconnected
  /-- `reconnect()` ran out of retries. -/
  | reconnectGaveUp
  | onReconnectAborted
  /-- `disconnect()` sets `mGracefulShutdown`. -/
  | setGracefulShutdown
  /-- `disconnect()` calls `shutdown` on the socket. -/
  | shutdown (sock : Option Nat)
  deriving DecidableEq, Repr

/-- Where the receive thread is. `retryLimit` is `reconnect()`'s counter. -/
inductive ReceivePc
  /-- `while (!mGracefulShutdown)`. -/
  | loop
  /-- `recv(mSockFd, ...)`, about to read `mSockFd`. -/
  | recv
  /-- In `recv()` on the socket, until it returns. -/
  | recvOn (sock : Option Nat)
  /-- `if (!mGracefulShutdown)` after `recv` returned `0`. -/
  | remote
  /-- `close(mSockFd)`. -/
  | close
  /-- `mSockFd = INVALID_SOCKET`. -/
  | invalidate
  /-- `!mGracefulShutdown && mReconnectAutomatically && reconnect()`. -/
  | again
  /-- `while (--retryLimit > 0)`. -/
  | retry (retryLimit : Nat)
  /-- `wait_for`'s first test of `mGracefulShutdown`, under the lock. -/
  | wait (retryLimit : Nat)
  /-- Waiting on `mShutdownCond`, until notified or timed out; then the test of
  `mGracefulShutdown`, under the lock. -/
  | waiting (retryLimit : Nat)
  /-- `tryConnect()`: `mSockFd = socket_local_client(...)`. -/
  | tryConnect (retryLimit : Nat)
  /-- `onSocketReconnected()`, then `return true`. -/
  | reconnected
  /-- `return false` from `reconnect()`. -/
  | returnFalse
  /-- `if (!mGracefulShutdown && mReconnectAutomatically)`. -/
  | abortCheck
  /-- `onReconnectAborted()`. -/
  | aborted
  /-- `receiveThread()` has returned. -/
  | done
  deriving DecidableEq, Repr

/-- Where the thread calling `disconnect()` is. -/
inductive DisconnectPc
  /-- `disconnect()` not yet called, or called and about to set `mGracefulShutdown` under the
  lock. -/
  | idle
  /-- `mShutdownCond.notify_all()`. -/
  | notify
  /-- `mSockFd != INVALID_SOCKET`. -/
  | test
  /-- `shutdown(mSockFd, SHUT_RDWR)`, which reads `mSockFd` again. -/
  | shutdown
  /-- `mRxThread.join()`. -/
  | join
  | returned
  deriving DecidableEq, Repr

/-- The client's shared state, the two threads' positions, and the log. `socketsOpened` counts
the sockets opened so far, so that the next one is named `socketsOpened`; `delay` is the local
of `reconnect()` that its waits on `mShutdownCond` are given, in milliseconds. -/
structure Client where
  gracefulShutdown : Bool := false
  sockFd : Option Nat := some 0
  reconnectAutomatically : Bool
  socketsOpened : Nat := 1
  log : List Effect := []
  receivePc : ReceivePc := .loop
  disconnectPc : DisconnectPc := .idle
  delay : Nat := 500
  deriving DecidableEq, Repr

/-- `int retryLimit = 40` in `reconnect()`. -/
def retryLimit : Nat := 40

/-- `kMaxDelay` in `reconnect()`: five minutes, in milliseconds. -/
def kMaxDelay : Nat := 5 * 60 * 1000

/-- After a failed `tryConnect()`: `delay *= 2; if (delay > kMaxDelay) delay = kMaxDelay;`, on
the `int32_t` count of milliseconds. -/
def nextDelay (delay : Nat) : Nat :=
  if delay * 2 > kMaxDelay then kMaxDelay else delay * 2

/-- One step of the receive thread: `receiveThread`, with the `reconnect` and `tryConnect` it
calls. `result` is what `recv` returns and `connects` whether `socket_local_client` connects,
where the step makes those calls. -/
def receiveThreadStep (t : Client) (result : RecvResult) (connects : Bool) : Option Client :=
  match t.receivePc with
  | .loop => some { t with receivePc := if t.gracefulShutdown then .close else .recv }
  | .recv => some { t with receivePc := .recvOn t.sockFd, log := t.log ++ [.recv t.sockFd] }
  | .recvOn sock =>
    match sock, result with
    | none, _ | some _, .error => some { t with receivePc := .close }
    | some _, .closed => some { t with receivePc := .remote }
    | some _, .data => some { t with receivePc := .loop, log := t.log ++ [.onMessageReceived] }
  | .remote =>
    some { t with
      receivePc := .close
      log := if t.gracefulShutdown then t.log else t.log ++ [.onSocketDisconnectedByRemote] }
  | .close => some { t with receivePc := .invalidate, log := t.log ++ [.close t.sockFd] }
  | .invalidate => some { t with receivePc := .again, sockFd := none }
  | .again =>
    if !t.gracefulShutdown && t.reconnectAutomatically then
      some { t with receivePc := .retry retryLimit, delay := 500 }
    else some { t with receivePc := .abortCheck }
  | .retry n =>
    if n - 1 > 0 then some { t with receivePc := .wait (n - 1) }
    else some { t with receivePc := .returnFalse, log := t.log ++ [.reconnectGaveUp] }
  | .wait n => some { t with receivePc := if t.gracefulShutdown then .returnFalse else .waiting n }
  | .waiting n =>
    some { t with receivePc := if t.gracefulShutdown then .returnFalse else .tryConnect n }
  | .tryConnect n =>
    if connects then
      some { t with
        receivePc := .reconnected
        sockFd := some t.socketsOpened
        socketsOpened := t.socketsOpened + 1
        log := t.log ++ [.tryConnect (some t.socketsOpened)] }
    else
      some { t with
        receivePc := .retry n
        sockFd := none
        delay := nextDelay t.delay
        log := t.log ++ [.tryConnect none] }
  | .reconnected => some { t with receivePc := .loop, log := t.log ++ [.onSocketReconnected] }
  | .returnFalse => some { t with receivePc := .abortCheck }
  | .abortCheck =>
    some { t with
      receivePc := if !t.gracefulShutdown && t.reconnectAutomatically then .aborted else .done }
  | .aborted => some { t with receivePc := .done, log := t.log ++ [.onReconnectAborted] }
  | .done => none

/-- One step of `disconnect()`, called while the receive thread runs and not from it. `join`
returns once the receive thread has. -/
def disconnectStep (t : Client) : Option Client :=
  match t.disconnectPc with
  | .idle =>
    some { t with
      gracefulShutdown := true
      disconnectPc := .notify
      log := t.log ++ [.setGracefulShutdown] }
  | .notify => some { t with disconnectPc := .test }
  | .test => some { t with disconnectPc := if t.sockFd.isSome then .shutdown else .join }
  | .shutdown => some { t with disconnectPc := .join, log := t.log ++ [.shutdown t.sockFd] }
  | .join => if t.receivePc = .done then some { t with disconnectPc := .returned } else none
  | .returned => none

/-- Which thread moves, with the environment's answers for the receive thread. -/
inductive Move
  | receive (result : RecvResult) (connects : Bool)
  | disconnect
  deriving DecidableEq, Repr

def step (t : Client) : Move → Option Client
  | .receive result connects => receiveThreadStep t result connects
  | .disconnect => disconnectStep t

/-- Runs the moves in order; `none` if a thread named cannot move. -/
def interleave (t : Client) (moves : List Move) : Option Client :=
  moves.foldlM step t

/-- The states reached from a connected client, whichever way the threads interleave. -/
inductive Reachable : Client → Prop
  | init (reconnectAutomatically : Bool) : Reachable { reconnectAutomatically }
  | step {t t' : Client} (m : Move) : Reachable t → step t m = some t' → Reachable t'

@[simp] theorem interleave_nil (t : Client) : interleave t [] = some t := rfl

@[simp] theorem interleave_cons (t : Client) (m : Move) (moves : List Move) :
    interleave t (m :: moves) = (step t m).bind (interleave · moves) := rfl

@[simp] theorem interleave_append (t : Client) (moves moves' : List Move) :
    interleave t (moves ++ moves') = (interleave t moves).bind (interleave · moves') := by
  simp [interleave]

theorem Reachable.interleave {t : Client} (ht : Reachable t) :
    ∀ {moves : List Move} {t' : Client}, interleave t moves = some t' → Reachable t' := by
  intro moves
  induction moves generalizing t with
  | nil => intro t' h; cases h; exact ht
  | cons m moves ih =>
    intro t' h
    obtain ⟨t₁, h₁, h₂⟩ := Option.bind_eq_some.1 h
    exact ih (ht.step m h₁) h₂

/-! ### What the log records -/

/-- The socket a successful `tryConnect()` opened. -/
def Effect.openedSocket : Effect → Option Nat
  | .tryConnect sock => sock
  | _ => none

def Effect.closedSocket : Effect → Option (Option Nat)
  | .close sock => some sock
  | _ => none

/-- The sockets the client opened, in order: the one `connect()` opened, then each one
`tryConnect()` opened. -/
def opened (log : List Effect) : List Nat :=
  0 :: log.filterMap Effect.openedSocket

/-- The sockets `close` was called on, in order. -/
def closed (log : List Effect) : List (Option Nat) :=
  log.filterMap Effect.closedSocket

def Effect.isRecv : Effect → Bool
  | .recv _ => true
  | _ => false

def Effect.isTryConnect : Effect → Bool
  | .tryConnect _ => true
  | _ => false

/-- An effect of `disconnect()`. -/
def Effect.isDisconnect : Effect → Bool
  | .setGracefulShutdown | .shutdown _ => true
  | _ => false

end SocketClient

end Chre

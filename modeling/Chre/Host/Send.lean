import Chre.Host.SocketClient

/-!
# `sendMessage()` beside the receive thread

`sendMessage` runs on a thread of the client's own, while the receive thread runs and
`disconnect()` may be under way. It tests `mSockFd` against `INVALID_SOCKET`, then reads it again
for `send()`, and writes nothing the other threads read. So adding it changes nothing of what
the receive thread and `disconnect()` do: every run of the three threads, with the steps of
`sendMessage` left out, is a run of the two (`HostReachable.client`), and what is proved of those
runs holds with a sender beside them.

Between its two reads of `mSockFd`, though, the receive thread may close the socket and clear
`mSockFd`: `send()` is then called on `INVALID_SOCKET`, and `sendMessage` fails although its
test passed (the example after `HostReachable.client`), as `shutdown()` may in `disconnect()`.
-/

namespace Chre

namespace SocketClient

/-- What `send()` returns on a socket: an error, `0` once the remote end has disconnected, fewer
bytes than asked, or all of them. -/
inductive SendResult
  | error
  | disconnected
  | truncated
  | sent
  deriving DecidableEq, Repr

/-- Where a call of `sendMessage` is. -/
inductive SendPc
  /-- `if (mSockFd == INVALID_SOCKET)`. -/
  | test
  /-- `send(mSockFd, data, length, 0)`, about to read `mSockFd` again. -/
  | send
  /-- `return success`. -/
  | returned (success : Bool)
  deriving DecidableEq, Repr

/-- A thread in `sendMessage`, with the sockets its `send()` was called on. -/
structure Sender where
  pc : SendPc := .test
  sends : List (Option Nat) := []
  deriving DecidableEq, Repr

/-- One step of `sendMessage`, reading `mSockFd` of `t`. `result` is what `send()` returns on a
socket; on `INVALID_SOCKET` it fails (`EBADF`). -/
def sendMessageStep (t : Client) (u : Sender) (result : SendResult) : Option Sender :=
  match u.pc with
  | .test => some { u with pc := if t.sockFd.isNone then .returned false else .send }
  | .send =>
    some { pc := .returned (t.sockFd.isSome && result == .sent), sends := u.sends ++ [t.sockFd] }
  | .returned _ => none

/-- The client, with a thread in `sendMessage`. -/
structure Host where
  client : Client
  sender : Sender := {}
  deriving DecidableEq, Repr

/-- Which thread moves: the receive thread or `disconnect()`, or the sender. -/
inductive HostMove
  | client (m : Move)
  | send (result : SendResult)
  deriving DecidableEq, Repr

def hostStep (h : Host) : HostMove → Option Host
  | .client m => (step h.client m).map fun t => { h with client := t }
  | .send result => (sendMessageStep h.client h.sender result).map fun u => { h with sender := u }

/-- Runs the moves in order; `none` if a thread named cannot move. -/
def hostInterleave (h : Host) (moves : List HostMove) : Option Host :=
  moves.foldlM hostStep h

/-- The states reached from a connected client with a call of `sendMessage` under way. -/
inductive HostReachable : Host → Prop
  | init (reconnectAutomatically : Bool) : HostReachable { client := { reconnectAutomatically } }
  | step {h h' : Host} (m : HostMove) : HostReachable h → hostStep h m = some h' →
      HostReachable h'

theorem HostReachable.interleave {h : Host} (hh : HostReachable h) :
    ∀ {moves : List HostMove} {h' : Host}, hostInterleave h moves = some h' → HostReachable h' := by
  intro moves
  induction moves generalizing h with
  | nil => intro h' hm; cases hm; exact hh
  | cons m moves ih =>
    intro h' hm
    obtain ⟨h₁, h₁m, h₂⟩ := Option.bind_eq_some.1 hm
    exact ih (hh.step m h₁m) h₂

/-- `sendMessage` does not disturb the client: leaving out its steps, a run of the three threads
is a run of the receive thread and `disconnect()`. -/
theorem HostReachable.client {h : Host} (hh : HostReachable h) : Reachable h.client := by
  induction hh with
  | init a => exact .init a
  | step m _ hm ih =>
    cases m with
    | client m =>
      obtain ⟨t, ht, rfl⟩ := Option.map_eq_some'.1 hm
      exact ih.step m ht
    | send result =>
      obtain ⟨u, -, rfl⟩ := Option.map_eq_some'.1 hm
      exact ih

/-- `sendMessage` may call `send()` on `INVALID_SOCKET` after its test passed. Its test reads
socket `0`; the receive thread's `recv()` then fails, and the thread closes socket `0` and clears
`mSockFd` before `sendMessage` reads it again: `send()` gets `INVALID_SOCKET`, and `sendMessage`
returns false. -/
example :
    ∃ h, HostReachable h ∧ Effect.close (some 0) ∈ h.client.log ∧
      h.sender.sends = [none] ∧ h.sender.pc = .returned false :=
  ⟨_, @HostReachable.interleave _ (.init true) [.send .sent, .client (.receive .data true),
      .client (.receive .data true), .client (.receive .error true), .client (.receive .data true),
      .client (.receive .data true), .send .sent] _ rfl, by decide, rfl, rfl⟩

end SocketClient

end Chre

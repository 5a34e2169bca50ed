import Mathlib.Data.List.Perm.Basic

/-!
# Merging sensor requests

A shallow embedding of `SensorRequest` (`core/sensors.cc`): its default constructor,
`isEquivalentTo` and `generateIntersectionOf`, which the request multiplexer folds over the
requests of its clients to get the maximal request.

`generateIntersectionOf` takes the minimum interval and latency (`std::min` on 64-bit
nanosecond counts) and the mode of higher priority, `Off < PassiveOneShot < PassiveContinuous <
ActiveOneShot < ActiveContinuous` (`generateIntersectionOf_eq`). Each of the three is
commutative, associative and idempotent, so a fold of requests does not depend on their order
(`foldl_generateIntersectionOf_perm`). The default request is not neutral, though: its interval
and latency are `0`, the least values, so every fold that starts from it has interval and
latency `0` (`foldl_generateIntersectionOf_default`).
-/

namespace Chre

/-- Modelled from the spec: `SensorMode` (its header is not under `src/`), the five modes
`generateIntersectionOf` ranks. -/
inductive SensorMode
  | off
  | passiveOneShot
  | passiveContinuous
  | activeOneShot
  | activeContinuous
  deriving DecidableEq, Repr

namespace SensorMode

/-- The rank of a mode in `Off < PassiveOneShot < PassiveContinuous < ActiveOneShot <
ActiveContinuous`. -/
def priority : SensorMode → Nat
  | off => 0
  | passiveOneShot => 1
  | passiveContinuous => 2
  | activeOneShot => 3
  | activeContinuous => 4

theorem priority_injective : Function.Injective priority := by
  intro a b h
  cases a <;> cases b <;> first | rfl | cases h

/-- The mode of higher priority. -/
def higher (a b : SensorMode) : SensorMode :=
  if a.priority ≤ b.priority then b else a

theorem priority_higher (a b : SensorMode) :
    (higher a b).priority = max a.priority b.priority := by
  unfold higher
  split_ifs with h <;> omega

theorem higher_comm (a b : SensorMode) : higher a b = higher b a :=
  priority_injective (by simp only [priority_higher]; omega)

theorem higher_assoc (a b c : SensorMode) : higher (higher a b) c = higher a (higher b c) :=
  priority_injective (by simp only [priority_higher]; omega)

theorem higher_self (a : SensorMode) : higher a a = a :=
  priority_injective (by simp only [priority_higher]; omega)

end SensorMode

/-- A sensor request. `Nanoseconds` (its header is not under `src/`) wraps a `uint64_t`
count of nanoseconds. -/
structure SensorRequest where
  interval : UInt64
  latency : UInt64
  mode : SensorMode
  deriving DecidableEq, Repr

namespace UInt64

theorem toNat_min (a b : UInt64) : (min a b).toNat = min a.toNat b.toNat := by
  show (if a ≤ b then a else b).toNat = _
  by_cases h : a.toNat ≤ b.toNat
  · rw [if_pos (show a ≤ b from h), Nat.min_eq_left h]
  · rw [if_neg (show ¬a ≤ b from h), Nat.min_eq_right (by omega)]

theorem min_comm (a b : UInt64) : min a b = min b a :=
  UInt64.toNat.inj (by simp only [toNat_min]; omega)

theorem min_assoc (a b c : UInt64) : min (min a b) c = min a (min b c) :=
  UInt64.toNat.inj (by simp only [toNat_min]; omega)

theorem min_self (a : UInt64) : min a a = a :=
  UInt64.toNat.inj (by simp only [toNat_min]; omega)

theorem zero_min (a : UInt64) : min 0 a = 0 :=
  UInt64.toNat.inj (by simp only [toNat_min]; simp)

end UInt64

namespace SensorRequest

/-- `SensorRequest()`: `Off`, with interval and latency `0`. -/
def default : SensorRequest :=
  ⟨0, 0, .off⟩

def isEquivalentTo (r request : SensorRequest) : Bool :=
  r.mode == request.mode && r.interval == request.interval && r.latency == request.latency

/-- `generateIntersectionOf`; `std::min` on `Nanoseconds` is `min` on the counts. -/
def generateIntersectionOf (r request : SensorRequest) : SensorRequest :=
  let minimalInterval := min r.interval request.interval
  let minimalLatency := min r.latency request.latency
  let maximalSensorMode : SensorMode :=
    if r.mode = .activeContinuous || request.mode = .activeContinuous then .activeContinuous
    else if r.mode = .activeOneShot || request.mode = .activeOneShot then .activeOneShot
    else if r.mode = .passiveContinuous || request.mode = .passiveContinuous then
      .passiveContinuous
    else if r.mode = .passiveOneShot || request.mode = .passiveOneShot then .passiveOneShot
    else .off
  ⟨minimalInterval, minimalLatency, maximalSensorMode⟩

/-- Equivalent requests are equal: `isEquivalentTo` compares every field. -/
@[simp] theorem isEquivalentTo_iff (r request : SensorRequest) :
    r.isEquivalentTo request = true ↔ r = request := by
  cases r; cases request
  simp only [isEquivalentTo, Bool.and_eq_true, beq_iff_eq, mk.injEq]
  exact ⟨fun ⟨⟨hm, hi⟩, hl⟩ => ⟨hi, hl, hm⟩, fun ⟨hi, hl, hm⟩ => ⟨⟨hm, hi⟩, hl⟩⟩

/-- **What `generateIntersectionOf` computes**: the least interval, the least latency and the
mode of higher priority. -/
theorem generateIntersectionOf_eq (r request : SensorRequest) :
    r.generateIntersectionOf request = ⟨min r.interval request.interval,
      min r.latency request.latency, SensorMode.higher r.mode request.mode⟩ := by
  obtain ⟨i, l, m⟩ := r
  obtain ⟨i', l', m'⟩ := request
  cases m <;> cases m' <;> rfl

theorem generateIntersectionOf_comm (r request : SensorRequest) :
    r.generateIntersectionOf request = request.generateIntersectionOf r := by
  simp only [generateIntersectionOf_eq, UInt64.min_comm r.interval, UInt64.min_comm r.latency,
    SensorMode.higher_comm r.mode]

theorem generateIntersectionOf_assoc (a b c : SensorRequest) :
    (a.generateIntersectionOf b).generateIntersectionOf c =
      a.generateIntersectionOf (b.generateIntersectionOf c) := by
  simp only [generateIntersectionOf_eq, UInt64.min_assoc, SensorMode.higher_assoc]

theorem generateIntersectionOf_self (r : SensorRequest) : r.generateIntersectionOf r = r := by
  simp only [generateIntersectionOf_eq, UInt64.min_self, SensorMode.higher_self]

/-- **The maximal request does not depend on the order of the requests.** Folding
`generateIntersectionOf` over any permutation of a list of requests, from any start request,
gives equivalent requests, because `generateIntersectionOf` is commutative, associative and
idempotent. -/
theorem foldl_generateIntersectionOf_perm :
    (∀ r request : SensorRequest,
      (r.generateIntersectionOf request).isEquivalentTo (request.generateIntersectionOf r)) ∧
    (∀ a b c : SensorRequest, ((a.generateIntersectionOf b).generateIntersectionOf c).isEquivalentTo
      (a.generateIntersectionOf (b.generateIntersectionOf c))) ∧
    (∀ r : SensorRequest, (r.generateIntersectionOf r).isEquivalentTo r) ∧
    ∀ {rs rs' : List SensorRequest}, rs.Perm rs' → ∀ r₀ : SensorRequest,
      (rs.foldl generateIntersectionOf r₀).isEquivalentTo (rs'.foldl generateIntersectionOf r₀) := by
  refine ⟨fun r q => ?_, fun a b c => ?_, fun r => ?_, fun hp r₀ => ?_⟩
  · simpa using generateIntersectionOf_comm r q
  · simpa using generateIntersectionOf_assoc a b c
  · simpa using generateIntersectionOf_self r
  · refine (isEquivalentTo_iff _ _).2 (hp.foldl_eq' (fun x _ y _ z => ?_) r₀)
    rw [generateIntersectionOf_assoc, generateIntersectionOf_comm x,
      ← generateIntersectionOf_assoc]

/-- **The default request is not neutral.** A fold of `generateIntersectionOf` from
`SensorRequest()` has the mode of highest priority among the requests, but interval and
latency `0` whatever the requests; so merging a request with the default is not equivalent to
it unless its interval and latency are `0`. -/
theorem foldl_generateIntersectionOf_default :
    (∀ rs : List SensorRequest, rs.foldl generateIntersectionOf default =
      ⟨0, 0, rs.foldl (fun m r => SensorMode.higher m r.mode) .off⟩) ∧
    ¬ (SensorRequest.generateIntersectionOf ⟨10000000, 100000000, .activeContinuous⟩
      default).isEquivalentTo ⟨10000000, 100000000, .activeContinuous⟩ := by
  refine ⟨fun rs => ?_, by decide⟩
  suffices ∀ m, rs.foldl generateIntersectionOf ⟨0, 0, m⟩ =
      ⟨0, 0, rs.foldl (fun m r => SensorMode.higher m r.mode) m⟩ from this _
  induction rs with
  | nil => intro m; rfl
  | cons r rs ih =>
    intro m
    simp only [List.foldl_cons, generateIntersectionOf_eq, UInt64.zero_min, ih]

end SensorRequest

end Chre

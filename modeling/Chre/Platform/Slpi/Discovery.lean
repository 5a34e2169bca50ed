import Chre.Platform.Slpi.PlatformSensor

/-!
# Sensor discovery on the SLPI

What `PlatformSensor::getSensors` lists, whatever SMGR answers to its sensor info requests.

A factory calibration changes a sensor's type only for the three motion sensors, to their
uncalibrated variants (`getSensorTypeFromSensorId_factoryCal`). So discovery lists sensors in the
shape `Listed`: each data type of a known type, fully calibrated, followed by its factory-calibrated
version exactly when that is an uncalibrated type. Every listed sensor has a known type, which is
what `getReportId` asserts when `setRequest` is later called on it.

* `getSensors_listed`: on every path, failures included, the list only gains sensors of that
  shape.
* `getSensors_true_iff`: `getSensors` returns true exactly when the sensor list request and every
  single sensor request succeeded, and it has then listed every known data type of every sensor.
-/

namespace Chre

namespace SensorType

/-- The type of a sensor calibrated by the factory rather than fully: the uncalibrated variant of
the three motion sensors, the type itself otherwise. -/
def uncalibrated : SensorType → SensorType
  | accelerometer => uncalibratedAccelerometer
  | gyroscope => uncalibratedGyroscope
  | geomagneticField => uncalibratedGeomagneticField
  | t => t

theorem uncalibrated_ne_unknown {t : SensorType} (h : t ≠ unknown) : t.uncalibrated ≠ unknown := by
  cases t <;> first | exact h | exact nofun

end SensorType

namespace PlatformSensor

variable {api : SmgrApi}

/-- The factory calibration of a sensor id and data type is of the uncalibrated variant of the
full calibration's type. -/
theorem getSensorTypeFromSensorId_factoryCal (api : SmgrApi) (sensorId dataType : UInt8) :
    getSensorTypeFromSensorId api sensorId dataType api.calSelFactoryCal =
      (getSensorTypeFromSensorId api sensorId dataType api.calSelFullCal).uncalibrated := by
  unfold getSensorTypeFromSensorId
  simp only [apply_ite SensorType.uncalibrated]
  simp only [SensorType.uncalibrated, if_pos rfl, if_neg api.calSel_ne.symm, if_neg api.calSel_ne]

/-- How discovery lists sensors: each fully calibrated sensor of a known type, followed by its
factory-calibrated version exactly when that is of another type. -/
inductive Listed (api : SmgrApi) : List PlatformSensor → Prop
  | nil : Listed api []
  | single {s : PlatformSensor} {rest : List PlatformSensor} : s.calType = api.calSelFullCal →
      getSensorType api s ≠ .unknown → (getSensorType api s).uncalibrated = getSensorType api s →
      Listed api rest → Listed api (s :: rest)
  | pair {s : PlatformSensor} {rest : List PlatformSensor} : s.calType = api.calSelFullCal →
      getSensorType api s ≠ .unknown → (getSensorType api s).uncalibrated ≠ getSensorType api s →
      Listed api rest → Listed api (s :: { s with calType := api.calSelFactoryCal } :: rest)

namespace Listed

theorem append {l l' : List PlatformSensor} (h : Listed api l) (h' : Listed api l') :
    Listed api (l ++ l') := by
  induction h with
  | nil => exact h'
  | single hc hk hu _ ih => exact .single hc hk hu ih
  | pair hc hk hu _ ih => exact .pair hc hk hu ih

/-- Every listed sensor has a known type. -/
theorem known {l : List PlatformSensor} (h : Listed api l) :
    ∀ s ∈ l, getSensorType api s ≠ .unknown := by
  induction h with
  | nil => simp
  | single _ hk _ _ ih => exact List.forall_mem_cons.2 ⟨hk, ih⟩
  | @pair s _ hc hk _ _ ih =>
    have hf : getSensorType api { s with calType := api.calSelFactoryCal } =
        (getSensorType api s).uncalibrated := by
      simpa [getSensorType, hc] using getSensorTypeFromSensorId_factoryCal api s.sensorId s.dataType
    exact List.forall_mem_cons.2 ⟨hk, List.forall_mem_cons.2
      ⟨hf ▸ SensorType.uncalibrated_ne_unknown hk, ih⟩⟩

end Listed

theorem addPlatformSensor_eq_ok {room : List PlatformSensor → Bool}
    {sensorId dataType calType : UInt8} {sensors sensors' : List PlatformSensor}
    (h : addPlatformSensor room sensorId dataType calType sensors = .ok sensors') :
    sensors' = sensors ++ [⟨sensorId, dataType, calType⟩] := by
  unfold addPlatformSensor at h
  split at h
  · exact (Except.ok.inj h).symm
  · cases h

/-- One entry of `data_type_info` adds a `Listed` block. -/
theorem addDatatypeSensors_listed {room : List PlatformSensor → Bool}
    {sensors sensors' : List PlatformSensor} {sensorInfo : SensorDatatypeInfo}
    (h : addDatatypeSensors api room sensors sensorInfo = .ok sensors') :
    ∃ added, sensors' = sensors ++ added ∧ Listed api added := by
  unfold addDatatypeSensors at h
  dsimp only at h
  rw [getSensorTypeFromSensorId_factoryCal] at h
  split_ifs at h with hk hu
  · -- the factory-calibrated version is of another type
    obtain ⟨s₁, h₁, h₂⟩ := bind_eq_ok h
    refine ⟨_, by rw [addPlatformSensor_eq_ok h₂, addPlatformSensor_eq_ok h₁, List.append_assoc]; rfl,
      .pair (s := ⟨_, _, api.calSelFullCal⟩) rfl hk (Ne.symm hu) .nil⟩
  · obtain ⟨s₁, h₁, h₂⟩ := bind_eq_ok h
    exact ⟨_, by rw [← Except.ok.inj h₂, addPlatformSensor_eq_ok h₁],
      .single (s := ⟨_, _, api.calSelFullCal⟩) rfl hk (not_not.1 hu).symm .nil⟩
  · exact ⟨[], by simpa using (Except.ok.inj h).symm, .nil⟩

theorem foldlM_addDatatypeSensors_listed {room : List PlatformSensor → Bool} :
    ∀ {infos : List SensorDatatypeInfo} {sensors sensors' : List PlatformSensor},
      infos.foldlM (addDatatypeSensors api room) sensors = .ok sensors' →
      ∃ added, sensors' = sensors ++ added ∧ Listed api added
  | [], _, _, h => ⟨[], by simpa using (Except.ok.inj h).symm, .nil⟩
  | _ :: _, _, _, h => by
    obtain ⟨s₁, h₁, h₂⟩ := bind_eq_ok h
    obtain ⟨a₁, rfl, l₁⟩ := addDatatypeSensors_listed h₁
    obtain ⟨a₂, rfl, l₂⟩ := foldlM_addDatatypeSensors_listed h₂
    exact ⟨a₁ ++ a₂, List.append_assoc _ _ _, l₁.append l₂⟩

theorem getSensorsForSensorId_listed {room : List PlatformSensor → Bool}
    {resp : Option SingleSensorInfoResp} {sensors : List PlatformSensor}
    {r : Bool × List PlatformSensor} (h : getSensorsForSensorId api room resp sensors = .ok r) :
    ∃ added, r.2 = sensors ++ added ∧ Listed api added := by
  unfold getSensorsForSensorId at h
  split at h
  · cases h; exact ⟨[], by simp, .nil⟩
  · split_ifs at h
    · cases h; exact ⟨[], by simp, .nil⟩
    · obtain ⟨l, hl, rfl⟩ := map_eq_ok h
      exact foldlM_addDatatypeSensors_listed hl

theorem getSensorsFrom_listed {room : List PlatformSensor → Bool}
    {singleSensorInfo : UInt8 → Option SingleSensorInfoResp} :
    ∀ {sensorIds : List UInt8} {sensors : List PlatformSensor} {r : Bool × List PlatformSensor},
      getSensorsFrom api room singleSensorInfo sensorIds sensors = .ok r →
      ∃ added, r.2 = sensors ++ added ∧ Listed api added
  | [], _, _, h => by cases h; exact ⟨[], by simp, .nil⟩
  | _ :: _, _, _, h => by
    obtain ⟨r₁, h₁, h₂⟩ := bind_eq_ok h
    obtain ⟨a₁, e₁, l₁⟩ := getSensorsForSensorId_listed h₁
    split at h₂
    · obtain ⟨a₂, e₂, l₂⟩ := getSensorsFrom_listed h₂
      exact ⟨a₁ ++ a₂, by rw [e₂, e₁, List.append_assoc], l₁.append l₂⟩
    · cases h₂; exact ⟨a₁, e₁, l₁⟩

/-- **Discovery lists only known sensors, in pairs where calibration matters.** Whatever SMGR
answers, and whether `getSensors` succeeds or not, the sensors it appends have the shape
`Listed`: each a fully calibrated sensor of a known type, followed by its factory-calibrated
version exactly when that is an uncalibrated type. So `getReportId`'s assertion holds for every
sensor discovery lists. -/
theorem getSensors_listed {room : List PlatformSensor → Bool}
    {sensorListResponse : Option AllSensorInfoResp}
    {singleSensorInfo : UInt8 → Option SingleSensorInfoResp} {sensors : List PlatformSensor}
    {r : Bool × List PlatformSensor}
    (h : getSensors api room sensorListResponse singleSensorInfo sensors = .ok r) :
    ∃ added, r.2 = sensors ++ added ∧ Listed api added ∧
      ∀ s ∈ added, getSensorType api s ≠ .unknown := by
  unfold getSensors at h
  obtain ⟨added, e, l⟩ : ∃ added, r.2 = sensors ++ added ∧ Listed api added := by
    split at h
    · cases h; exact ⟨[], by simp, .nil⟩
    · split_ifs at h
      · cases h; exact ⟨[], by simp, .nil⟩
      · exact getSensorsFrom_listed h
  exact ⟨added, e, l, l.known⟩

/-- SMGR reports an accelerometer with its temperature sensor as secondary data: discovery lists
the accelerometer, its uncalibrated version, and the temperature sensor. -/
theorem getSensors_listed_accelerometer :
    getSensors sampleSmgrApi (fun _ => true) (some ⟨0, [0]⟩) (fun _ => some ⟨0, [⟨0, 0⟩, ⟨0, 1⟩]⟩)
        [] = .ok (true, [⟨0, 0, 0⟩, ⟨0, 0, 1⟩, ⟨0, 1, 0⟩]) ∧
      ∃ added, [⟨0, 0, 0⟩, ⟨0, 0, 1⟩, ⟨0, 1, 0⟩] = [] ++ added ∧ Listed sampleSmgrApi added ∧
        ∀ s ∈ added, getSensorType sampleSmgrApi s ≠ .unknown :=
  have h : getSensors sampleSmgrApi (fun _ => true) (some ⟨0, [0]⟩)
      (fun _ => some ⟨0, [⟨0, 0⟩, ⟨0, 1⟩]⟩) [] = .ok (true, [⟨0, 0, 0⟩, ⟨0, 0, 1⟩, ⟨0, 1, 0⟩]) :=
    rfl
  ⟨h, getSensors_listed h⟩

/-! ### Success, and what a successful discovery lists -/

theorem addDatatypeSensors_mem {room : List PlatformSensor → Bool}
    {sensors sensors' : List PlatformSensor} {sensorInfo : SensorDatatypeInfo}
    (h : addDatatypeSensors api room sensors sensorInfo = .ok sensors')
    (hk : getSensorTypeFromSensorId api sensorInfo.sensorId sensorInfo.dataType api.calSelFullCal ≠
      .unknown) :
    ⟨sensorInfo.sensorId, sensorInfo.dataType, api.calSelFullCal⟩ ∈ sensors' := by
  unfold addDatatypeSensors at h
  dsimp only at h
  rw [if_pos hk] at h
  obtain ⟨s₁, h₁, h₂⟩ := bind_eq_ok h
  rw [addPlatformSensor_eq_ok h₁] at h₂
  split_ifs at h₂
  · simp [addPlatformSensor_eq_ok h₂]
  · simp [← Except.ok.inj h₂]

theorem foldlM_addDatatypeSensors_mem {room : List PlatformSensor → Bool} :
    ∀ {infos : List SensorDatatypeInfo} {sensors sensors' : List PlatformSensor},
      infos.foldlM (addDatatypeSensors api room) sensors = .ok sensors' →
      ∀ info ∈ infos,
        getSensorTypeFromSensorId api info.sensorId info.dataType api.calSelFullCal ≠ .unknown →
        ⟨info.sensorId, info.dataType, api.calSelFullCal⟩ ∈ sensors'
  | [], _, _, _ => by simp
  | _ :: _, _, _, h => by
    obtain ⟨s₁, h₁, h₂⟩ := bind_eq_ok h
    intro info hi hk
    rcases List.mem_cons.1 hi with rfl | hi
    · obtain ⟨a₂, rfl, -⟩ := foldlM_addDatatypeSensors_listed h₂
      exact List.mem_append_left _ (addDatatypeSensors_mem h₁ hk)
    · exact foldlM_addDatatypeSensors_mem h₂ info hi hk

/-- SMGR answered the request with success. -/
def Succeeded (api : SmgrApi) (resp : Option SingleSensorInfoResp) : Prop :=
  ∃ r, resp = some r ∧ r.result = api.resultSuccess

/-- Every known data type of the response has its fully calibrated sensor in the list. -/
def Covers (api : SmgrApi) (resp : Option SingleSensorInfoResp) (l : List PlatformSensor) : Prop :=
  ∀ r ∈ resp, ∀ info ∈ r.dataTypeInfo,
    getSensorTypeFromSensorId api info.sensorId info.dataType api.calSelFullCal ≠ .unknown →
    ⟨info.sensorId, info.dataType, api.calSelFullCal⟩ ∈ l

theorem Covers.append {resp : Option SingleSensorInfoResp} {l : List PlatformSensor}
    (h : Covers api resp l) (l' : List PlatformSensor) : Covers api resp (l ++ l') :=
  fun r hr info hi hk => List.mem_append_left _ (h r hr info hi hk)

theorem getSensorsForSensorId_true {room : List PlatformSensor → Bool}
    {resp : Option SingleSensorInfoResp} {sensors : List PlatformSensor}
    {r : Bool × List PlatformSensor} (h : getSensorsForSensorId api room resp sensors = .ok r) :
    (r.1 = true ↔ Succeeded api resp) ∧ (r.1 = true → Covers api resp r.2) := by
  unfold getSensorsForSensorId at h
  split at h
  · cases h; simp [Succeeded]
  · split_ifs at h with hr
    · cases h; simp [Succeeded, hr]
    · obtain ⟨l, hl, rfl⟩ := map_eq_ok h
      refine ⟨by simpa [Succeeded] using hr, fun _ => ?_⟩
      rintro _ ⟨⟩
      exact foldlM_addDatatypeSensors_mem hl

theorem getSensorsFrom_true {room : List PlatformSensor → Bool}
    {singleSensorInfo : UInt8 → Option SingleSensorInfoResp} :
    ∀ {sensorIds : List UInt8} {sensors : List PlatformSensor} {r : Bool × List PlatformSensor},
      getSensorsFrom api room singleSensorInfo sensorIds sensors = .ok r →
      (r.1 = true ↔ ∀ sensorId ∈ sensorIds, Succeeded api (singleSensorInfo sensorId)) ∧
      (r.1 = true → ∀ sensorId ∈ sensorIds, Covers api (singleSensorInfo sensorId) r.2)
  | [], _, _, h => by cases h; simp
  | _ :: _, _, _, h => by
    obtain ⟨r₁, h₁, h₂⟩ := bind_eq_ok h
    obtain ⟨ok₁, cov₁⟩ := getSensorsForSensorId_true h₁
    split at h₂
    · next hr₁ =>
      obtain ⟨a₂, e₂, -⟩ := getSensorsFrom_listed h₂
      obtain ⟨ok₂, cov₂⟩ := getSensorsFrom_true h₂
      refine ⟨by rw [ok₂, List.forall_mem_cons, ← ok₁]; simp [hr₁], fun hr => ?_⟩
      exact List.forall_mem_cons.2 ⟨e₂ ▸ (cov₁ hr₁).append a₂, cov₂ hr⟩
    · next hr₁ =>
      cases h₂
      simp only [Bool.false_eq_true, false_iff, List.forall_mem_cons, not_and, false_implies,
        and_true]
      exact fun h => absurd (ok₁.2 h) hr₁

/-- **Discovery succeeds exactly when SMGR answers every request, and then lists every known
sensor.** `getSensors` returns true exactly when the sensor list request and the single sensor
info request for each listed sensor id succeeded. It has then listed, fully calibrated, every
data type of a known type that SMGR reported. -/
theorem getSensors_true_iff {room : List PlatformSensor → Bool}
    {sensorListResponse : Option AllSensorInfoResp}
    {singleSensorInfo : UInt8 → Option SingleSensorInfoResp} {sensors : List PlatformSensor}
    {r : Bool × List PlatformSensor}
    (h : getSensors api room sensorListResponse singleSensorInfo sensors = .ok r) :
    (r.1 = true ↔ ∃ resp, sensorListResponse = some resp ∧ resp.result = api.resultSuccess ∧
      ∀ sensorId ∈ resp.sensorIds, ∃ resp', singleSensorInfo sensorId = some resp' ∧
        resp'.result = api.resultSuccess) ∧
    (r.1 = true → ∀ resp ∈ sensorListResponse, ∀ sensorId ∈ resp.sensorIds,
      ∀ resp' ∈ singleSensorInfo sensorId, ∀ info ∈ resp'.dataTypeInfo,
        getSensorTypeFromSensorId api info.sensorId info.dataType api.calSelFullCal ≠ .unknown →
        ⟨info.sensorId, info.dataType, api.calSelFullCal⟩ ∈ r.2) := by
  unfold getSensors at h
  split at h
  · cases h
    exact ⟨⟨nofun, fun ⟨_, he, _⟩ => nomatch he⟩, nofun⟩
  · split_ifs at h with hr
    · cases h
      exact ⟨⟨nofun, fun ⟨_, he, hs, _⟩ => (hr (Option.some.inj he ▸ hs)).elim⟩, nofun⟩
    · obtain ⟨ok, cov⟩ := getSensorsFrom_true h
      refine ⟨by rw [ok]; simp [Succeeded, not_not.1 hr], fun h₁ => ?_⟩
      rintro _ ⟨⟩
      exact cov h₁

/-- The request for the second sensor id fails: `getSensors` returns false, keeping the sensors of
the first. -/
theorem getSensors_true_iff_secondFails :
    getSensors sampleSmgrApi (fun _ => true) (some ⟨0, [0, 10]⟩)
        (fun sensorId => if sensorId = 0 then some ⟨0, [⟨0, 0⟩]⟩ else some ⟨1, []⟩) [] =
        .ok (false, [⟨0, 0, 0⟩, ⟨0, 0, 1⟩]) ∧
      (false = true ↔ ∃ resp, some (⟨0, [0, 10]⟩ : AllSensorInfoResp) = some resp ∧
        resp.result = sampleSmgrApi.resultSuccess ∧ ∀ sensorId ∈ resp.sensorIds, ∃ resp',
          (if sensorId = 0 then some (⟨0, [⟨0, 0⟩]⟩ : SingleSensorInfoResp) else some ⟨1, []⟩) =
            some resp' ∧ resp'.result = sampleSmgrApi.resultSuccess) ∧
      (false = true → ∀ resp ∈ some (⟨0, [0, 10]⟩ : AllSensorInfoResp), ∀ sensorId ∈ resp.sensorIds,
        ∀ resp' ∈ (if sensorId = 0 then some (⟨0, [⟨0, 0⟩]⟩ : SingleSensorInfoResp)
          else some ⟨1, []⟩), ∀ info ∈ resp'.dataTypeInfo,
          getSensorTypeFromSensorId sampleSmgrApi info.sensorId info.dataType
            sampleSmgrApi.calSelFullCal ≠ .unknown →
          ⟨info.sensorId, info.dataType, sampleSmgrApi.calSelFullCal⟩ ∈
            ([⟨0, 0, 0⟩, ⟨0, 0, 1⟩] : List PlatformSensor)) :=
  have h : getSensors sampleSmgrApi (fun _ => true) (some ⟨0, [0, 10]⟩)
      (fun sensorId => if sensorId = 0 then some ⟨0, [⟨0, 0⟩]⟩ else some ⟨1, []⟩) [] =
      .ok (false, [⟨0, 0, 0⟩, ⟨0, 0, 1⟩]) := rfl
  ⟨h, getSensors_true_iff h⟩

end PlatformSensor

end Chre

import Chre.Sensors.SensorRequest
import Chre.Sensors.SensorType

/-!
# The SLPI platform sensor

A shallow embedding of `platform/slpi/platform_sensor.cc`: how CHRE on the SLPI discovers the
sensors of the sensor manager (SMGR), asks it for their data, and turns the data SMGR indicates
into CHRE sensor events.

* Discovery (`getSensors`, `getSensorsForSensorId`, `addPlatformSensor`) lists a
  `PlatformSensor` for each data type of each SMGR sensor whose type CHRE knows, fully
  calibrated, and a second, factory-calibrated one where that is a type of its own.
* A request (`setRequest`, `populateSensorRequest`) asks SMGR for buffered reports under a report
  id that encodes the sensor's type. A secondary temperature sensor is asked for together with a
  primary sensor, whose data is ignored.
* An indication (`handleSensorDataIndication`) is routed by its report id back to a sensor type,
  and the samples of one of its indices become the readings of one event, which is posted to the
  event loop.

SMGR's answers are arguments: each QMI response as the fields the code reads, `none` where the QMI
call itself fails. The SMGR constants, and the helpers the file takes from headers not under
`src/`, are the fields of `SmgrApi`. The conversion of a sample's fixed-point data to `float`
(`FX_FIXTOFLT_Q16`, and the Gauss to micro Tesla scaling) is left out: a reading keeps the Q16
values it is converted from, in the order of its axes.
-/

namespace Chre

/-- The layout of a sensor type's samples, as `getSensorSampleTypeFromSensorType` (not under
`src/`) tells `allocateAndPopulateEvent`. -/
inductive SensorSampleType
  | threeAxis
  | float
  | byte
  | occupancy
  | unknown
  deriving DecidableEq, Repr

/-- Modelled from the spec: `sensorModeIsActive` (not under `src/`); the active modes are those
that may turn the sensor on. -/
def sensorModeIsActive : SensorMode → Bool
  | .activeContinuous | .activeOneShot => true
  | _ => false

/-- The constants and helpers `platform_sensor.cc` takes from headers that are not under
`src/`: the SMGR QMI API's (`sns_smgr_api_v01.h`), `timetick.h`'s and
`platform_sensor_util.h`'s. The laws are what the code needs of them: the two data types
differ, the two calibrations differ, and the timetick frequency is positive. -/
structure SmgrApi where
  dataTypePrimary : UInt8
  dataTypeSecondary : UInt8
  calSelFullCal : UInt8
  calSelFactoryCal : UInt8
  idAccel : UInt8
  idGyro : UInt8
  idMag : UInt8
  idPressure : UInt8
  idProxLight : UInt8
  idHumidity : UInt8
  idUltraViolet : UInt8
  idObjectTemp : UInt8
  bufferingActionAdd : UInt8
  bufferingActionDelete : UInt8
  decimationRecentSample : UInt8
  resultSuccess : UInt8
  responseAckSuccess : UInt8
  responseAckModified : UInt8
  /-- `SNS_SMGR_BUFFERING_IND_V01`, the message id of a buffering indication. -/
  bufferingInd : UInt32
  timetickNominalFreqHz : UInt64
  intervalToSmgrQ16ReportRate : UInt64 → UInt32
  intervalToSmgrSamplingRate : UInt64 → UInt16
  getSensorSampleTypeFromSensorType : SensorType → SensorSampleType
  getSensorHandleFromSensorType : SensorType → UInt32
  dataType_ne : dataTypePrimary ≠ dataTypeSecondary
  calSel_ne : calSelFullCal ≠ calSelFactoryCal
  timetickNominalFreqHz_pos : 0 < timetickNominalFreqHz.toNat

/-- A `PlatformSensor`: the SMGR sensor id, data type and calibration it stands for. -/
structure PlatformSensor where
  sensorId : UInt8
  dataType : UInt8
  calType : UInt8
  deriving DecidableEq, Repr

/-! ### The QMI messages, as the fields the code reads or writes -/

/-- An entry of `sns_smgr_sensor_info_s_v01.data_type_info`. -/
structure SensorDatatypeInfo where
  sensorId : UInt8
  dataType : UInt8
  deriving DecidableEq, Repr

/-- `sns_smgr_single_sensor_info_resp_msg_v01`: `Resp.sns_result_t`, and the first
`data_type_info_len` entries of `SensorInfo.data_type_info`. -/
structure SingleSensorInfoResp where
  result : UInt8
  dataTypeInfo : List SensorDatatypeInfo
  deriving DecidableEq, Repr

/-- `sns_smgr_all_sensor_info_resp_msg_v01`: `Resp.sns_result_t`, and the `SensorID`s of the
first `SensorInfo_len` entries of `SensorInfo`. -/
structure AllSensorInfoResp where
  result : UInt8
  sensorIds : List UInt8
  deriving DecidableEq, Repr

/-- An entry of `sns_smgr_buffering_req_msg_v01.Item`. -/
structure BufferingReqItem where
  sensorId : UInt8
  dataType : UInt8
  decimation : UInt8
  calibration : UInt8
  samplingRate : UInt16
  deriving DecidableEq, Repr

/-- `sns_smgr_buffering_req_msg_v01`, whose fields `populateSensorRequest` does not set are
zero; `items` holds the first `Item_len` entries of `Item`. -/
structure BufferingReq where
  reportId : UInt8
  action : UInt8
  reportRate : UInt32
  items : List BufferingReqItem
  deriving DecidableEq, Repr

/-- `sns_smgr_buffering_resp_msg_v01`: `Resp.sns_result_t` and `AckNak`. -/
structure BufferingResp where
  result : UInt8
  ackNak : UInt8
  deriving DecidableEq, Repr

/-- An entry of `sns_smgr_buffering_ind_msg_v01.Samples`: the Q16 fixed-point `Data`, and its
`TimeStampOffset` in ticks. -/
structure BufferingSample where
  data : List Int
  timeStampOffset : UInt32
  deriving DecidableEq, Repr

/-- An entry of `sns_smgr_buffering_ind_msg_v01.Indices`: the samples of one sensor of the
report. -/
structure BufferingSampleIndex where
  sensorId : UInt8
  dataType : UInt8
  firstSampleIdx : UInt8
  sampleCount : UInt8
  firstSampleTimestamp : UInt32
  deriving DecidableEq, Repr

/-- `sns_smgr_buffering_ind_msg_v01` as `qmi_client_message_decode` leaves it in
`gSmgrBufferingIndMsg`: the first `Indices_len` entries of `Indices` and the first `Samples_len`
of `Samples`. -/
structure BufferingInd where
  reportId : UInt8
  indices : List BufferingSampleIndex
  samples : List BufferingSample
  deriving DecidableEq, Repr

/-! ### The CHRE sensor event -/

/-- `chreSensorDataHeader` as `populateSensorDataHeader` fills it; `reserved` is zeroed. -/
structure SensorDataHeader where
  baseTimestamp : UInt64
  sensorHandle : UInt32
  readingCount : UInt16
  deriving DecidableEq, Repr

/-- A reading of `chreSensorThreeAxisData` or `chreSensorFloatData`: its `timestampDelta`, and the
Q16 values its `float`s are converted from, one per axis. -/
structure SensorReading where
  timestampDelta : UInt32
  values : List Int
  deriving DecidableEq, Repr

/-- The event `allocateAndPopulateEvent` fills: the header, and a reading per sample, `none` where
the code reads `Samples` past `Samples_len`, whose entries the decoding did not write. -/
structure SensorEvent where
  header : SensorDataHeader
  readings : List (Option SensorReading)
  deriving DecidableEq, Repr

namespace PlatformSensor

variable (api : SmgrApi)

/-! ### Sensor types and report ids -/

def getSensorTypeFromSensorId (sensorId dataType calType : UInt8) : SensorType :=
  if dataType = api.dataTypePrimary then
    if api.idAccel ≤ sensorId ∧ sensorId < api.idGyro then
      if calType = api.calSelFullCal then .accelerometer
      else if calType = api.calSelFactoryCal then .uncalibratedAccelerometer
      else .unknown
    else if api.idGyro ≤ sensorId ∧ sensorId < api.idMag then
      if calType = api.calSelFullCal then .gyroscope
      else if calType = api.calSelFactoryCal then .uncalibratedGyroscope
      else .unknown
    else if api.idMag ≤ sensorId ∧ sensorId < api.idPressure then
      if calType = api.calSelFullCal then .geomagneticField
      else if calType = api.calSelFactoryCal then .uncalibratedGeomagneticField
      else .unknown
    else if api.idPressure ≤ sensorId ∧ sensorId < api.idProxLight then .pressure
    else if api.idProxLight ≤ sensorId ∧ sensorId < api.idHumidity then .proximity
    else .unknown
  else if dataType = api.dataTypeSecondary then
    if api.idAccel ≤ sensorId ∧ sensorId < api.idGyro then .accelerometerTemperature
    else if api.idGyro ≤ sensorId ∧ sensorId < api.idMag then .gyroscopeTemperature
    else if (api.idProxLight ≤ sensorId ∧ sensorId < api.idHumidity) ∨
        (api.idUltraViolet ≤ sensorId ∧ sensorId < api.idObjectTemp) then .light
    else .unknown
  else .unknown

def getSensorTypeFromReportId (reportId : UInt8) : SensorType :=
  if reportId < SensorType.sensorTypeCount then SensorType.ofUInt8 reportId else .unknown

/-- `getReportId`; its `CHRE_ASSERT_LOG` that the type is known is left out, and stated of the
sensors discovery lists in `Chre.PlatformSensor.Listed`. -/
def getReportId (sensorId dataType calType : UInt8) : UInt8 :=
  (getSensorTypeFromSensorId api sensorId dataType calType).toUInt8

def isSecondaryTemperature (reportId : UInt8) : Bool :=
  getSensorTypeFromReportId reportId == .accelerometerTemperature ||
    getSensorTypeFromReportId reportId == .gyroscopeTemperature

/-- `isValidIndicesLength`, of the indication in `gSmgrBufferingIndMsg`. -/
def isValidIndicesLength (msg : BufferingInd) : Bool :=
  (msg.indices.length == 1 && !isSecondaryTemperature msg.reportId) ||
    (msg.indices.length == 2 && isSecondaryTemperature msg.reportId)

/-- `PlatformSensor::getSensorType`. -/
def getSensorType (sensor : PlatformSensor) : SensorType :=
  getSensorTypeFromSensorId api sensor.sensorId sensor.dataType sensor.calType

/-! ### Discovery -/

/-- `addPlatformSensor`; `room` is whether `push_back` can allocate for one more sensor. -/
def addPlatformSensor (room : List PlatformSensor → Bool) (sensorId dataType calType : UInt8)
    (sensors : List PlatformSensor) : Except String (List PlatformSensor) :=
  if room sensors then .ok (sensors ++ [⟨sensorId, dataType, calType⟩])
  else .error "Failed to allocate new sensor: out of memory"

/-- One pass of the loop of `getSensorsForSensorId`, over an entry of `data_type_info`. -/
def addDatatypeSensors (room : List PlatformSensor → Bool) (sensors : List PlatformSensor)
    (sensorInfo : SensorDatatypeInfo) : Except String (List PlatformSensor) := do
  let sensorType :=
    getSensorTypeFromSensorId api sensorInfo.sensorId sensorInfo.dataType api.calSelFullCal
  if sensorType ≠ .unknown then
    let sensors ← addPlatformSensor room sensorInfo.sensorId sensorInfo.dataType
      api.calSelFullCal sensors
    let uncalibratedType :=
      getSensorTypeFromSensorId api sensorInfo.sensorId sensorInfo.dataType api.calSelFactoryCal
    if sensorType ≠ uncalibratedType then
      addPlatformSensor room sensorInfo.sensorId sensorInfo.dataType api.calSelFactoryCal sensors
    else .ok sensors
  else .ok sensors

/-- `getSensorsForSensorId`, given SMGR's response to the single sensor info request, with the
result it returns and the list it appends to. -/
def getSensorsForSensorId (room : List PlatformSensor → Bool)
    (sensorInfoResponse : Option SingleSensorInfoResp) (sensors : List PlatformSensor) :
    Except String (Bool × List PlatformSensor) :=
  match sensorInfoResponse with
  | none => .ok (false, sensors)
  | some resp =>
    if resp.result ≠ api.resultSuccess then .ok (false, sensors)
    else (resp.dataTypeInfo.foldlM (addDatatypeSensors api room) sensors).map (true, ·)

/-- The loop of `PlatformSensor::getSensors` over the sensor ids, which stops at the first
request that fails. -/
def getSensorsFrom (room : List PlatformSensor → Bool)
    (singleSensorInfo : UInt8 → Option SingleSensorInfoResp) :
    List UInt8 → List PlatformSensor → Except String (Bool × List PlatformSensor)
  | [], sensors => .ok (true, sensors)
  | sensorId :: sensorIds, sensors => do
    let r ← getSensorsForSensorId api room (singleSensorInfo sensorId) sensors
    if r.1 then getSensorsFrom room singleSensorInfo sensorIds r.2 else .ok (false, r.2)

/-- `PlatformSensor::getSensors`, given SMGR's responses to the all sensor info request and to
the single sensor info request for each sensor id. -/
def getSensors (room : List PlatformSensor → Bool)
    (sensorListResponse : Option AllSensorInfoResp)
    (singleSensorInfo : UInt8 → Option SingleSensorInfoResp) (sensors : List PlatformSensor) :
    Except String (Bool × List PlatformSensor) :=
  match sensorListResponse with
  | none => .ok (false, sensors)
  | some resp =>
    if resp.result ≠ api.resultSuccess then .ok (false, sensors)
    else getSensorsFrom api room singleSensorInfo resp.sensorIds sensors

/-! ### Requests -/

def getSmgrRequestActionForMode (mode : SensorMode) : UInt8 :=
  if sensorModeIsActive mode then api.bufferingActionAdd else api.bufferingActionDelete

/-- `populateSensorRequest`: one item for the sensor, and a dummy primary item beside a
secondary temperature sensor. -/
def populateSensorRequest (request : SensorRequest) (sensorId dataType calType : UInt8) :
    BufferingReq :=
  let reportId := getReportId api sensorId dataType calType
  let batchingInterval :=
    if request.latency > request.interval then request.latency else request.interval
  let item : BufferingReqItem := ⟨sensorId, dataType, api.decimationRecentSample, calType,
    api.intervalToSmgrSamplingRate request.interval⟩
  let items := if isSecondaryTemperature reportId then
      [item, ⟨sensorId, api.dataTypePrimary, api.decimationRecentSample, api.calSelFullCal,
        item.samplingRate⟩]
    else [item]
  ⟨reportId, getSmgrRequestActionForMode api request.mode,
    api.intervalToSmgrQ16ReportRate batchingInterval, items⟩

/-- `PlatformSensor::setRequest`; `memoryAlloc` is whether both messages were allocated, and
`buffering` SMGR's response to a buffering request. -/
def setRequest (sensor : PlatformSensor) (request : SensorRequest) (memoryAlloc : Bool)
    (buffering : BufferingReq → Option BufferingResp) : Bool :=
  if !memoryAlloc then false
  else
    match buffering (populateSensorRequest api request sensor.sensorId sensor.dataType
        sensor.calType) with
    | none => false
    | some resp => resp.result == api.resultSuccess &&
        (resp.ackNak == api.responseAckSuccess || resp.ackNak == api.responseAckModified)

/-! ### Indications -/

/-- `getNanosecondsFromSmgrTicks`: `uint64_t` arithmetic, `Seconds(1).toRawNanoseconds()` being
`10⁹`. -/
def getNanosecondsFromSmgrTicks (ticks : UInt32) : UInt64 :=
  (ticks.toUInt64 * 1000000000) / api.timetickNominalFreqHz

def populateSensorDataHeader (sensorType : SensorType) (sensorIndex : BufferingSampleIndex) :
    SensorDataHeader :=
  ⟨getNanosecondsFromSmgrTicks api sensorIndex.firstSampleTimestamp,
    api.getSensorHandleFromSensorType sensorType, sensorIndex.sampleCount.toUInt16⟩

/-- The reading of `populateThreeAxisEvent` or `populateFloatEvent` made from the `i`-th sample
of `sensorIndex`, with `axes` the values it takes from the sample's data. The `uint64_t`
nanoseconds are stored in the `uint32_t` `timestampDelta`. -/
def populateReading (msg : BufferingInd) (sensorIndex : BufferingSampleIndex)
    (axes : List Int → List Int) (i : Nat) : Option SensorReading :=
  (msg.samples[i + sensorIndex.firstSampleIdx.toNat]?).map fun sensorData =>
    ⟨(getNanosecondsFromSmgrTicks api sensorData.timeStampOffset).toUInt32, axes sensorData.data⟩

/-- `populateThreeAxisEvent`: from SMGR's NED axes to Android's, `x` from `Data[1]`, `y` from
`Data[0]` and `z` from `-Data[2]`. -/
def populateThreeAxisEvent (sensorType : SensorType) (msg : BufferingInd)
    (sensorIndex : BufferingSampleIndex) : SensorEvent :=
  ⟨populateSensorDataHeader api sensorType sensorIndex,
    (List.range sensorIndex.sampleCount.toNat).map
      (populateReading api msg sensorIndex fun data => [data.getD 1 0, data.getD 0 0, -data.getD 2 0])⟩

/-- `populateFloatEvent`: the value from `Data[0]`. -/
def populateFloatEvent (sensorType : SensorType) (msg : BufferingInd)
    (sensorIndex : BufferingSampleIndex) : SensorEvent :=
  ⟨populateSensorDataHeader api sensorType sensorIndex,
    (List.range sensorIndex.sampleCount.toNat).map
      (populateReading api msg sensorIndex fun data => [data.getD 0 0])⟩

/-- `allocateAndPopulateEvent`; `memoryAlloc` is whether the event's memory was allocated. -/
def allocateAndPopulateEvent (sensorType : SensorType) (msg : BufferingInd)
    (sensorIndex : BufferingSampleIndex) (memoryAlloc : Bool) : Option SensorEvent :=
  match api.getSensorSampleTypeFromSensorType sensorType with
  | .threeAxis => if memoryAlloc then some (populateThreeAxisEvent api sensorType msg sensorIndex)
    else none
  | .float => if memoryAlloc then some (populateFloatEvent api sensorType msg sensorIndex) else none
  | _ => none

/-- The index of `Indices` whose samples `handleSensorDataIndication` reads: `0`, or for a
secondary temperature sensor the one whose data type is secondary, taking the second when the
first is not. -/
def indicationIndex (msg : BufferingInd) : Nat :=
  if isSecondaryTemperature msg.reportId then
    if (msg.indices.head?.map (·.dataType)) = some api.dataTypeSecondary then 0 else 1
  else 0

/-- `handleSensorDataIndication`, given what `qmi_client_message_decode` decoded (`none` for a
decoding error), with the event it posts through `EventLoopManager::postEvent`, with its event
type, if any. -/
def handleSensorDataIndication (decoded : Option BufferingInd) (memoryAlloc : Bool) :
    Except String (Option (UInt16 × SensorEvent)) :=
  match decoded with
  | none => .ok none
  | some msg =>
    if isValidIndicesLength msg then
      match msg.indices[indicationIndex api msg]? with
      | none => .ok none
      | some sensorIndex =>
        let sensorType := getSensorTypeFromReportId msg.reportId
        if sensorType = .unknown then .ok none
        else
          match allocateAndPopulateEvent api sensorType msg sensorIndex memoryAlloc with
          | none => .ok none
          | some event =>
            (getSampleEventTypeForSensorType sensorType).map fun eventType => some (eventType, event)
    else .ok none

/-- `platformSensorQmiIndicationCallback`: only buffering indications are handled. -/
def platformSensorQmiIndicationCallback (messageId : UInt32) (decoded : Option BufferingInd)
    (memoryAlloc : Bool) : Except String (Option (UInt16 × SensorEvent)) :=
  if messageId = api.bufferingInd then handleSensorDataIndication api decoded memoryAlloc
  else .ok none

/-- An `SmgrApi` for statements at concrete inputs: the sensor id ranges ten apart, in the order
the code relies on, the SMGR's 19.2 MHz timetick, and the CHRE API's sample layouts. -/
def sampleSmgrApi : SmgrApi where
  dataTypePrimary := 0
  dataTypeSecondary := 1
  calSelFullCal := 0
  calSelFactoryCal := 1
  idAccel := 0
  idGyro := 10
  idMag := 20
  idPressure := 30
  idProxLight := 40
  idHumidity := 50
  idUltraViolet := 60
  idObjectTemp := 70
  bufferingActionAdd := 1
  bufferingActionDelete := 2
  decimationRecentSample := 2
  resultSuccess := 0
  responseAckSuccess := 0
  responseAckModified := 1
  bufferingInd := 0x22
  timetickNominalFreqHz := 19200000
  intervalToSmgrQ16ReportRate _ := 0
  intervalToSmgrSamplingRate _ := 0
  getSensorSampleTypeFromSensorType
    | .accelerometer | .gyroscope | .geomagneticField | .uncalibratedAccelerometer
    | .uncalibratedGyroscope | .uncalibratedGeomagneticField => .threeAxis
    | .pressure | .light | .accelerometerTemperature | .gyroscopeTemperature => .float
    | .proximity => .byte
    | .instantMotion | .stationaryDetect => .occupancy
    | .unknown => .unknown
  getSensorHandleFromSensorType t := t.toUInt8.toUInt32
  dataType_ne := by decide
  calSel_ne := by decide
  timetickNominalFreqHz_pos := by decide

/-! ### Results of fallible code -/

theorem bind_eq_ok {α β : Type} {x : Except String α} {f : α → Except String β} {b : β}
    (h : x >>= f = .ok b) : ∃ a, x = .ok a ∧ f a = .ok b := by
  cases x with
  | error => cases h
  | ok a => exact ⟨a, rfl, h⟩

theorem map_eq_ok {α β : Type} {f : α → β} {x : Except String α} {b : β}
    (h : x.map f = .ok b) : ∃ a, x = .ok a ∧ f a = b := by
  cases x with
  | error => cases h
  | ok a => exact ⟨a, rfl, Except.ok.inj h⟩

end PlatformSensor

end Chre

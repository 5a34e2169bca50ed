import Mathlib.Data.UInt

/-!
# Sensor types

`SensorType` as `core/sensors.cc` and `platform/slpi/platform_sensor.cc` use it, with
`getSampleEventTypeForSensorType`, the event type of a sensor's samples.

The header that declares the enumeration is not under `src/`. The model takes the sensor types
that the two files name, in the order of the spec's taxonomy, and numbers each by its position
(`static_cast<uint8_t>`). `platform_sensor.cc` relies on that numbering when it casts a report id
below `SENSOR_TYPE_COUNT` back to a sensor type: the cast inverts the numbering
(`ofUInt8_toUInt8`), and every type's number is below the count (`toUInt8_lt_sensorTypeCount`).
-/

namespace Chre

/-- Modelled from the code's uses and the spec: `SensorType`. -/
inductive SensorType
  | unknown
  | accelerometer
  | instantMotion
  | stationaryDetect
  | gyroscope
  | geomagneticField
  | pressure
  | light
  | proximity
  | accelerometerTemperature
  | gyroscopeTemperature
  | uncalibratedAccelerometer
  | uncalibratedGyroscope
  | uncalibratedGeomagneticField
  deriving DecidableEq, Repr

namespace SensorType

/-- `static_cast<uint8_t>(sensorType)`. -/
def toUInt8 : SensorType → UInt8
  | unknown => 0
  | accelerometer => 1
  | instantMotion => 2
  | stationaryDetect => 3
  | gyroscope => 4
  | geomagneticField => 5
  | pressure => 6
  | light => 7
  | proximity => 8
  | accelerometerTemperature => 9
  | gyroscopeTemperature => 10
  | uncalibratedAccelerometer => 11
  | uncalibratedGyroscope => 12
  | uncalibratedGeomagneticField => 13

/-- `static_cast<uint8_t>(SensorType::SENSOR_TYPE_COUNT)`. -/
def sensorTypeCount : UInt8 := 14

/-- `static_cast<SensorType>(value)`, for a value below `SENSOR_TYPE_COUNT`. -/
def ofUInt8 (value : UInt8) : SensorType :=
  match value.toNat with
  | 1 => accelerometer
  | 2 => instantMotion
  | 3 => stationaryDetect
  | 4 => gyroscope
  | 5 => geomagneticField
  | 6 => pressure
  | 7 => light
  | 8 => proximity
  | 9 => accelerometerTemperature
  | 10 => gyroscopeTemperature
  | 11 => uncalibratedAccelerometer
  | 12 => uncalibratedGyroscope
  | 13 => uncalibratedGeomagneticField
  | _ => unknown

@[simp] theorem ofUInt8_toUInt8 (t : SensorType) : ofUInt8 t.toUInt8 = t := by
  cases t <;> rfl

theorem toUInt8_lt_sensorTypeCount (t : SensorType) : t.toUInt8 < sensorTypeCount := by
  cases t <;> decide

end SensorType

/-- Modelled from the spec: `CHRE_EVENT_SENSOR_DATA_EVENT_BASE`, where the event types of
sensor samples start. -/
def chreEventSensorDataEventBase : UInt16 := 0x0100

/-- `getSampleEventTypeForSensorType`; `FATAL_ERROR` is an `Except.error` carrying its
message. -/
def getSampleEventTypeForSensorType (sensorType : SensorType) : Except String UInt16 :=
  if sensorType = .unknown then
    .error "Tried to obtain the sensor sample event index for an unknown sensor type"
  else .ok (chreEventSensorDataEventBase + sensorType.toUInt8.toUInt16)

end Chre

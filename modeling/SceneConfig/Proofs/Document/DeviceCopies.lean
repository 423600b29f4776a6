/- When a device copies a record: every field is the member it is read from.
   A record is read as a device exactly when the device copies it. -/
import Mathlib.Data.List.Forall2
import SceneConfig.Proofs.Document.Members
import SceneConfig.Proofs.Document.Results

namespace SceneConfig
open Json (Value)
variable {π ε α β : Type}

theorem mapM_eq_ok_iff {f : α → Except ε β} {xs : List α} {ys : List β} :
    xs.mapM f = .ok ys ↔ List.Forall₂ (fun x y => f x = .ok y) xs ys := by
  induction xs generalizing ys with
  | nil => cases ys <;> simp [pure, Except.pure]
  | cons x xs ih =>
      rw [List.mapM_cons, List.forall₂_cons_left_iff]
      change ((f x).bind fun y => (xs.mapM f).bind fun ys => .ok (y :: ys)) = _ ↔ _
      simp only [bind_eq_ok_iff, ih, Except.ok.injEq, exists_and_left, eq_comm (b := ys)]

structure SwitchDevice.Copies (record : Value) (position : Nat) (device : SwitchDevice) :
    Prop where
  id : device.id = position
  name : record.get? "name" = some (.string device.name)
  getTopic : record.get? "getTopic" = some (.string device.getTopic)
  setTopic : record.get? "setTopic" = some (.string device.setTopic)
  onValue : record.get? "onValue" = some (.string device.onValue)
  offValue : record.get? "offValue" = some (.string device.offValue)

structure MappedValue.Copies (record : Value) (reading : String) (value : MappedValue) :
    Prop where
  key : value.key = reading
  jsonPath : record.get? reading = some (.string value.jsonPath)
  placeholder : value.placeholder = "0"

structure SensorDevice.Copies (record : Value) (position : Nat) (device : SensorDevice) :
    Prop where
  id : device.id = position
  name : record.get? "name" = some (.string device.name)
  getTopic : record.get? "getTopic" = some (.string device.getTopic)
  kind : record.get? "type" = some (.string device.kind.name)
  flag : ∃ flag? : Option Bool, record.get? "jsondata" = flag?.map Value.bool
  encoding : device.encoding = .json ↔ record.get? "jsondata" = some (.bool true)
  raw : device.encoding = .raw → device.mappedValues = []
  json : device.encoding = .json →
    List.Forall₂ (MappedValue.Copies record) device.kind.readingKeys device.mappedValues

/-- A combined JSON sensor is not among several devices. -/
def SensorDevice.Fits (count : Nat) (device : SensorDevice) : Prop :=
  device.encoding = .json → device.kind.isCombined = true → count ≤ 1

theorem SwitchDevice.ofRecord_eq_ok_iff {record : Value} {position : Nat} {place : π}
    {device : SwitchDevice} :
    SwitchDevice.ofRecord record position place = .ok device ↔
      device.Copies record position := by
  simp only [SwitchDevice.ofRecord, bind_eq, bind_eq_ok_iff, Value.requireText_eq_ok_iff]
  constructor
  · intro h
    obtain ⟨name, hn, getTopic, hg, setTopic, hs, onValue, hv, offValue, hf, same⟩ := h
    cases same
    exact ⟨rfl, hn, hg, hs, hv, hf⟩
  · intro h
    obtain ⟨id, hn, hg, hs, hv, hf⟩ := h
    subst id
    exact ⟨_, hn, _, hg, _, hs, _, hv, _, hf, rfl⟩

theorem SwitchDevice.Copies.isObject {record : Value} {position : Nat} {device : SwitchDevice}
    (h : device.Copies record position) : record.isObject = true :=
  Value.isObject_of_get? h.name

theorem SensorDevice.Copies.isObject {record : Value} {position : Nat} {device : SensorDevice}
    (h : device.Copies record position) : record.isObject = true :=
  Value.isObject_of_get? h.name

theorem MappedValue.ofRecord_eq_ok_iff {record : Value} {place : π} {reading : String}
    {value : MappedValue} :
    MappedValue.ofRecord record place reading = .ok value ↔ value.Copies record reading := by
  simp only [MappedValue.ofRecord, bind_eq, bind_eq_ok_iff, Value.requireText_eq_ok_iff]
  constructor
  · intro h
    obtain ⟨jsonPath, hp, same⟩ := h
    cases same
    exact ⟨rfl, hp, rfl⟩
  · intro h
    obtain ⟨hk, hp, hd⟩ := h
    refine ⟨value.jsonPath, hp, ?_⟩
    rw [← hk, ← hd]
    rfl

namespace SensorKind

theorem ofName?_name (kind : SensorKind) : ofName? kind.name = some kind := by
  cases kind <;> decide

theorem ofName?_eq_some_iff {name : String} {kind : SensorKind} :
    ofName? name = some kind ↔ kind.name = name := by
  constructor
  · intro h
    have found := List.find?_some h
    exact of_decide_eq_true found
  · rintro rfl
    exact ofName?_name kind

theorem name_injective {kind other : SensorKind} (h : kind.name = other.name) : kind = other := by
  have same := congrArg ofName? h
  rw [ofName?_name, ofName?_name] at same
  exact Option.some.inj same

theorem isCombined_eq_true_iff {kind : SensorKind} :
    kind.isCombined = true ↔ kind = .temperatureHumidity := by
  cases kind <;> decide

end SensorKind

namespace SensorDevice

theorem readKind_eq_ok_iff {record : Value} {place : π} {kind : SensorKind} :
    readKind record place = .ok kind ↔ record.get? "type" = some (.string kind.name) := by
  simp only [readKind, bind_eq, bind_eq_ok_iff, Value.requireText_eq_ok_iff]
  constructor
  · intro h
    obtain ⟨name, hn, h⟩ := h
    cases hk : SensorKind.ofName? name with
    | none => rw [hk] at h; cases h
    | some found =>
        rw [hk] at h
        cases h
        rw [SensorKind.ofName?_eq_some_iff.mp hk]
        exact hn
  · intro h
    refine ⟨kind.name, h, ?_⟩
    rw [SensorKind.ofName?_name]
    rfl

/-- A flag that is absent says the same as `false`. -/
theorem readEncoding_eq_ok_iff {record : Value} {place : π} {encoding : Encoding} :
    readEncoding record place = .ok encoding ↔
      (∃ flag? : Option Bool, record.get? "jsondata" = flag?.map Value.bool) ∧
        (encoding = .json ↔ record.get? "jsondata" = some (.bool true)) := by
  simp only [readEncoding, bind_eq, bind_eq_ok_iff, Value.optionalFlag_eq_ok_iff]
  rw [← exists_and_right]
  apply exists_congr
  intro flag?
  apply and_congr_right
  intro h
  rw [h]
  cases flag? with
  | none => cases encoding <;> simp [pure, Except.pure]
  | some b => cases b <;> cases encoding <;> simp [pure, Except.pure]

theorem readMappedValues_raw_eq_ok_iff {record : Value} {kind : SensorKind} {count : Nat}
    {place : π} {values : List MappedValue} :
    readMappedValues record kind .raw count place = .ok values ↔ values = [] := by
  change Except.ok [] = _ ↔ _
  rw [Except.ok.injEq, eq_comm]

/-- The first step of a JSON sensor, before its readings. -/
def requireAlone (kind : SensorKind) (count : Nat) (place : π) : Except (Fault π) Unit :=
  if kind.isCombined && count > 1 then .error (.notAlone kind count place) else .ok ()

theorem requireAlone_eq_ok_iff {kind : SensorKind} {count : Nat} {place : π} {done : Unit} :
    requireAlone kind count place = .ok done ↔ (kind.isCombined = true → count ≤ 1) := by
  rw [requireAlone, ← Nat.not_lt]
  cases kind.isCombined <;> simp

theorem requireAlone_eq_error {kind : SensorKind} {count : Nat} {place : π} {fault : Fault π}
    (h : requireAlone kind count place = .error fault) :
    fault = .notAlone kind count place ∧ kind.isCombined = true ∧ 1 < count := by
  rw [requireAlone] at h
  split at h
  · rename_i crowded
    rw [Bool.and_eq_true, decide_eq_true_eq] at crowded
    cases h
    exact ⟨rfl, crowded⟩
  · cases h

theorem readMappedValues_json (record : Value) (kind : SensorKind) (count : Nat) (place : π) :
    readMappedValues record kind .json count place =
      (requireAlone kind count place).bind fun _ =>
        kind.readingKeys.mapM (MappedValue.ofRecord record place) := by
  rw [readMappedValues, requireAlone]
  split <;> rfl

theorem readMappedValues_json_eq_ok_iff {record : Value} {kind : SensorKind} {count : Nat}
    {place : π} {values : List MappedValue} :
    readMappedValues record kind .json count place = .ok values ↔
      (kind.isCombined = true → count ≤ 1) ∧
        List.Forall₂ (MappedValue.Copies record) kind.readingKeys values := by
  simp only [readMappedValues_json, bind_eq_ok_iff, requireAlone_eq_ok_iff, mapM_eq_ok_iff,
    MappedValue.ofRecord_eq_ok_iff, exists_const]

theorem ofRecord_eq_ok_iff {record : Value} {position count : Nat} {place : π}
    {device : SensorDevice} :
    SensorDevice.ofRecord record position count place = .ok device ↔
      device.Copies record position ∧ device.Fits count := by
  simp only [SensorDevice.ofRecord, bind_eq, bind_eq_ok_iff, Value.requireText_eq_ok_iff,
    readKind_eq_ok_iff, readEncoding_eq_ok_iff]
  constructor
  · intro h
    obtain ⟨name, hn, getTopic, hg, kind, hk, encoding, ⟨hf, he⟩, values, hm, same⟩ := h
    cases same
    cases encoding with
    | raw =>
        have none := readMappedValues_raw_eq_ok_iff.mp hm
        exact ⟨⟨rfl, hn, hg, hk, hf, he, fun _ => none, fun h => nomatch h⟩,
          fun h => nomatch h⟩
    | json =>
        obtain ⟨hc, hv⟩ := readMappedValues_json_eq_ok_iff.mp hm
        exact ⟨⟨rfl, hn, hg, hk, hf, he, (fun h => nomatch h), fun _ => hv⟩,
          fun _ => hc⟩
  · intro h
    obtain ⟨⟨id, hn, hg, hk, hf, he, hr, hj⟩, fits⟩ := h
    subst id
    refine ⟨_, hn, _, hg, _, hk, device.encoding, ⟨hf, he⟩, device.mappedValues, ?_, rfl⟩
    cases h : device.encoding with
    | raw => exact readMappedValues_raw_eq_ok_iff.mpr (hr h)
    | json => exact readMappedValues_json_eq_ok_iff.mpr ⟨fits h, hj h⟩

end SensorDevice

end SceneConfig

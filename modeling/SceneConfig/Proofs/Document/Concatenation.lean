/- Scenes behind other scenes: their groups and faults are those of the scenes alone, moved by the
   number of scenes in front. Scenes of unknown type are counted too. -/
import SceneConfig.Proofs.Document.Agreement
import SceneConfig.Proofs.Document.Diagnosis

namespace SceneConfig
open Json (Value)
variable {δ : Type}

def Place.shift (n : Nat) : Place → Place
  | .document => .document
  | .scene i => .scene (i + n)
  | .device i j => .device (i + n) j

/-- The slot of a device stays where it is in its scene. -/
def Subject.shift (n : Nat) : Subject → Subject
  | .member key => .member key
  | .scene i => .scene (i + n)
  | .device j => .device j

namespace Fault

def shift (n : Nat) : Fault Place → Fault Place
  | .missing key place => .missing key (place.shift n)
  | .wrongShape subject place expected =>
    .wrongShape (subject.shift n) (place.shift n) expected
  | .unknownSensor name place => .unknownSensor name (place.shift n)
  | .notAlone kind count place => .notAlone kind count (place.shift n)

/-- The position of the scene that a fault lies in: part of its location, or of the field when the
scene itself is no object. -/
def scene? : Fault Place → Option Nat
  | .wrongShape (.scene i) .document _ => some i
  | fault =>
    match fault.place with
    | .document => none
    | .scene i => some i
    | .device i _ => some i

/-- The field that a fault names, if it names one. -/
def field? : Fault Place → Option String
  | .missing key _ => some key
  | .wrongShape subject _ _ => some subject.text
  | .unknownSensor .. | .notAlone .. => none

end Fault

def DeviceGroup.shift (n : Nat) (group : DeviceGroup δ) : DeviceGroup δ :=
  { group with id := group.id + n }

def Group.shift (n : Nat) : Group → Group
  | .switch group => .switch (group.shift n)
  | .sensor group => .sensor (group.shift n)

/-- The index of the scene is all that the texts of the faults differ in. It leads the location, or
it is the field when the scene itself is no object. -/
inductive TextsMoved (n i : Nat) (fault moved : Fault Place) : Prop
  | location (rest : String) : fault.place.text = "scenes[" ++ toString i ++ "]" ++ rest →
      moved.place.text = "scenes[" ++ toString (i + n) ++ "]" ++ rest →
      moved.field? = fault.field? → TextsMoved n i fault moved
  | field : fault.place.text = "document" → moved.place.text = "document" →
      fault.field? = some ("scenes[" ++ toString i ++ "]") →
      moved.field? = some ("scenes[" ++ toString (i + n) ++ "]") → TextsMoved n i fault moved

/-- The second fault is the first one, of the scene at position `i`, moved by `n` scenes. -/
structure MovedFault (n i : Nat) (fault moved : Fault Place) : Prop where
  scene : fault.scene? = some i
  shifted : moved = fault.shift n
  texts : TextsMoved n i fault moved

/-- A node of the scene at position `i`. -/
def Place.Within (i : Nat) (place : Place) : Prop :=
  place = .scene i ∨ ∃ j, place = .device i j

theorem Place.Within.exists_text {i : Nat} {place : Place} (inside : place.Within i) (n : Nat) :
    ∃ rest, place.text = "scenes[" ++ toString i ++ "]" ++ rest ∧
      (place.shift n).text = "scenes[" ++ toString (i + n) ++ "]" ++ rest := by
  rcases inside with rfl | ⟨j, rfl⟩
  · exact ⟨"", String.append_empty.symm, String.append_empty.symm⟩
  · have split (k : Nat) : (Place.device k j).text =
        "scenes[" ++ toString k ++ "]" ++ (".devices[" ++ toString j ++ "]") := by
      rw [← String.toList_inj]
      unfold Place.text
      simp [ToString.toString]
    exact ⟨_, split i, split (i + n)⟩

theorem Fault.place_shift (n : Nat) (fault : Fault Place) :
    (fault.shift n).place = fault.place.shift n := by
  cases fault <;> rfl

theorem Fault.scene?_of_within {i : Nat} {fault : Fault Place} (inside : fault.place.Within i) :
    fault.scene? = some i := by
  cases fault with
  | missing key place => rcases inside with rfl | ⟨j, rfl⟩ <;> rfl
  | wrongShape subject place expected =>
      rcases inside with rfl | ⟨j, rfl⟩
      · cases subject <;> rfl
      · cases subject <;> rfl
  | unknownSensor name place => rcases inside with rfl | ⟨j, rfl⟩ <;> rfl
  | notAlone kind count place => rcases inside with rfl | ⟨j, rfl⟩ <;> rfl

/-- A fault inside a scene moves with its location alone. -/
theorem MovedFault.of_within {n i : Nat} {fault : Fault Place} (inside : fault.place.Within i)
    (field : (fault.shift n).field? = fault.field?) : MovedFault n i fault (fault.shift n) := by
  obtain ⟨rest, here, there⟩ := inside.exists_text n
  rw [← Fault.place_shift] at there
  exact ⟨Fault.scene?_of_within inside, rfl, .location rest here there field⟩

section
variable {n i : Nat} {place : Place} {v : Value}

theorem movedFault_blame (inside : place.Within i) (key : String) (expected : Shape) :
    MovedFault n i (v.blame key place expected) (v.blame key (place.shift n) expected) := by
  rw [Value.blame, Value.blame]
  split
  · exact .of_within inside rfl
  · exact .of_within inside rfl

theorem requireText_shift (inside : place.Within i) (key : String) :
    Agree (MovedFault n i) Eq (v.requireText key place) (v.requireText key (place.shift n)) := by
  rw [Value.requireText, Value.requireText]
  cases v.getText? key with
  | some s => exact .ok rfl
  | none => exact .error (movedFault_blame inside key .text)

theorem requireItems_shift (inside : place.Within i) (key : String) :
    Agree (MovedFault n i) Eq (v.requireItems key place)
      (v.requireItems key (place.shift n)) := by
  rw [Value.requireItems, Value.requireItems]
  cases v.getItems? key with
  | some items => exact .ok rfl
  | none => exact .error (movedFault_blame inside key .list)

theorem optionalFlag_shift (inside : place.Within i) (key : String) :
    Agree (MovedFault n i) Eq (v.optionalFlag key place)
      (v.optionalFlag key (place.shift n)) := by
  rw [Value.optionalFlag, Value.optionalFlag]
  cases v.getFlag? key with
  | some b => exact .ok rfl
  | none =>
      cases v.has key with
      | true => exact .error (movedFault_blame inside key .flag)
      | false => exact .ok rfl

theorem SwitchDevice.ofRecord_shift (inside : place.Within i) (id : Nat) :
    Agree (MovedFault n i) Eq (SwitchDevice.ofRecord v id place)
      (SwitchDevice.ofRecord v id (place.shift n)) := by
  apply (requireText_shift inside "name").bind
  rintro name _ rfl
  apply (requireText_shift inside "getTopic").bind
  rintro getTopic _ rfl
  apply (requireText_shift inside "setTopic").bind
  rintro setTopic _ rfl
  apply (requireText_shift inside "onValue").bind
  rintro onValue _ rfl
  apply (requireText_shift inside "offValue").bind
  rintro offValue _ rfl
  exact .ok rfl

namespace SensorDevice

theorem readKind_shift (inside : place.Within i) :
    Agree (MovedFault n i) Eq (readKind v place) (readKind v (place.shift n)) := by
  apply (requireText_shift inside "type").bind
  rintro name _ rfl
  cases SensorKind.ofName? name with
  | some kind => exact .ok rfl
  | none => exact .error (.of_within inside rfl)

theorem readEncoding_shift (inside : place.Within i) :
    Agree (MovedFault n i) Eq (readEncoding v place) (readEncoding v (place.shift n)) := by
  apply (optionalFlag_shift inside "jsondata").bind
  rintro flag? _ rfl
  exact .ok rfl

theorem requireAlone_shift (inside : place.Within i) (kind : SensorKind) (count : Nat) :
    Agree (MovedFault n i) Eq (requireAlone kind count place)
      (requireAlone kind count (place.shift n)) := by
  rw [requireAlone, requireAlone]
  split
  · exact .error (.of_within inside rfl)
  · exact .ok rfl

theorem readReadings_shift (inside : place.Within i) (keys : List String) :
    Agree (MovedFault n i) Eq (keys.mapM (MappedValue.ofRecord v place))
      (keys.mapM (MappedValue.ofRecord v (place.shift n))) := by
  induction keys with
  | nil => exact .ok rfl
  | cons key keys ih =>
      have reading : Agree (MovedFault n i) Eq (MappedValue.ofRecord v place key)
          (MappedValue.ofRecord v (place.shift n) key) := by
        apply (requireText_shift inside key).bind
        rintro jsonPath _ rfl
        exact .ok rfl
      rw [List.mapM_cons, List.mapM_cons]
      apply reading.bind
      rintro value _ rfl
      apply ih.bind
      rintro values _ rfl
      exact .ok rfl

theorem readMappedValues_shift (inside : place.Within i) (kind : SensorKind)
    (encoding : Encoding) (count : Nat) :
    Agree (MovedFault n i) Eq (readMappedValues v kind encoding count place)
      (readMappedValues v kind encoding count (place.shift n)) := by
  cases encoding with
  | raw => exact .ok rfl
  | json =>
      rw [readMappedValues_json, readMappedValues_json]
      apply (requireAlone_shift inside kind count).bind
      intro _ _ _
      exact readReadings_shift inside kind.readingKeys

theorem ofRecord_shift (inside : place.Within i) (id count : Nat) :
    Agree (MovedFault n i) Eq (SensorDevice.ofRecord v id count place)
      (SensorDevice.ofRecord v id count (place.shift n)) := by
  apply (requireText_shift inside "name").bind
  rintro name _ rfl
  apply (requireText_shift inside "getTopic").bind
  rintro getTopic _ rfl
  apply (readKind_shift inside).bind
  rintro kind _ rfl
  apply (readEncoding_shift inside).bind
  rintro encoding _ rfl
  apply (readMappedValues_shift inside kind encoding count).bind
  rintro values _ rfl
  exact .ok rfl

end SensorDevice

theorem readDevices_shift {read : Value → Nat → Place → Except (Fault Place) δ}
    {topic : δ → String}
    (reads : ∀ record index, Agree (MovedFault n i) Eq (read record index (.device i index))
      (read record index (.device (i + n) index)))
    (index : Nat) (devices : TopicList δ) (records : List Value) :
    Agree (MovedFault n i) Eq (readDevices i read topic index devices records).result
      (readDevices (i + n) read topic index devices records).result := by
  induction records generalizing index devices with
  | nil => exact .ok rfl
  | cons record records ih =>
      rw [result_readDevices_cons, result_readDevices_cons]
      split
      · apply (reads record index).bind
        rintro device _ rfl
        exact ih (index + 1) (devices.push (topic device) device)
      · exact .error (.of_within (.inl rfl) rfl)

theorem DeviceGroup.ofScene_shift {read : (count : Nat) → Value → Nat → Place →
      Except (Fault Place) δ} {topic : δ → String}
    (reads : ∀ count record index, Agree (MovedFault n i) Eq
      (read count record index (.device i index))
      (read count record index (.device (i + n) index))) :
    Agree (MovedFault n i) (fun group moved => moved = group.shift n)
      (DeviceGroup.ofScene v i read topic).result
      (DeviceGroup.ofScene v (i + n) read topic).result := by
  have inside : (Place.scene i).Within i := .inl rfl
  rw [DeviceGroup.result_ofScene, DeviceGroup.result_ofScene]
  apply (requireText_shift inside "name").bind
  rintro name _ rfl
  apply (requireText_shift inside "icon").bind
  rintro icon _ rfl
  apply (requireItems_shift inside "devices").bind
  rintro records _ rfl
  apply (readDevices_shift (reads records.length) 0 .empty records).map
  rintro devices _ rfl
  rfl

theorem Group.ofKind_shift (kind : GroupKind) :
    Agree (MovedFault n i) (fun group moved => moved = group.shift n)
      (Group.ofKind kind v i).result (Group.ofKind kind v (i + n)).result := by
  have inside (j : Nat) : (Place.device i j).Within i := .inr ⟨j, rfl⟩
  cases kind with
  | switch =>
      rw [Group.result_ofKind_switch, Group.result_ofKind_switch]
      apply (DeviceGroup.ofScene_shift fun _ _ index =>
        SwitchDevice.ofRecord_shift (inside index) index).map
      rintro group _ rfl
      rfl
  | sensor =>
      rw [Group.result_ofKind_sensor, Group.result_ofKind_sensor]
      apply (DeviceGroup.ofScene_shift fun count _ index =>
        SensorDevice.ofRecord_shift (inside index) index count).map
      rintro group _ rfl
      rfl

/-- The position of a scene only shows in the id of its group, or in where its fault lies. -/
theorem Group.ofScene?_shift :
    Agree (MovedFault n i) (fun group? moved? => moved? = group?.map (Group.shift n))
      (Group.ofScene? v i).result (Group.ofScene? v (i + n)).result := by
  have inside : (Place.scene i).Within i := .inl rfl
  rw [Group.result_ofScene?, Group.result_ofScene?]
  split
  · apply (requireText_shift inside "type").bind
    rintro type _ rfl
    cases GroupKind.ofSceneType? type with
    | none => exact .ok rfl
    | some kind =>
        apply (Group.ofKind_shift kind).map
        rintro group _ rfl
        rfl
  · exact .error ⟨rfl, rfl, .field rfl rfl rfl rfl⟩

end

theorem Fault.scene?_shift (n : Nat) (fault : Fault Place) :
    (fault.shift n).scene? = fault.scene?.map (· + n) := by
  cases fault with
  | missing key place => cases place <;> rfl
  | wrongShape subject place expected => cases subject <;> cases place <;> rfl
  | unknownSensor name place => cases place <;> rfl
  | notAlone kind count place => cases place <;> rfl

/-- The faults lie in one of `count` scenes from position `start` on. -/
def MovedAmong (n start count : Nat) (fault moved : Fault Place) : Prop :=
  ∃ i, start ≤ i ∧ i < start + count ∧ MovedFault n i fault moved

theorem Group.ofScenes_shift (start n : Nat) (scenes : List Value) :
    Agree (MovedAmong n start scenes.length)
      (fun groups moved => moved = groups.map (Group.shift n))
      (Group.ofScenes start scenes).result (Group.ofScenes (start + n) scenes).result := by
  -- A fault lies in the first scene or in one behind it, so the start varies.
  induction scenes generalizing start with
  | nil => exact .ok rfl
  | cons scene scenes ih =>
      have here (fault moved : Fault Place) (h : MovedFault n start fault moved) :
          MovedAmong n start (scenes.length + 1) fault moved :=
        ⟨start, Nat.le_refl start, by omega, h⟩
      have behind (fault moved : Fault Place)
          (h : MovedAmong n (start + 1) scenes.length fault moved) :
          MovedAmong n start (scenes.length + 1) fault moved := by
        obtain ⟨i, low, high, h⟩ := h
        exact ⟨i, by omega, by omega, h⟩
      rw [Group.result_ofScenes_cons, Group.result_ofScenes_cons, Nat.add_right_comm]
      apply (Group.ofScene?_shift.mono here fun _ _ same => same).bind
      rintro group? _ rfl
      apply ((ih (start + 1)).mono behind fun _ _ same => same).map
      rintro groups _ rfl
      cases group? <;> rfl

/-- The scenes behind `xs` start where `xs` ends. -/
theorem Group.result_ofScenes_append (start : Nat) (xs ys : List Value) :
    (Group.ofScenes start (xs ++ ys)).result =
      (Group.ofScenes start xs).result.bind fun groups =>
        (Group.ofScenes (start + xs.length) ys).result.map (groups ++ ·) := by
  induction xs generalizing start with
  | nil =>
      rw [List.nil_append, Group.result_ofScenes_nil]
      change _ = (Group.ofScenes start ys).result.map _
      cases (Group.ofScenes start ys).result <;> rfl
  | cons scene xs ih =>
      have position : start + (xs.length + 1) = start + 1 + xs.length := by omega
      rw [List.cons_append, Group.result_ofScenes_cons, Group.result_ofScenes_cons,
        List.length_cons, position]
      cases (Group.ofScene? scene start).result with
      | error fault => rfl
      | ok group? =>
          simp only [Except.bind, ih]
          cases (Group.ofScenes (start + 1) xs).result with
          | error fault => rfl
          | ok groups =>
              simp only [Except.map]
              cases (Group.ofScenes (start + 1 + xs.length) ys).result with
              | error fault => rfl
              | ok others => simp only [List.append_assoc]

/-- The groups of `ys` behind `xs` are its own, moved by the number of scenes in `xs`; the first
fault is the first fault of `xs`, or else that of `ys`, moved likewise, also in its texts. Of a
single scene its position only shows in the id of the group and in the place of the fault. -/
theorem ofScenes_append (xs ys : List Value) :
    (∀ fault, (Group.ofScenes 0 xs).result = .error fault →
      (Group.ofScenes 0 (xs ++ ys)).result = .error fault) ∧
    (∀ groups others, (Group.ofScenes 0 xs).result = .ok groups →
      (Group.ofScenes 0 ys).result = .ok others →
        (Group.ofScenes 0 (xs ++ ys)).result = .ok (groups ++ others.map (Group.shift xs.length))) ∧
    (∀ groups fault, (Group.ofScenes 0 xs).result = .ok groups →
      (Group.ofScenes 0 ys).result = .error fault →
        (Group.ofScenes 0 (xs ++ ys)).result = .error (fault.shift xs.length) ∧
          ∃ i, i < ys.length ∧ fault.scene? = some i ∧
            (fault.shift xs.length).scene? = some (i + xs.length) ∧
              TextsMoved xs.length i fault (fault.shift xs.length)) ∧
    ∀ scene position, (Group.ofScene? scene position).result =
      ((Group.ofScene? scene 0).result.map (Option.map (Group.shift position))).mapError
        (Fault.shift position) := by
  have moved := Group.ofScenes_shift 0 xs.length ys
  rw [Group.result_ofScenes_append]
  refine ⟨?_, ?_, ?_, ?_⟩
  · intro fault hx
    rw [hx]
    rfl
  · intro groups others hx hy
    rw [hy] at moved
    obtain ⟨_, behind, rfl⟩ := moved.of_ok
    rw [hx, behind]
    rfl
  · intro groups fault hx hy
    rw [hy] at moved
    obtain ⟨_, behind, i, _, high, scene, rfl, texts⟩ := moved.of_error
    rw [hx, behind]
    refine ⟨rfl, i, ?_, scene, ?_, texts⟩
    · rwa [Nat.zero_add] at high
    · rw [Fault.scene?_shift, scene]
      rfl
  · intro scene position
    have moved := Group.ofScene?_shift (n := position) (i := 0) (v := scene)
    rw [Nat.zero_add] at moved
    cases h : (Group.ofScene? scene 0).result with
    | ok group? =>
        rw [h] at moved
        obtain ⟨_, there, rfl⟩ := moved.of_ok
        exact there
    | error fault =>
        rw [h] at moved
        obtain ⟨_, there, _, rfl, _⟩ := moved.of_error
        exact there

/-- Three scenes that compile, the first of unknown type, in front of themselves and of two scenes
of which the second has a fault. -/
theorem ofScenes_append_sample :
    let xs := (sampleDocument.getItems? "scenes").getD []
    let ys := (crowdedDocument.getItems? "scenes").getD []
    (Group.ofScenes 0 xs).result = .ok sampleModel.groups ∧
      (Group.ofScenes 0 ys).result =
        .error (.notAlone .temperatureHumidity 2 (.device 1 1)) ∧
      (Group.ofScenes 0 (xs ++ xs)).result =
        .ok (sampleModel.groups ++ sampleModel.groups.map (Group.shift 3)) ∧
      (Group.ofScenes 0 (xs ++ ys)).result =
        .error (.notAlone .temperatureHumidity 2 (.device 4 1)) ∧
      (Group.ofScenes 0 (ys ++ xs)).result =
        .error (.notAlone .temperatureHumidity 2 (.device 1 1)) := by
  intro xs ys
  have accepted : (Group.ofScenes 0 xs).result = .ok sampleModel.groups := rfl
  have rejected : (Group.ofScenes 0 ys).result =
      .error (.notAlone .temperatureHumidity 2 (.device 1 1)) := rfl
  refine ⟨accepted, rejected, ?_, ?_, ?_⟩
  · exact (ofScenes_append xs xs).2.1 _ _ accepted accepted
  · exact ((ofScenes_append xs ys).2.2.1 _ _ accepted rejected).1
  · exact (ofScenes_append ys xs).1 _ rejected

end SceneConfig

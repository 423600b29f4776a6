/- Readers of members and records perform their checks.
   A reader made of several performs their checks in turn, and a later check may depend on what an
   earlier one has read. -/
import SceneConfig.Proofs.Document.Checks

namespace SceneConfig
open Json (Value)
variable {α β : Type} {document node : Value} {place : Place}

theorem performs_pure (a : α) : Performs document [] (.ok a) := by
  intro check member
  cases member

theorem FirstFault.append {checks : List Check} {fault : Fault Place}
    (h : FirstFault document checks fault) (later : List Check) :
    FirstFault document (checks ++ later) fault := by
  obtain ⟨before, check, after, rfl, rest⟩ := h
  refine ⟨before, check, after ++ later, ?_, rest⟩
  rw [List.append_assoc, List.cons_append]

theorem FirstFault.prepend {checks earlier : List Check} {fault : Fault Place}
    (passed : ∀ check ∈ earlier, check.Passes document)
    (h : FirstFault document checks fault) : FirstFault document (earlier ++ checks) fault := by
  obtain ⟨before, check, after, rfl, passes, rest⟩ := h
  refine ⟨earlier ++ before, check, after, ?_, ?_, rest⟩
  · rw [List.append_assoc]
  · intro other member
    rcases List.mem_append.mp member with first | second
    · exact passed other first
    · exact passes other second

/-- What follows a reader may make checks that depend on what was read. -/
theorem Performs.bind {checks later : List Check} {x : Except (Fault Place) α}
    {f : α → Except (Fault Place) β} (h : Performs document checks x)
    (next : ∀ a, x = .ok a → Performs document later (f a)) :
    Performs document (checks ++ later) (x.bind f) := by
  cases x with
  | error fault => exact FirstFault.append h later
  | ok a =>
      have second := next a rfl
      change Performs document (checks ++ later) (f a)
      cases hf : f a with
      | error fault =>
          rw [hf] at second
          exact FirstFault.prepend h second
      | ok b =>
          rw [hf] at second
          intro check member
          rcases List.mem_append.mp member with first | rest
          · exact h check first
          · exact second check rest

theorem Performs.map {checks : List Check} {x : Except (Fault Place) α} (f : α → β)
    (h : Performs document checks x) : Performs document checks (x.map f) := by
  cases x with
  | error fault => exact h
  | ok a => exact h

/-- One check: the reader succeeds when it passes, and else has the fault that the check reports. -/
theorem performs_single {demand : Demand} (found : place.node? document = some node)
    {x : Except (Fault Place) α} (accepts : ∀ a, x = .ok a → demand.Met node)
    (blames : ∀ fault, x = .error fault → demand.Blames node place fault) :
    Performs document [⟨place, demand⟩] x := by
  cases x with
  | ok a =>
      intro check member
      rw [List.mem_singleton.mp member]
      exact ⟨node, found, accepts a rfl⟩
  | error fault =>
      have reports : Check.Reports document ⟨place, demand⟩ fault :=
        ⟨node, found, blames fault rfl⟩
      refine ⟨[], ⟨place, demand⟩, [], rfl, ?_, reports.not_passes, reports⟩
      intro check member
      cases member

/-- A required member is missing, or of another type than the one asked for. -/
theorem blame_blames {key : String} {shape : Shape}
    (misfit : ∀ value, node.get? key = some value → ¬ shape.Fits value) :
    (Demand.member key shape true).Blames node place (node.blame key place shape) := by
  rw [Value.blame]
  cases h : node.has key with
  | true =>
      obtain ⟨value, present⟩ := Value.has_eq_true_iff.mp h
      exact .wrongShape present (misfit value present)
  | false => exact .missing (Value.has_eq_false_iff.mp h)

theorem performs_requireText (found : place.node? document = some node) (key : String) :
    Performs document [Check.text place key] (node.requireText key place) := by
  apply performs_single found
  · intro s h
    exact .inr ⟨_, Value.requireText_eq_ok_iff.mp h, s, rfl⟩
  · intro fault h
    obtain ⟨rfl, misfit⟩ := Value.requireText_eq_error h
    apply blame_blames
    rintro _ present ⟨s, rfl⟩
    exact misfit s present

theorem performs_requireItems (found : place.node? document = some node) (key : String) :
    Performs document [⟨place, .member key .list true⟩] (node.requireItems key place) := by
  apply performs_single found
  · intro items h
    exact .inr ⟨_, Value.requireItems_eq_ok_iff.mp h, items, rfl⟩
  · intro fault h
    obtain ⟨rfl, misfit⟩ := Value.requireItems_eq_error h
    apply blame_blames
    rintro _ present ⟨items, rfl⟩
    exact misfit items present

theorem performs_optionalText (found : place.node? document = some node) (key : String) :
    Performs document [⟨place, .member key .text false⟩] (node.optionalText key place) := by
  apply performs_single found
  · intro text? h
    have member := Value.optionalText_eq_ok_iff.mp h
    cases text? with
    | none => exact .inl ⟨rfl, member⟩
    | some s => exact .inr ⟨_, member, s, rfl⟩
  · intro fault h
    obtain ⟨value, present, rfl, misfit⟩ := Value.optionalText_eq_error h
    exact .wrongShape present fun ⟨s, same⟩ => misfit s same

theorem performs_optionalFlag (found : place.node? document = some node) (key : String) :
    Performs document [⟨place, .member key .flag false⟩] (node.optionalFlag key place) := by
  apply performs_single found
  · intro flag? h
    have member := Value.optionalFlag_eq_ok_iff.mp h
    cases flag? with
    | none => exact .inl ⟨rfl, member⟩
    | some b => exact .inr ⟨_, member, b, rfl⟩
  · intro fault h
    obtain ⟨value, present, rfl, misfit⟩ := Value.optionalFlag_eq_error h
    exact .wrongShape present fun ⟨b, same⟩ => misfit b same

theorem performs_ofSwitch (found : place.node? document = some node) (position : Nat) :
    Performs document (Check.ofSwitch place) (SwitchDevice.ofRecord node position place) := by
  apply (performs_requireText found "name").bind
  intro name _
  apply (performs_requireText found "getTopic").bind
  intro getTopic _
  apply (performs_requireText found "setTopic").bind
  intro setTopic _
  apply (performs_requireText found "onValue").bind
  intro onValue _
  apply (performs_requireText found "offValue").bind
  intro offValue _
  exact performs_pure _

theorem performs_readings (found : place.node? document = some node) (keys : List String) :
    Performs document (keys.map (Check.text place))
      (keys.mapM (MappedValue.ofRecord node place)) := by
  induction keys with
  | nil => exact performs_pure _
  | cons key keys ih =>
      rw [List.mapM_cons]
      have first : Performs document [Check.text place key] (MappedValue.ofRecord node place key) :=
        (performs_requireText found key).bind fun _ _ => performs_pure _
      apply first.bind
      intro value _
      exact ih.map (value :: ·)

theorem performs_readKind (found : place.node? document = some node) :
    Performs document [Check.text place "type", ⟨place, .sensorName⟩]
      (SensorDevice.readKind node place) := by
  apply (performs_requireText found "type").bind
  intro name h
  have text := Value.requireText_eq_ok_iff.mp h
  apply performs_single found
  · intro kind h
    cases hk : SensorKind.ofName? name with
    | none => rw [hk] at h; cases h
    | some kind =>
        rw [← SensorKind.ofName?_eq_some_iff.mp hk] at text
        exact ⟨kind, text⟩
  · intro fault h
    cases hk : SensorKind.ofName? name with
    | some kind => rw [hk] at h; cases h
    | none =>
        rw [hk] at h
        cases h
        refine .unknownSensor text ?_
        intro kind same
        rw [SensorKind.ofName?_eq_some_iff.mpr same] at hk
        cases hk

theorem performs_requireAlone (found : place.node? document = some node) {kind : SensorKind}
    (type : node.get? "type" = some (.string kind.name)) (count : Nat) :
    Performs document [⟨place, .alone count⟩] (SensorDevice.requireAlone kind count place) := by
  apply performs_single found
  · intro _ h
    have room := SensorDevice.requireAlone_eq_ok_iff.mp h
    by_cases combined : kind = .temperatureHumidity
    · exact .inl (room (SensorKind.isCombined_eq_true_iff.mpr combined))
    · refine .inr ?_
      intro same
      rw [type, Option.some.injEq, Value.string.injEq] at same
      exact combined (SensorKind.name_injective same)
  · intro fault h
    obtain ⟨rfl, combined, crowded⟩ := SensorDevice.requireAlone_eq_error h
    exact .notAlone type (SensorKind.isCombined_eq_true_iff.mp combined) crowded

theorem performs_ofReadings (found : place.node? document = some node) {kind : SensorKind}
    (type : node.get? "type" = some (.string kind.name)) {encoding : Encoding}
    (json : encoding = .json ↔ node.get? "jsondata" = some (.bool true)) (count : Nat) :
    Performs document (Check.ofReadings node count place)
      (SensorDevice.readMappedValues node kind encoding count place) := by
  rw [Check.ofReadings]
  cases encoding with
  | raw =>
      rw [if_neg fun flag => nomatch json.mpr (Value.getFlag?_eq_some_iff.mp flag)]
      exact performs_pure _
  | json =>
      rw [if_pos (Value.getFlag?_eq_some_iff.mpr (json.mp rfl)),
        Value.getText?_eq_some_iff.mpr type, Option.bind_some, SensorKind.ofName?_name,
        SensorDevice.readMappedValues_json]
      apply (performs_requireAlone found type count).bind
      intro _ _
      exact performs_readings found kind.readingKeys

theorem performs_ofSensor (found : place.node? document = some node) (position count : Nat) :
    Performs document (Check.ofSensor node count place)
      (SensorDevice.ofRecord node position count place) := by
  apply (performs_requireText found "name").bind
  intro name _
  apply (performs_requireText found "getTopic").bind
  intro getTopic _
  apply (performs_readKind found).bind
  intro kind hk
  have encoding : Performs document [⟨place, .member "jsondata" .flag false⟩]
      (SensorDevice.readEncoding node place) :=
    (performs_optionalFlag found "jsondata").bind fun _ _ => performs_pure _
  apply encoding.bind
  intro encoding he
  have flag := (SensorDevice.readEncoding_eq_ok_iff.mp he).2
  exact (performs_ofReadings found (SensorDevice.readKind_eq_ok_iff.mp hk) flag count).map _

end SceneConfig

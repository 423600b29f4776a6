/- Repairs: the document with the reported fault mended is accepted, or rejected for a later check.
   Mending a node leaves the checks before as they are, although type and flag decide which checks
   come after. -/
import SceneConfig.Proofs.Document.CheckOrder
import SceneConfig.Proofs.Document.Edits

namespace SceneConfig
open Json (Value)
variable {document other v w : Value}

/-- The type of a member that a node has to have. -/
def requiredShape (key : String) : Shape :=
  if key = "scenes" ∨ key = "devices" then .list
  else if key = "jsondata" then .flag
  else .text

/-- The fault is mended and nothing else is changed. -/
def Fault.Repaired : Fault Place → Value → Value → Prop
  | .missing key place => Edited (Value.SetsTo key (requiredShape key).Fits) place
  | .wrongShape (.member key) place expected => Edited (Value.SetsTo key expected.Fits) place
  | .wrongShape (.scene i) place expected =>
    Edited (Value.EditsItem "scenes" i fun _ new => expected.Fits new) place
  | .wrongShape (.device j) place expected =>
    Edited (Value.EditsItem "devices" j fun _ new => expected.Fits new) place
  | .unknownSensor _ place =>
    Edited (Value.SetsTo "type" fun type => ∃ kind : SensorKind, type = .string kind.name) place
  | .notAlone _ _ place => Edited (Value.SetsTo "jsondata" fun flag => flag = .bool false) place

theorem Place.node?_scene {i : Nat} :
    (Place.scene i).node? document = document.item? "scenes" i :=
  rfl

theorem Place.node?_device {i j : Nat} {scene : Value}
    (found : document.item? "scenes" i = some scene) :
    (Place.device i j).node? document = scene.item? "devices" j := by
  rw [node?, found, Option.bind_some]

/-- A place in a scene depends on that scene alone. -/
theorem Place.node?_congr {place : Place} {i : Nat} {rest : List Nat}
    (path : place.path = i :: rest)
    (same : other.item? "scenes" i = document.item? "scenes" i) :
    place.node? other = place.node? document := by
  cases place with
  | document => cases path
  | scene =>
      cases path
      exact same
  | device =>
      cases path
      rw [node?, node?, same]

namespace Demand

/-- A node that does not do what is asked of it is mended. -/
def Mends : Demand → Value → Value → Prop
  | .member key shape _ => Value.SetsTo key shape.Fits
  | .object => fun _ new => Shape.record.Fits new
  | .sensorName =>
    Value.SetsTo "type" fun type => ∃ kind : SensorKind, type = .string kind.name
  | .alone _ => Value.SetsTo "jsondata" fun flag => flag = .bool false

/-- The members that it depends on whether the demand is met. -/
def keys : Demand → List String
  | .member key _ _ => [key]
  | .object => []
  | .sensorName | .alone _ => ["type"]

theorem Met.congr {demand : Demand} (h : demand.Met v) (record : w.isObject = true)
    (same : ∀ key ∈ demand.keys, w.get? key = v.get? key) : demand.Met w := by
  cases demand with
  | member key shape required =>
      rw [Met, same key (List.mem_singleton_self key)]
      exact h
  | object =>
      cases w with
      | object members => exact ⟨members, rfl⟩
      | null | bool | number | string | array => cases record
  | sensorName | alone count =>
      rw [Met, same "type" (List.mem_singleton_self _)]
      exact h

end Demand

namespace Check

/-- Each member is asked for in its one shape, and what concerns sensors is asked of devices. -/
def Regular : Check → Prop
  | ⟨_, .member key shape _⟩ => shape = requiredShape key
  | ⟨place, .object⟩ => place ≠ .document
  | ⟨place, .sensorName⟩ | ⟨place, .alone _⟩ => ∃ i j, place = .device i j

theorem regular_of_mem_texts {check : Check} {keys : List String} {place : Place}
    (texts : ∀ key ∈ keys, requiredShape key = .text) (h : check ∈ keys.map (text place)) :
    check.Regular := by
  obtain ⟨key, member, rfl⟩ := List.mem_map.mp h
  exact (texts key member).symm

theorem regular_of_mem_ofRecord {check : Check} {kind : GroupKind} {record : Value}
    {count i j : Nat} (h : check ∈ ofRecord kind record count (.device i j)) :
    check.Regular := by
  rcases List.mem_cons.mp h with rfl | device
  · exact nofun
  · cases kind with
    | switch => exact regular_of_mem_texts (by decide) device
    | sensor =>
        rcases List.mem_append.mp device with member | reading
        · simp only [List.mem_cons, List.not_mem_nil, or_false] at member
          rcases member with rfl | rfl | rfl | rfl | rfl
          · rfl
          · rfl
          · rfl
          · exact ⟨i, j, rfl⟩
          · rfl
        · rw [ofReadings] at reading
          split at reading
          · rcases List.mem_cons.mp reading with rfl | member
            · exact ⟨i, j, rfl⟩
            · split at member
              · rename_i kind _
                exact regular_of_mem_texts (by cases kind <;> decide) member
              · cases member
          · cases reading

theorem regular_of_mem_ofOwn {check : Check} {scene : Value} {i : Nat}
    (h : check ∈ ofOwn scene i) : check.Regular := by
  rw [ofOwn] at h
  split at h <;> simp only [List.mem_append, List.mem_cons, List.not_mem_nil, or_false] at h
  · rcases h with (rfl | rfl) | rfl | rfl | rfl
    · intro same
      cases same
    all_goals rfl
  · rcases h with rfl | rfl
    · intro same
      cases same
    · rfl

theorem regular_of_mem {check : Check} (h : check ∈ ofDocument document) : check.Regular := by
  rcases mem_ofDocument_iff.mp h with head | ⟨i, scene, _, inside⟩
  · simp only [ofHead, List.mem_cons, List.not_mem_nil, or_false] at head
    rcases head with rfl | rfl | rfl | rfl | rfl | rfl | rfl <;> rfl
  · rcases inside with own | device
    · exact regular_of_mem_ofOwn own
    · obtain ⟨_, _, _, _, _, h⟩ := mem_ofDevices_iff.mp device
      exact regular_of_mem_ofRecord h

theorem Regular.device_of_alone {check : Check} (h : check.Regular) {count : Nat}
    (alone : check.demand = .alone count) : ∃ i j, check.place = .device i j := by
  obtain ⟨place, demand⟩ := check
  subst alone
  exact h

/-- The repair of a fault mends the node of the check that reports it. -/
theorem Reports.mends {check : Check} {fault : Fault Place} (h : check.Reports document fault)
    (regular : check.Regular) (repaired : fault.Repaired document other) :
    Edited check.demand.Mends check.place document other := by
  obtain ⟨place, demand⟩ := check
  obtain ⟨node, _, blames⟩ := h
  simp only at blames
  cases blames with
  | missing =>
      rw [Regular] at regular
      rw [Demand.Mends, regular]
      exact repaired
  | wrongShape | scene | device | unknownSensor | notAlone => exact repaired

/-- Whether a node is an object is asked first. -/
theorem before_of_object {place : Place} {demand : Demand} (inside : place ≠ .document)
    (rest : demand ≠ .object) : Before ⟨place, .object⟩ ⟨place, demand⟩ := by
  have step : Step.object ≠ demand.step := by
    cases demand with
    | object => exact absurd rfl rest
    | member | sensorName | alone => exact nofun
  refine .inr ⟨rfl, ?_⟩
  cases place with
  | document => exact absurd rfl inside
  | scene | device =>
      change 0 < List.idxOf demand.step (Step.object :: _)
      rw [List.idxOf_cons_ne _ step]
      exact Nat.succ_pos _

/-- The member that decides about a sensor's name and company is asked for before. -/
theorem before_of_type {place : Place} {demand : Demand} {shape : Shape} {required : Bool}
    (sensor : demand.OfSensor) (regular : Regular ⟨place, demand⟩) :
    Before ⟨place, .member "type" shape required⟩ ⟨place, demand⟩ := by
  cases demand with
  | member | object => cases sensor
  | sensorName | alone =>
      obtain ⟨i, j, rfl⟩ := regular
      exact .inr ⟨rfl, of_decide_eq_true rfl⟩

end Check

namespace Demand
variable {place : Place} {later : Demand} {key : String} {shape : Shape} {required : Bool}

theorem Met.of_sets_ne {value : Value} (h : later.Met v) (set : Value.Sets key value v w)
    (ne : key ∉ later.keys) : later.Met w :=
  h.congr set.isObject fun other member => set.rest other fun same => ne (same ▸ member)

/-- A member set to a value of its type breaks nothing that is asked of the node, but for what is
asked of the type of a sensor. -/
theorem Met.of_sets {p : Prop} {value : Value} (set : Value.Sets key value v w)
    (fits : (requiredShape key).Fits value) (regular : Check.Regular ⟨place, later⟩)
    (sensor : key = "type" → later.OfSensor → p ∨ later.Met w)
    (unread : key ∉ later.keys → p ∨ later.Met v) : p ∨ later.Met w := by
  by_cases reads : key ∈ later.keys
  · cases later with
    | member =>
        cases List.mem_singleton.mp reads
        rw [Check.Regular] at regular
        rw [regular]
        exact .inr (.inr ⟨value, set.here, fits⟩)
    | object => cases reads
    | sensorName | alone => exact sensor (List.mem_singleton.mp reads) trivial
  · exact (unread reads).imp_right fun met => met.of_sets_ne set reads

/-- An array stays an array when one of its elements is edited. -/
theorem Met.of_editsItem {i : Nat} {edit : Value → Value → Prop} (h : later.Met v)
    (edited : Value.EditsItem key i edit v w) (list : requiredShape key = .list)
    (regular : Check.Regular ⟨place, later⟩) : later.Met w := by
  obtain ⟨items, item, new, _, _, _, set⟩ := edited
  have fits : (requiredShape key).Fits (.array (items.set i new)) := by
    rw [list]
    exact ⟨_, rfl⟩
  have met : False ∨ later.Met w := by
    apply Met.of_sets set fits regular
    · rintro rfl
      cases list
    · intro _
      exact .inr h
  exact met.resolve_left id

/-- At a mended node, what is asked no later than the mended demand is met. That of a sensor not
alone is mended by no longer being asked. -/
theorem Mends.met {demand : Demand} (mended : demand.Mends v w)
    (regular : Check.Regular ⟨place, demand⟩) (regular' : Check.Regular ⟨place, later⟩)
    (asked : ∀ count, demand = .alone count → later ≠ demand)
    (met : later = demand ∨ later.Met v) :
    Check.Before ⟨place, demand⟩ ⟨place, later⟩ ∨ later.Met w := by
  cases demand with
  | member key shape required =>
      obtain ⟨value, fits, set⟩ := mended
      rw [Check.Regular] at regular
      rw [regular] at fits
      apply Met.of_sets set fits regular'
      · rintro rfl sensor
        exact .inl (Check.before_of_type sensor regular')
      · intro unread
        rcases met with rfl | met
        · exact absurd (List.mem_singleton_self key) unread
        · exact .inr met
  | object =>
      by_cases same : later = .object
      · subst same
        exact .inr mended
      · exact .inl (Check.before_of_object regular same)
  | sensorName =>
      obtain ⟨_, ⟨kind, rfl⟩, set⟩ := mended
      apply Met.of_sets set ⟨_, rfl⟩ regular'
      · intro _ sensor
        cases later with
        | member | object => cases sensor
        | sensorName => exact .inr ⟨kind, set.here⟩
        | alone =>
            obtain ⟨i, j, rfl⟩ := regular'
            exact .inl (.inr ⟨rfl, of_decide_eq_true rfl⟩)
      · intro unread
        rcases met with rfl | met
        · exact absurd (List.mem_singleton_self "type") unread
        · exact .inr met
  | alone count =>
      obtain ⟨_, rfl, set⟩ := mended
      apply Met.of_sets set ⟨false, rfl⟩ regular'
      · intro type
        exact absurd type (by decide)
      · intro _
        rcases met with rfl | met
        · exact absurd rfl (asked count rfl)
        · exact .inr met

end Demand

namespace Check

/-- What is asked of any sensor. -/
def ofAnySensor (place : Place) : List Check :=
  [⟨place, .object⟩, text place "name", text place "getTopic", text place "type",
    ⟨place, .sensorName⟩, ⟨place, .member "jsondata" .flag false⟩]

theorem ofRecord_sensor (record : Value) (count : Nat) (place : Place) :
    ofRecord .sensor record count place = ofAnySensor place ++ ofReadings record count place :=
  rfl

theorem ofReadings_congr {count : Nat} {place : Place}
    (flag : w.get? "jsondata" = v.get? "jsondata")
    (type : w.get? "type" = v.get? "type") :
    ofReadings w count place = ofReadings v count place := by
  rw [ofReadings, ofReadings, Value.getFlag?, Value.getFlag?, Value.getText?, Value.getText?, flag,
    type]

/-- Mending a reading does not change which readings are asked for, and after the sensor's company
is mended none is. -/
theorem mem_ofReadings_of_mends {check later : Check} {count : Nat} {place : Place}
    (h : check ∈ ofReadings v count place) (mended : check.demand.Mends v w)
    (h' : later ∈ ofReadings w count place) : later ∈ ofReadings v count place := by
  have reading (keys : List String) (member : check ∈ keys.map (text place))
      (others : "type" ∉ keys ∧ "jsondata" ∉ keys) : later ∈ ofReadings v count place := by
    obtain ⟨key, listed, rfl⟩ := List.mem_map.mp member
    obtain ⟨_, _, set⟩ := mended
    have flag := set.rest "jsondata" fun same => others.2 (same ▸ listed)
    have type := set.rest "type" fun same => others.1 (same ▸ listed)
    rwa [ofReadings_congr flag type] at h'
  rw [ofReadings] at h
  split at h
  · rcases List.mem_cons.mp h with rfl | member
    · obtain ⟨_, rfl, set⟩ := mended
      rw [ofReadings, Value.getFlag?, set.here] at h'
      cases h'
    · split at member
      · rename_i kind _
        exact reading _ member (by cases kind <;> decide)
      · cases member
  · cases h

/-- What is asked of a mended record is asked later, or was asked before. -/
theorem mem_ofRecord_of_mends {check later : Check} {kind : GroupKind} {count i j : Nat}
    (h : check ∈ ofRecord kind v count (.device i j)) (mended : check.demand.Mends v w)
    (h' : later ∈ ofRecord kind w count (.device i j)) :
    check.Before later ∨ later ∈ ofRecord kind v count (.device i j) := by
  cases kind with
  | switch => exact .inr h'
  | sensor =>
      have sorted := pairwise_ofRecord .sensor w count i j
      rw [ofRecord_sensor] at h h' sorted ⊢
      rcases List.mem_append.mp h' with any' | reading'
      · exact .inr (List.mem_append_left _ any')
      · rcases List.mem_append.mp h with any | reading
        · exact .inl ((List.pairwise_append.mp sorted).2.2 check any later reading')
        · exact .inr (List.mem_append_right _ (mem_ofReadings_of_mends reading mended reading'))

/-- What is asked of a mended scene is asked later, or was asked before. -/
theorem mem_ofOwn_of_mends {check later : Check} {i : Nat} (h : check ∈ ofOwn v i)
    (mended : check.demand.Mends v w) (h' : later ∈ ofOwn w i) :
    check.Before later ∨ later ∈ ofOwn v i := by
  have sorted := pairwise_ofOwn w i
  rw [ofOwn] at h h' sorted ⊢
  rcases List.mem_append.mp h' with any' | known'
  · exact .inr (List.mem_append_left _ any')
  · rcases List.mem_append.mp h with any | known
    · exact .inl ((List.pairwise_append.mp sorted).2.2 check any later known')
    · have same : sceneKind? w = sceneKind? v := by
        split at known <;> simp only [List.mem_cons, List.not_mem_nil, or_false] at known
        rcases known with rfl | rfl | rfl <;> obtain ⟨_, _, set⟩ := mended <;>
          exact sceneKind?_congr (set.rest "type" (by decide))
      rw [same] at known'
      exact .inr (List.mem_append_right _ known')

/-- After the company of a sensor is mended, nothing is asked about it. -/
theorem ne_alone_of_mends {check later : Check} {kind : GroupKind} {count n : Nat} {place : Place}
    (mended : check.demand.Mends v w) (alone : check.demand = .alone n)
    (h : later ∈ ofRecord kind w count place) : later.demand ≠ check.demand := by
  rw [alone] at mended ⊢
  intro same
  have sensor : later.demand.OfSensor := by
    rw [same]
    trivial
  obtain ⟨_, rfl, set⟩ := mended
  rcases List.mem_cons.mp h with rfl | device
  · cases same
  · rcases mem_ofSensor (mem_ofDevice device sensor).2 sensor with rfl | ⟨_, flag⟩
    · cases same
    · rw [set.here] at flag
      cases flag

section Mended
variable {check later : Check} {i : Nat}

/-- Whatever is asked before the check passes. -/
def Reached (document : Value) (check : Check) : Prop :=
  ∀ other ∈ ofDocument document,
    check.Before other ∨ other = check ∨ other.Passes document

namespace Reached

/-- Nothing is changed at the place of the later check. -/
theorem same (reached : Reached document check) (asked : later ∈ ofDocument document)
    (apart : later.place ≠ check.place)
    (same : later.place.node? other = later.place.node? document) :
    check.Before later ∨ later.Passes other := by
  rcases reached later asked with before | rfl | ⟨node, found, met⟩
  · exact .inl before
  · exact absurd rfl apart
  · exact .inr ⟨node, same.trans found, met⟩

/-- At the place of the later check an element of an array is edited. -/
theorem outside (reached : Reached document check) (asked : later ∈ ofDocument document)
    (apart : later.place ≠ check.place) {key : String} {edit : Value → Value → Prop}
    (found : later.place.node? document = some v) (found' : later.place.node? other = some w)
    (edited : Value.EditsItem key i edit v w) (list : requiredShape key = .list) :
    check.Before later ∨ later.Passes other := by
  rcases reached later asked with before | rfl | ⟨node, same, met⟩
  · exact .inl before
  · exact absurd rfl apart
  · cases found.symm.trans same
    exact .inr ⟨w, found', met.of_editsItem edited list (regular_of_mem asked)⟩

/-- The node of both checks is mended. -/
theorem mended (reached : Reached document check) (asked : check ∈ ofDocument document)
    (asked' : later ∈ ofDocument document) (place : later.place = check.place)
    (found : check.place.node? document = some v) (found' : check.place.node? other = some w)
    (mended : check.demand.Mends v w)
    (still : ∀ count, check.demand = .alone count → later.demand ≠ check.demand) :
    check.Before later ∨ later.Passes other := by
  obtain ⟨place, demand⟩ := check
  obtain ⟨_, demand'⟩ := later
  cases place
  have met : Before ⟨place, demand⟩ ⟨place, demand'⟩ ∨ demand' = demand ∨ demand'.Met v := by
    rcases reached _ asked' with before | same | ⟨node, same, met⟩
    · exact .inl before
    · exact .inr (.inl (congrArg Check.demand same))
    · cases found.symm.trans same
      exact .inr (.inr met)
  rcases met with before | met
  · exact .inl before
  · rcases mended.met (regular_of_mem asked) (regular_of_mem asked') still met with before | met
    · exact .inl before
    · exact .inr ⟨w, found', met⟩

/-- After a member of the document is mended. -/
theorem head (reached : Reached document check) (h : check ∈ ofHead)
    (mended : check.demand.Mends document other) (asked : later ∈ ofDocument other) :
    check.Before later ∨ later.Passes other := by
  have place := place_of_mem_ofHead check h
  rcases mem_ofDocument_iff.mp asked with h' | ⟨i, scene, _, inside⟩
  · have root (node : Value) : check.place.node? node = some node := by
      rw [place]
      rfl
    have asked : check ∈ ofDocument document := mem_ofDocument_iff.mpr (.inl h)
    apply reached.mended asked (mem_ofDocument_iff.mpr (.inl h'))
      ((place_of_mem_ofHead later h').trans place.symm) (root document) (root other) mended
    intro count alone
    obtain ⟨_, _, device⟩ := (regular_of_mem asked).device_of_alone alone
    cases place.symm.trans device
  · obtain ⟨rest, path⟩ := path_of_mem_ofScene (mem_ofScene_iff.mpr inside)
    refine .inl (.inl ?_)
    rw [checkpoint, checkpoint, place, path]
    exact .nil

/-- After one scene is edited, what is left to look at is that scene. -/
theorem around (reached : Reached document check) {edit : Value → Value → Prop} {scene : Value}
    (edited : Value.EditsItem "scenes" i edit document other)
    (found : other.item? "scenes" i = some scene)
    (inside : ∃ rest, check.place.path = i :: rest) (asked : later ∈ ofDocument other) :
    (later ∈ ofOwn scene i ∨ later ∈ ofDevices scene i) ∨
      check.Before later ∨ later.Passes other := by
  obtain ⟨rest, path⟩ := inside
  rcases mem_ofDocument_iff.mp asked with h' | ⟨k, other_scene, found', inside'⟩
  · have place := place_of_mem_ofHead later h'
    have apart : later.place ≠ check.place := by
      intro same
      rw [← same, place] at path
      cases path
    have root (node : Value) : later.place.node? node = some node := by
      rw [place]
      rfl
    exact .inr (reached.outside (mem_ofDocument_iff.mpr (.inl h')) apart (root document)
      (root other) edited rfl)
  · obtain ⟨rest', path'⟩ := path_of_mem_ofScene (mem_ofScene_iff.mpr inside')
    by_cases here : k = i
    · subst here
      cases found.symm.trans found'
      exact .inl inside'
    · have unchanged := edited.item?_of_ne here
      have apart : later.place ≠ check.place := by
        intro same
        rw [← same, path'] at path
        exact here (List.cons.inj path).1
      have asked' : later ∈ ofDocument document :=
        mem_ofDocument_iff.mpr (.inr ⟨k, _, unchanged.symm.trans found', inside'⟩)
      exact .inr (reached.same asked' apart (Place.node?_congr path' unchanged))

/-- After a scene is mended. -/
theorem own (reached : Reached document check) (found : document.item? "scenes" i = some v)
    (h : check ∈ ofOwn v i)
    (mended : Value.EditsItem "scenes" i check.demand.Mends document other)
    (asked : later ∈ ofDocument other) : check.Before later ∨ later.Passes other := by
  have place := place_of_mem_ofOwn h
  obtain ⟨_, new, here, found', mend⟩ := mended.item?
  cases here.symm.trans found
  rcases reached.around mended found' ⟨[], by rw [place, Place.path]⟩ asked with
    (h' | device) | done
  · rcases mem_ofOwn_of_mends h mend h' with before | old
    · exact .inl before
    · apply reached.mended (mem_ofDocument_of_own found h) (mem_ofDocument_of_own found old)
        ((place_of_mem_ofOwn h').trans place.symm) _ _ mend
      · intro count alone
        obtain ⟨_, _, device⟩ := (regular_of_mem_ofOwn h).device_of_alone alone
        cases place.symm.trans device
      · rw [place, Place.node?_scene, found]
      · rw [place, Place.node?_scene, found']
  · obtain ⟨j, place'⟩ := place_of_mem_ofDevices device
    exact .inl (before_of_place place place' (List.Lex.cons .nil))
  · exact done

section Device
variable {j : Nat} {scene new : Value} {kind : GroupKind}

/-- After a record is mended, at the devices of its scene. Their number does not change. -/
theorem devices (reached : Reached document check) (found : document.item? "scenes" i = some scene)
    (found' : other.item? "scenes" i = some new) (known : sceneKind? scene = some kind)
    (known' : sceneKind? new = some kind) (slot : scene.item? "devices" j = some v)
    (h : check ∈ ofRecord kind v ((scene.getItems? "devices").getD []).length (.device i j))
    (mended : Value.EditsItem "devices" j check.demand.Mends scene new)
    (h' : later ∈ ofDevices new i) : check.Before later ∨ later.Passes other := by
  have asked {l : Nat} {record : Value} (slot : scene.item? "devices" l = some record) (check)
      (h : check ∈ ofRecord kind record ((scene.getItems? "devices").getD []).length
        (.device i l)) : check ∈ ofDocument document :=
    mem_ofDocument_of_devices found (mem_ofDevices_iff.mpr ⟨kind, l, record, known, slot, h⟩)
  obtain ⟨_, l, record, same_kind, slot', h'⟩ := mem_ofDevices_iff.mp h'
  cases known'.symm.trans same_kind
  rw [mended.length_items] at h'
  have place := place_of_mem_ofRecord h
  have place' := place_of_mem_ofRecord h'
  by_cases same : l = j
  · subst same
    obtain ⟨_, _, old, changed, mend⟩ := mended.item?
    cases old.symm.trans slot
    cases changed.symm.trans slot'
    rcases mem_ofRecord_of_mends h mend h' with before | h'_old
    · exact .inl before
    · apply reached.mended (asked slot check h) (asked slot later h'_old)
        (place'.trans place.symm) _ _ mend
      · intro count alone
        exact ne_alone_of_mends mend alone h'
      · rw [place, Place.node?_device found, slot]
      · rw [place, Place.node?_device found', slot']
  · have unchanged := mended.item?_of_ne same
    apply reached.same (asked (unchanged.symm.trans slot') later h')
    · rw [place, place']
      intro equal
      cases equal
      exact same rfl
    · rw [place', Place.node?_device found, Place.node?_device found', unchanged]

/-- After a record is mended. -/
theorem device (reached : Reached document check) (found : document.item? "scenes" i = some scene)
    (known : sceneKind? scene = some kind) (slot : scene.item? "devices" j = some v)
    (h : check ∈ ofRecord kind v ((scene.getItems? "devices").getD []).length (.device i j))
    (mended : Value.EditsItem "scenes" i (Value.EditsItem "devices" j check.demand.Mends)
      document other)
    (asked : later ∈ ofDocument other) : check.Before later ∨ later.Passes other := by
  have place := place_of_mem_ofRecord h
  obtain ⟨_, new, here, found', inner⟩ := mended.item?
  cases here.symm.trans found
  have type : sceneKind? new = sceneKind? scene :=
    sceneKind?_congr (inner.get?_of_ne (by decide))
  rcases reached.around mended found' ⟨[j], by rw [place, Place.path]⟩ asked with
    (own | devices) | done
  · have place' := place_of_mem_ofOwn own
    rw [ofOwn, type, ← ofOwn] at own
    apply reached.outside (mem_ofDocument_of_own found own) _ _ _ inner rfl
    · rw [place, place']
      intro same
      cases same
    · rw [place', Place.node?_scene, found]
    · rw [place', Place.node?_scene, found']
  · exact reached.devices found found' known (type.trans known) slot h inner devices
  · exact done

end Device

/-- Once the node of a check is mended, every check that does not pass is a later one. -/
theorem settles (reached : Reached document check) (asked : check ∈ ofDocument document)
    (mended : Edited check.demand.Mends check.place document other)
    (asked' : later ∈ ofDocument other) : check.Before later ∨ later.Passes other := by
  rcases mem_ofDocument_iff.mp asked with head | ⟨i, scene, found, inside⟩
  · rw [place_of_mem_ofHead check head] at mended
    exact reached.head head mended asked'
  · rcases inside with own | device
    · rw [place_of_mem_ofOwn own] at mended
      exact reached.own found own mended asked'
    · obtain ⟨kind, j, record, known, slot, h⟩ := mem_ofDevices_iff.mp device
      rw [place_of_mem_ofRecord h] at mended
      exact reached.device found known slot h mended asked'

end Reached

end Mended

end Check

/-- The document is accepted, or rejected for a check that comes later than that of the fault. -/
def Progress (fault : Fault Place) (document : Value) : Prop :=
  (∃ model, (Model.ofDocument document).result = .ok model) ∨
    ∃ later, (Model.ofDocument document).result = .error later ∧
      fault.checkpoint.Before later.checkpoint ∧ later ≠ fault

/-- Repairing the reported fault makes progress in the order of the checks. -/
theorem ofDocument_repaired {fault : Fault Place}
    (rejected : (Model.ofDocument document).result = .error fault)
    (repaired : fault.Repaired document other) :
    ChecksInOrder document ∧ ChecksInOrder other ∧ Progress fault other := by
  refine ⟨checksInOrder document, checksInOrder other, ?_⟩
  obtain ⟨check, asked, reports, reached⟩ := (firstFault_of_rejected rejected).earliest
  have mended := reports.mends (Check.regular_of_mem asked) repaired
  cases h : (Model.ofDocument other).result with
  | ok model => exact .inl ⟨model, h⟩
  | error later =>
      obtain ⟨failing, asked', reports', _⟩ := (firstFault_of_rejected h).earliest
      have before : fault.checkpoint.Before later.checkpoint := by
        rw [reports.checkpoint_eq, reports'.checkpoint_eq]
        rcases Check.Reached.settles reached asked mended asked' with before | passes
        · exact before
        · exact absurd passes reports'.not_passes
      refine .inr ⟨later, h, before, ?_⟩
      rintro rfl
      exact before.irrefl _

def climateSensor (type : String) : Value :=
  .object [("name", .string "Climate"), ("getTopic", .string "air"), ("type", .string type),
    ("jsondata", .bool true)]

def climateScene (type : String) : Value :=
  .object [("type", .string "Sensor"), ("name", .string "Air"), ("icon", .string "cloud"),
    ("devices", .array [
      .object [("name", .string "Porch"), ("getTopic", .string "porch"),
        ("type", .string "Temperature")],
      climateSensor type])]

/-- A sensor of this type, and JSON data, behind another device. -/
def climateDocument (type : String) : Value :=
  homeDocument [] [climateScene type]

theorem repaired_climateDocument :
    (Fault.unknownSensor "Climate" (.device 0 1)).Repaired (climateDocument "Climate")
      (climateDocument "TemperatureHumidity") := by
  refine ⟨_, _, climateScene "TemperatureHumidity", rfl, rfl, ?_, .of_filter rfl rfl⟩
  refine ⟨_, _, climateSensor "TemperatureHumidity", rfl, rfl, ?_, .of_filter rfl rfl⟩
  exact ⟨_, ⟨.temperatureHumidity, rfl⟩, .of_filter rfl rfl⟩

/-- Once its type is known, the sensor is blamed for its company. -/
theorem ofDocument_repaired_climate :
    let fault : Fault Place := .unknownSensor "Climate" (.device 0 1)
    let repaired := climateDocument "TemperatureHumidity"
    (Model.ofDocument (climateDocument "Climate")).result = .error fault ∧
      fault.Repaired (climateDocument "Climate") repaired ∧
      (Model.ofDocument repaired).result =
        .error (.notAlone .temperatureHumidity 2 (.device 0 1)) ∧
      ChecksInOrder (climateDocument "Climate") ∧ ChecksInOrder repaired ∧
        Progress fault repaired :=
  ⟨rfl, repaired_climateDocument, rfl, ofDocument_repaired rfl repaired_climateDocument⟩

end SceneConfig

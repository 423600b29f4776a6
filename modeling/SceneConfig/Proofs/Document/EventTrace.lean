/- The events of a compilation: those of its scenes in turn, up to a fault, or with one event for the
   model behind them. -/
import SceneConfig.Proofs.Document.SceneEvents

namespace SceneConfig
open Json (Value)

/-- The events of scenes from position `start` on, all of them completed. -/
inductive ScenesEvents : Nat → List Value → List Group → List Event → Prop
  | nil {start : Nat} : ScenesEvents start [] [] []
  | cons {start : Nat} {scene : Value} {scenes : List Value} {group? : Option Group}
      {groups : List Group} {events later : List Event} :
      SceneEvents scene start group? events → ScenesEvents (start + 1) scenes groups later →
      ScenesEvents start (scene :: scenes) (group?.toList ++ groups) (events ++ later)

theorem ends_ofScenes {document : Value} {start : Nat} {scenes : List Value}
    (found : ∀ i, (Place.scene (start + i)).node? document = scenes[i]?) :
    (Group.ofScenes start scenes).Ends
      (fun events groups => ScenesEvents start scenes groups events)
      fun events fault => ∃ n scene groups completed cut, scenes[n]? = some scene ∧
        ScenesEvents start (scenes.take n) groups completed ∧
          CutShort scene (start + n) cut fault ∧ events = completed ++ cut := by
  -- The scene at fault is the first one, or is found behind it.
  induction scenes generalizing start with
  | nil => exact .nil
  | cons scene scenes ih =>
      have here : (Place.scene start).node? document = some scene := found 0
      have behind := getElem?_behind (fun i => (Place.scene i).node? document) found
      rw [Group.ofScenes]
      apply ((ends_ofScene? here).mono (fun _ _ _ h => h) ?_).bind
      · intro events group? _ first
        apply ((ih behind).mono (fun _ _ _ h => h) ?_).bind
        · intro later groups _ rest
          change ScenesEvents start (scene :: scenes) (group?.toList ++ groups)
            (events ++ (later ++ []))
          rw [List.append_nil]
          exact .cons first rest
        · rintro later fault _ ⟨n, other, groups, completed, cut, slot, done, short, rfl⟩
          refine ⟨n + 1, other, group?.toList ++ groups, events ++ completed, cut, slot,
            .cons first done, ?_, ?_⟩
          · rwa [Nat.add_assoc, Nat.add_comm 1 n] at short
          · rw [List.append_assoc]
      · intro events fault _ cut
        exact ⟨0, scene, [], [], events, rfl, .nil, cut, rfl⟩

theorem ends_ofDocument (document : Value) :
    (Model.ofDocument document).Ends
      (fun events model => ∃ scenes completed, document.get? "scenes" = some (.array scenes) ∧
        ScenesEvents 0 scenes model.groups completed ∧
          events = completed ++ [.assembled model.groups.length scenes.length])
      fun events fault =>
        match fault.scene? with
        | none => events = []
        | some index => ∃ scenes scene groups completed cut,
            document.get? "scenes" = some (.array scenes) ∧ scenes[index]? = some scene ∧
              ScenesEvents 0 (scenes.take index) groups completed ∧
                CutShort scene index cut fault ∧ events = completed ++ cut := by
  rw [Model.ofDocument]
  apply Traced.Ends.bind_lift
  · intro fault failed
    have inHead (check : Check) (member : check ∈ Check.ofHead) : check.place = .document := by
      simp only [Check.ofHead, List.mem_cons, List.not_mem_nil, or_false] at member
      rcases member with rfl | rfl | rfl | rfl | rfl | rfl | rfl <;> rfl
    rw [(performs_ofHead.position inHead failed).1]
    rfl
  · rintro ⟨wifi, timezone, broker, scenes⟩ read
    obtain ⟨_, list⟩ := (Model.readHead_eq_ok_iff []).mp read
    have slots (i : Nat) : (Place.scene (0 + i)).node? document = scenes[i]? := by
      rw [Place.node?, Nat.zero_add, Value.item?, Value.getItems?_eq_some_iff.mpr list,
        Option.bind_some]
    apply ((ends_ofScenes slots).mono (fun _ _ _ h => h) ?_).bind
    · intro events groups _ done
      exact ⟨scenes, events, list, done, rfl⟩
    · rintro events fault _ ⟨n, scene, groups, completed, cut, slot, done, short, split⟩
      rw [Nat.zero_add] at short
      rw [short.1]
      exact ⟨scenes, scene, groups, completed, cut, list, slot, done, short, split⟩

theorem ScenesEvents.countP {start : Nat} {scenes : List Value} {groups : List Group}
    {events : List Event} (h : ScenesEvents start scenes groups events) :
    events.countP Event.isBuilt = groups.length ∧
      events.countP Event.isBuilt + events.countP Event.isSkip = scenes.length := by
  induction h with
  | nil => exact ⟨rfl, rfl⟩
  | cons first _ ih =>
      obtain ⟨built, one⟩ := first.countP
      obtain ⟨others, rest⟩ := ih
      rw [List.countP_append, List.countP_append, List.length_append, List.length_cons]
      omega

theorem ScenesEvents.properLevel {start : Nat} {scenes : List Value} {groups : List Group}
    {events : List Event} (h : ScenesEvents start scenes groups events) :
    ∀ event ∈ events, event.ProperLevel := by
  induction h with
  | nil =>
      intro event member
      cases member
  | cons first _ ih =>
      intro event member
      rcases List.mem_append.mp member with here | behind
      · exact first.properLevel event here
      · exact ih event behind

/-- The events of compiling a document: all those of its scenes and one for the model, or those of
the scenes in front of the fault and of the devices in front of it in its scene. -/
structure EventsOf (document : Value) (run : Traced (Fault Place) Model) : Prop where
  levels : ∀ event ∈ run.events, event.ProperLevel
  accepted : ∀ model, run.result = .ok model → ∃ scenes completed,
    document.get? "scenes" = some (.array scenes) ∧
      ScenesEvents 0 scenes model.groups completed ∧
        run.events = completed ++ [.assembled model.groups.length scenes.length] ∧
          run.events.countP Event.isBuilt = model.groups.length ∧
            run.events.countP Event.isBuilt + run.events.countP Event.isSkip = scenes.length
  rejected : ∀ fault, run.result = .error fault →
    match fault.scene? with
    | none => run.events = []
    | some index => ∃ scenes scene groups completed cut,
        document.get? "scenes" = some (.array scenes) ∧ scenes[index]? = some scene ∧
          ScenesEvents 0 (scenes.take index) groups completed ∧
            CutShort scene index cut fault ∧ run.events = completed ++ cut

theorem ofDocument_events (document : Value) :
    EventsOf document (Model.ofDocument document) ∧
      ∀ (scene : Value) (index : Nat) (group : Group) (events : List Event),
        SceneEvents scene index (some group) events →
          events.countP Event.isRemark + group.topics.toFinset.card = group.deviceCount := by
  have ends := ends_ofDocument document
  refine ⟨⟨?_, ?_, ?_⟩, fun _ _ _ _ h => h.countP_isRemark⟩
  · intro event member
    cases result : (Model.ofDocument document).result with
    | ok model =>
        obtain ⟨scenes, completed, _, done, split⟩ := ends.of_ok result
        rw [split] at member
        rcases List.mem_append.mp member with inside | last
        · exact done.properLevel event inside
        · rw [List.mem_singleton.mp last]
          rfl
    | error fault =>
        have stopped := ends.of_error result
        split at stopped
        · rw [stopped] at member
          cases member
        · obtain ⟨_, scene, _, completed, cut, _, _, done, short, split⟩ := stopped
          rw [split] at member
          rcases List.mem_append.mp member with before | inside
          · exact done.properLevel event before
          · exact short.properLevel event inside
  · intro model result
    obtain ⟨scenes, completed, list, done, split⟩ := ends.of_ok result
    obtain ⟨built, all⟩ := done.countP
    refine ⟨scenes, completed, list, done, split, ?_⟩
    rw [split, List.countP_append, List.countP_append, built]
    rw [built] at all
    exact ⟨rfl, all⟩
  · intro fault result
    exact ends.of_error result

/-- Behind a camera, a light with two switches on one topic and a third without its topics. -/
def interruptedDocument : Value :=
  homeDocument [] [
    .object [("type", .string "Camera")],
    .object [("type", .string "Light"), ("name", .string "Hall"), ("icon", .string "bulb"),
      ("devices", .array [
        .object [("name", .string "Lamp"), ("getTopic", .string "hall/get"),
          ("setTopic", .string "hall/lamp"), ("onValue", .string "1"),
          ("offValue", .string "0")],
        .object [("name", .string "Spot"), ("getTopic", .string "hall/get"),
          ("setTopic", .string "hall/spot"), ("onValue", .string "on"),
          ("offValue", .string "off")],
        .object [("name", .string "Strip")]])]]

/-- The second switch on the topic is remarked on; the light is built only where all of its devices
can be read. -/
theorem ofDocument_events_interrupted :
    (Model.ofDocument sampleDocument).events =
        [.skippedScene 0 "Camera", .sharedTopic "hall/get" (.device 1 1),
          .builtGroup 1 .switch "Hall" 2, .builtGroup 2 .sensor "Air" 1, .assembled 2 3] ∧
      EventsOf sampleDocument (Model.ofDocument sampleDocument) ∧
      (Model.ofDocument interruptedDocument).events =
        [.skippedScene 0 "Camera", .sharedTopic "hall/get" (.device 1 1)] ∧
      EventsOf interruptedDocument (Model.ofDocument interruptedDocument) :=
  ⟨rfl, (ofDocument_events sampleDocument).1, rfl, (ofDocument_events interruptedDocument).1⟩

end SceneConfig

/- Devices under topics, over any run of pushes: an ordered multimap. A push adds to what is found
   on its topic and to nothing else, and taken topic by topic no device is lost or found twice. -/
import Mathlib.Data.List.Dedup
import SceneConfig.Model.TopicList

namespace SceneConfig.TopicList
variable {δ : Type}

/-- The devices behind a run of pushes. -/
def pushAll (devices : TopicList δ) : List (String × δ) → TopicList δ
  | [] => devices
  | (topic, device) :: pushes => (devices.push topic device).pushAll pushes

/-- What a run of pushes declares on a topic, in its order. -/
def pushedOn (topic : String) : List (String × δ) → List δ
  | [] => []
  | (other, device) :: pushes =>
    if other = topic then device :: pushedOn topic pushes else pushedOn topic pushes

section Push
variable (devices : TopicList δ) {topic other : String} (device : δ)

theorem allOn_push_self :
    (devices.push topic device).allOn topic = devices.allOn topic ++ [device] := by
  rw [allOn, toList_push, List.filter_append, List.map_append, List.filter_cons_of_pos (by simp)]
  rfl

theorem allOn_push_of_ne (h : other ≠ topic) :
    (devices.push topic device).allOn other = devices.allOn other := by
  rw [allOn, toList_push, List.filter_append, List.filter_cons_of_neg (by simpa using h.symm),
    List.filter_nil, List.append_nil, allOn]

theorem get?_push_of_ne (h : other ≠ topic) :
    (devices.push topic device).get? other = devices.get? other := by
  rw [get?_eq_head?_allOn, allOn_push_of_ne devices device h, get?_eq_head?_allOn]

/-- A topic that is there already keeps its first device. -/
theorem get?_push_of_hasTopic (h : devices.hasTopic other = true) :
    (devices.push topic device).get? other = devices.get? other := by
  by_cases same : other = topic
  · subst same
    obtain ⟨first, found⟩ := Option.isSome_iff_exists.mp h
    rw [get?_eq_head?_allOn] at found
    rw [get?_eq_head?_allOn, get?_eq_head?_allOn, allOn_push_self, List.head?_append, found]
    rfl
  · exact get?_push_of_ne devices device same

theorem get?_push_of_fresh (h : topic ∉ devices.topics) :
    (devices.push topic device).get? topic = some device := by
  have nothing : devices.allOn topic = [] := by
    rw [← List.head?_eq_none_iff, ← get?_eq_head?_allOn, ← Option.not_isSome_iff_eq_none]
    exact mt (devices.hasTopic_iff_mem_topics topic).mp h
  rw [get?_eq_head?_allOn, allOn_push_self, nothing]
  rfl

end Push

section Run
variable (devices : TopicList δ) (pushes : List (String × δ))

theorem toList_pushAll : (devices.pushAll pushes).toList = devices.toList ++ pushes := by
  induction pushes generalizing devices with
  | nil => rw [pushAll, List.append_nil]
  | cons push pushes ih => rw [pushAll, ih, toList_push, List.append_assoc, List.singleton_append]

theorem allOn_pushAll (topic : String) :
    (devices.pushAll pushes).allOn topic = devices.allOn topic ++ pushedOn topic pushes := by
  induction pushes generalizing devices with
  | nil => rw [pushAll, pushedOn, List.append_nil]
  | cons push pushes ih =>
      obtain ⟨other, device⟩ := push
      rw [pushAll, pushedOn, ih]
      by_cases h : other = topic
      · subst h
        rw [allOn_push_self, if_pos rfl, List.append_assoc, List.singleton_append]
      · rw [allOn_push_of_ne devices device (Ne.symm h), if_neg h]

theorem get?_pushAll_of_hasTopic {topic : String} (h : devices.hasTopic topic = true) :
    (devices.pushAll pushes).get? topic = devices.get? topic := by
  induction pushes generalizing devices with
  | nil => rfl
  | cons push pushes ih =>
      obtain ⟨other, device⟩ := push
      have kept : (devices.push other device).get? topic = devices.get? topic :=
        get?_push_of_hasTopic devices device h
      rw [pushAll, ih _ (by rw [hasTopic, kept]; exact h), kept]

end Run

section Partition
variable (devices : TopicList δ) {topic other : String}

/-- The devices on all other topics. -/
def awayFrom (topic : String) : TopicList δ :=
  ⟨devices.toList.filter fun entry => entry.1 ≠ topic⟩

theorem mem_topics_awayFrom (h : other ∈ (devices.awayFrom topic).topics) :
    other ∈ devices.topics ∧ other ≠ topic := by
  obtain ⟨entry, member, rfl⟩ := List.mem_map.mp h
  obtain ⟨there, away⟩ := List.mem_filter.mp member
  exact ⟨List.mem_map_of_mem there, of_decide_eq_true away⟩

theorem allOn_awayFrom (h : other ≠ topic) :
    (devices.awayFrom topic).allOn other = devices.allOn other := by
  rw [allOn, awayFrom, List.filter_filter, allOn]
  congr 2
  funext entry
  by_cases same : entry.1 = other <;> simp [same, h]

theorem allOn_append_awayFrom_perm :
    (devices.allOn topic ++ (devices.awayFrom topic).devices).Perm devices.devices := by
  rw [allOn, TopicList.devices, ← List.map_append, awayFrom]
  simp only [decide_not]
  exact (List.filter_append_perm _ _).map _

/-- Topic by topic, over topics that are all different, each device is found as often as it was
declared. -/
theorem flatMap_allOn_perm {topics : List String} (distinct : topics.Nodup)
    (complete : ∀ topic ∈ devices.topics, topic ∈ topics) :
    (topics.flatMap devices.allOn).Perm devices.devices := by
  induction topics generalizing devices with
  | nil =>
      have empty : devices.toList = [] :=
        List.map_eq_nil_iff.mp (List.eq_nil_of_subset_nil complete)
      rw [List.flatMap_nil, TopicList.devices, empty, List.map_nil]
  | cons topic topics ih =>
      obtain ⟨fresh, distinct⟩ := List.nodup_cons.mp distinct
      have others : topics.flatMap devices.allOn =
          topics.flatMap (devices.awayFrom topic).allOn := by
        apply List.flatMap_congr
        intro other member
        exact (devices.allOn_awayFrom (ne_of_mem_of_not_mem member fresh)).symm
      have rest : (topics.flatMap (devices.awayFrom topic).allOn).Perm
          (devices.awayFrom topic).devices := by
        apply ih _ distinct
        intro other member
        obtain ⟨there, away⟩ := devices.mem_topics_awayFrom member
        exact (List.mem_cons.mp (complete other there)).resolve_left away
      rw [List.flatMap_cons, others]
      exact (rest.append_left _).trans devices.allOn_append_awayFrom_perm

end Partition

theorem toList_eq_zip (devices : TopicList δ) :
    devices.toList = devices.topics.zip devices.devices := by
  rw [topics, TopicList.devices, List.zip_map']
  exact (List.map_id _).symm

/-- At any point, behind the pushes made so far: what each query finds there, and what one more push
does to it, or any number of them. -/
structure Multimap (pushes : List (String × δ)) (devices : TopicList δ) : Prop where
  size : devices.size = pushes.length
  iter : devices.toList = pushes
  columns : devices.topics = pushes.map Prod.fst ∧ devices.devices = pushes.map Prod.snd
  paired : devices.toList = devices.topics.zip devices.devices
  allOn : ∀ topic, devices.allOn topic = pushedOn topic pushes
  first : ∀ topic, devices.get? topic = (devices.allOn topic).head?
  hasTopic : ∀ topic, devices.hasTopic topic = true ↔ topic ∈ devices.topics
  once : (devices.topics.dedup.flatMap devices.allOn).Perm (pushes.map Prod.snd)
  pushHere : ∀ topic device,
    (devices.push topic device).allOn topic = devices.allOn topic ++ [device]
  pushElsewhere : ∀ topic device other, other ≠ topic →
    (devices.push topic device).allOn other = devices.allOn other ∧
      (devices.push topic device).get? other = devices.get? other
  pushFirst : ∀ topic device, (devices.push topic device).get? topic =
    if devices.hasTopic topic then devices.get? topic else some device
  stable : ∀ later topic, devices.hasTopic topic = true →
    (devices.pushAll later).get? topic = devices.get? topic

/-- Of pushes onto a new list, in whatever order and with whatever topics repeated. -/
theorem multimap_pushAll (pushes : List (String × δ)) :
    (empty.pushAll pushes).Multimap pushes ∧
      ((default : TopicList δ).pushAll pushes).Multimap pushes := by
  have made : (empty.pushAll pushes).Multimap pushes := by
    generalize same : empty.pushAll pushes = devices
    have iter : devices.toList = pushes := by
      rw [← same, toList_pushAll, toList_empty, List.nil_append]
    constructor
    case size => rw [size, iter]
    case iter => exact iter
    case columns =>
      rw [topics, TopicList.devices, iter]
      exact ⟨rfl, rfl⟩
    case paired => exact devices.toList_eq_zip
    case allOn =>
      intro topic
      rw [← same, allOn_pushAll]
      rfl
    case first => exact devices.get?_eq_head?_allOn
    case hasTopic => exact devices.hasTopic_iff_mem_topics
    case once =>
      have all := devices.flatMap_allOn_perm (List.nodup_dedup _) fun _ => List.mem_dedup.mpr
      rwa [TopicList.devices, iter] at all
    case pushHere =>
      intro topic device
      exact devices.allOn_push_self device
    case pushElsewhere =>
      intro topic device other h
      exact ⟨devices.allOn_push_of_ne device h, devices.get?_push_of_ne device h⟩
    case pushFirst =>
      intro topic device
      split
      · next there => exact devices.get?_push_of_hasTopic device there
      · next fresh =>
        exact devices.get?_push_of_fresh device
          (mt (devices.hasTopic_iff_mem_topics topic).mpr fresh)
    case stable =>
      intro later topic there
      exact devices.get?_pushAll_of_hasTopic later there
  exact ⟨made, made⟩

end SceneConfig.TopicList

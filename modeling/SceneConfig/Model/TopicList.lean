/- Devices in declaration order, each under a topic.
   Several devices may share a topic: a single lookup finds the first, `allOn` finds all. -/

namespace SceneConfig

structure TopicList (δ : Type) where
  toList : List (String × δ)
deriving DecidableEq, Repr

namespace TopicList
variable {δ : Type}

def empty : TopicList δ := ⟨[]⟩

instance : Inhabited (TopicList δ) := ⟨empty⟩

def push (devices : TopicList δ) (topic : String) (device : δ) : TopicList δ :=
  ⟨devices.toList ++ [(topic, device)]⟩

def size (devices : TopicList δ) : Nat :=
  devices.toList.length

def isEmpty (devices : TopicList δ) : Bool :=
  devices.toList.isEmpty

def topics (devices : TopicList δ) : List String :=
  devices.toList.map Prod.fst

def devices (devices : TopicList δ) : List δ :=
  devices.toList.map Prod.snd

def get? (devices : TopicList δ) (topic : String) : Option δ :=
  (devices.toList.find? fun entry => entry.1 = topic).map Prod.snd

def hasTopic (devices : TopicList δ) (topic : String) : Bool :=
  (devices.get? topic).isSome

/-- Every device declared on `topic`, in declaration order. -/
def allOn (devices : TopicList δ) (topic : String) : List δ :=
  (devices.toList.filter fun entry => entry.1 = topic).map Prod.snd

@[simp] theorem toList_empty : (empty : TopicList δ).toList = [] := rfl

@[simp] theorem toList_push (devices : TopicList δ) (topic : String) (device : δ) :
    (devices.push topic device).toList = devices.toList ++ [(topic, device)] := rfl

/-- A single lookup finds the first of all the devices on the topic. -/
theorem get?_eq_head?_allOn (devices : TopicList δ) (topic : String) :
    devices.get? topic = (devices.allOn topic).head? := by
  simp only [get?, allOn, List.head?_map, List.head?_filter]

theorem hasTopic_iff_mem_topics (devices : TopicList δ) (topic : String) :
    devices.hasTopic topic = true ↔ topic ∈ devices.topics := by
  simp [hasTopic, get?, topics]

end TopicList

end SceneConfig

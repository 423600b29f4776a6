/- What happens while a configuration is compiled, in order, also when it is rejected. -/
import SceneConfig.Document.Fault
import SceneConfig.Model.Group

namespace SceneConfig

inductive Event where
  /-- A scene of unknown type was passed over. -/
  | skippedScene (scene : Nat) (type : String)
  /-- A device publishes on a topic that an earlier device of its scene has. -/
  | sharedTopic (topic : String) (place : Place)
  | builtGroup (id : Nat) (kind : GroupKind) (name : String) (devices : Nat)
  | assembled (groups scenes : Nat)
  | loaded (path : String) (groups : Nat)
deriving DecidableEq, Repr

/-- The events of a computation and how it ended. A failure keeps the events before it. -/
structure Traced (ε α : Type) where
  events : List Event
  result : Except ε α

namespace Traced
variable {ε ε' α β : Type}

protected def pure (a : α) : Traced ε α := ⟨[], .ok a⟩

protected def bind (x : Traced ε α) (f : α → Traced ε β) : Traced ε β :=
  match x.result with
  | .ok a => ⟨x.events ++ (f a).events, (f a).result⟩
  | .error e => ⟨x.events, .error e⟩

instance : Monad (Traced ε) where
  pure := Traced.pure
  bind := Traced.bind

def emit (e : Event) : Traced ε Unit := ⟨[e], .ok ()⟩

def lift (result : Except ε α) : Traced ε α := ⟨[], result⟩

def mapError (f : ε → ε') (x : Traced ε α) : Traced ε' α :=
  ⟨x.events, x.result.mapError f⟩

@[simp] theorem events_pure (a : α) : (pure a : Traced ε α).events = [] := rfl

@[simp] theorem result_pure (a : α) : (pure a : Traced ε α).result = .ok a := rfl

@[simp] theorem events_emit (e : Event) : (emit e : Traced ε Unit).events = [e] := rfl

@[simp] theorem result_emit (e : Event) : (emit e : Traced ε Unit).result = .ok () := rfl

@[simp] theorem events_lift (r : Except ε α) : (lift r).events = [] := rfl

@[simp] theorem result_lift (r : Except ε α) : (lift r).result = r := rfl

@[simp] theorem events_mapError (f : ε → ε') (x : Traced ε α) :
    (x.mapError f).events = x.events := rfl

@[simp] theorem result_mapError (f : ε → ε') (x : Traced ε α) :
    (x.mapError f).result = x.result.mapError f := rfl

/-- A computation that fails stops the trace: nothing after it adds an event. -/
theorem events_bind (x : Traced ε α) (f : α → Traced ε β) :
    (x >>= f).events =
      x.events ++ match x.result with
        | .ok a => (f a).events
        | .error _ => [] := by
  change (Traced.bind x f).events = _
  unfold Traced.bind
  cases x.result with
  | ok a => rfl
  | error e => exact (List.append_nil _).symm

theorem result_bind (x : Traced ε α) (f : α → Traced ε β) :
    (x >>= f).result = x.result.bind fun a => (f a).result := by
  change (Traced.bind x f).result = _
  unfold Traced.bind
  cases x.result with
  | ok a => rfl
  | error e => rfl

end Traced

end SceneConfig

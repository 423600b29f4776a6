/- How a compilation ends: with its events and result, or with its events and fault, and where the
   fault lies. Conditions on the end of a run follow its steps. -/
import SceneConfig.Proofs.Document.Concatenation

namespace SceneConfig
open Json (Value)
variable {ε α β : Type} {document : Value}

namespace Traced

/-- A run that succeeds meets the one condition, a run that fails the other. -/
def Ends (ok : List Event → α → Prop) (error : List Event → ε → Prop) (x : Traced ε α) : Prop :=
  match x.result with
  | .ok a => ok x.events a
  | .error e => error x.events e

namespace Ends
variable {ok : List Event → α → Prop} {ok' : List Event → β → Prop}
  {error : List Event → ε → Prop}

theorem mono {ok' : List Event → α → Prop} {error' : List Event → ε → Prop} {x : Traced ε α}
    (h : x.Ends ok error) (oks : ∀ events a, x.result = .ok a → ok events a → ok' events a)
    (errors : ∀ events e, x.result = .error e → error events e → error' events e) :
    x.Ends ok' error' := by
  obtain ⟨events, result⟩ := x
  cases result with
  | ok a => exact oks events a rfl h
  | error e => exact errors events e rfl h

theorem of_ok {x : Traced ε α} {a : α} (h : x.Ends ok error) (result : x.result = .ok a) :
    ok x.events a := by
  rw [Ends, result] at h
  exact h

theorem of_error {x : Traced ε α} {e : ε} (h : x.Ends ok error) (result : x.result = .error e) :
    error x.events e := by
  rw [Ends, result] at h
  exact h

/-- The second run adds its events behind those of the first. -/
theorem bind {x : Traced ε α} {f : α → Traced ε β} (h : x.Ends ok error)
    (next : ∀ events a, x.result = .ok a → ok events a →
      (f a).Ends (fun later => ok' (events ++ later)) fun later => error (events ++ later)) :
    (x >>= f).Ends ok' error := by
  obtain ⟨events, result⟩ := x
  cases result with
  | ok a => exact next events a rfl h
  | error e => exact h

/-- A first step without events. -/
theorem bind_lift {r : Except ε α} {f : α → Traced ε β}
    (failed : ∀ e, r = .error e → error [] e)
    (next : ∀ a, r = .ok a → (f a).Ends ok' error) : (Traced.lift r >>= f).Ends ok' error := by
  cases r with
  | ok a => exact next a rfl
  | error e => exact failed e rfl

theorem map {x : Traced ε α} {f : α → β} (h : x.Ends (fun events a => ok' events (f a)) error) :
    (f <$> x).Ends ok' error := by
  obtain ⟨events, result⟩ := x
  cases result with
  | ok a =>
      change ok' (events ++ []) (f a)
      rw [List.append_nil]
      exact h
  | error e => exact h

/-- An event in front of a run, if there is anything to say. -/
theorem remark {x : Traced ε α} {event : Event} {said : Bool}
    (h : x.Ends (fun later => ok ((if said then [event] else []) ++ later))
      fun later => error ((if said then [event] else []) ++ later)) :
    (if said then emit event >>= fun _ => x else x).Ends ok error := by
  cases said with
  | true => exact h
  | false => exact h

end Ends

end Traced

/-- The position in its scene of the device that a fault lies in: part of its location, or of the
field when the slot of the device holds no object. -/
def Fault.device? : Fault Place → Option Nat
  | .wrongShape (.device j) (.scene _) _ => some j
  | fault =>
    match fault.place with
    | .document => none
    | .scene _ => none
    | .device _ j => some j

section Positions

def Place.scene? : Place → Option Nat
  | .document => none
  | .scene i => some i
  | .device i _ => some i

def Place.device? : Place → Option Nat
  | .document => none
  | .scene _ => none
  | .device _ j => some j

/-- A fault lies where its check is made. -/
theorem Check.Reports.position {check : Check} {fault : Fault Place}
    (h : check.Reports document fault) :
    fault.scene? = check.place.scene? ∧ fault.device? = check.place.device? := by
  obtain ⟨place, demand⟩ := check
  obtain ⟨node, _, blames⟩ := h
  cases blames with
  | scene | device => exact ⟨rfl, rfl⟩
  | missing | wrongShape | unknownSensor | notAlone => cases place <;> exact ⟨rfl, rfl⟩

theorem Performs.position {place : Place} {checks : List Check} {x : Except (Fault Place) α}
    (h : Performs document checks x) (inside : ∀ check ∈ checks, check.place = place)
    {fault : Fault Place} (failed : x = .error fault) :
    fault.scene? = place.scene? ∧ fault.device? = place.device? := by
  subst failed
  obtain ⟨before, check, after, rfl, _, _, reports⟩ := h
  have here := inside check (List.mem_append_right before List.mem_cons_self)
  rw [← here]
  exact reports.position

theorem Check.place_of_mem_ofDevice {check : Check} {kind : GroupKind} {record : Value}
    {count : Nat} {place : Place} (h : check ∈ ofDevice kind record count place) :
    check.place = place := by
  have texts (keys : List String) (member : check ∈ keys.map (text place)) :
      check.place = place := by
    obtain ⟨key, _, rfl⟩ := List.mem_map.mp member
    rfl
  cases kind with
  | switch => exact texts _ h
  | sensor =>
      rcases List.mem_append.mp h with member | reading
      · simp only [List.mem_cons, List.not_mem_nil, or_false] at member
        rcases member with rfl | rfl | rfl | rfl | rfl <;> rfl
      · rw [ofReadings] at reading
        split at reading
        · rcases List.mem_cons.mp reading with rfl | member
          · rfl
          · split at member
            · exact texts _ member
            · cases member
        · cases reading

end Positions

end SceneConfig

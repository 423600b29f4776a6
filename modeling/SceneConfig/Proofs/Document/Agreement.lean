/- Two runs that agree: related faults, or related results, after the same events.
   Runs agree step by step, and a reader of members agrees with itself on two records whose members
   it cannot tell apart. -/
import Mathlib.Data.List.Forall2
import SceneConfig.Document.Trace
import SceneConfig.Proofs.Document.Members

namespace SceneConfig
open Json (Value)
variable {π ε ε' α β α' β' : Type}

/-- Both end in errors that are related, or in results that are. -/
inductive Agree (E : ε → ε' → Prop) (R : α → β → Prop) : Except ε α → Except ε' β → Prop
  | ok {a : α} {b : β} : R a b → Agree E R (.ok a) (.ok b)
  | error {e : ε} {e' : ε'} : E e e' → Agree E R (.error e) (.error e')

theorem Agree.refl (x : Except ε α) : Agree Eq Eq x x := by
  cases x with
  | ok a => exact .ok rfl
  | error e => exact .error rfl

theorem Agree.eq {x y : Except ε α} (h : Agree Eq Eq x y) : x = y := by
  cases h with
  | ok same => rw [same]
  | error same => rw [same]

theorem Agree.of_ok {E : ε → ε' → Prop} {R : α → β → Prop} {a : α} {y : Except ε' β}
    (h : Agree E R (.ok a) y) : ∃ b, y = .ok b ∧ R a b := by
  cases h with
  | ok related => exact ⟨_, rfl, related⟩

theorem Agree.of_error {E : ε → ε' → Prop} {R : α → β → Prop} {e : ε} {y : Except ε' β}
    (h : Agree E R (.error e) y) : ∃ e', y = .error e' ∧ E e e' := by
  cases h with
  | error related => exact ⟨_, rfl, related⟩

theorem Agree.bind {E : ε → ε' → Prop} {R : α → β → Prop} {S : α' → β' → Prop}
    {x : Except ε α} {y : Except ε' β} {f : α → Except ε α'} {g : β → Except ε' β'}
    (h : Agree E R x y) (next : ∀ a b, R a b → Agree E S (f a) (g b)) :
    Agree E S (x.bind f) (y.bind g) := by
  cases h with
  | ok related => exact next _ _ related
  | error related => exact .error related

theorem Agree.map {E : ε → ε' → Prop} {R : α → β → Prop} {S : α' → β' → Prop}
    {x : Except ε α} {y : Except ε' β} {f : α → α'} {g : β → β'} (h : Agree E R x y)
    (maps : ∀ a b, R a b → S (f a) (g b)) : Agree E S (x.map f) (y.map g) := by
  cases h with
  | ok related => exact .ok (maps _ _ related)
  | error related => exact .error related

theorem Agree.mono {E F : ε → ε' → Prop} {R S : α → β → Prop} {x : Except ε α} {y : Except ε' β}
    (h : Agree E R x y) (errors : ∀ e e', E e e' → F e e') (results : ∀ a b, R a b → S a b) :
    Agree F S x y := by
  cases h with
  | ok related => exact .ok (results _ _ related)
  | error related => exact .error (errors _ _ related)

theorem bind_congr_ok {x : Except ε α} {f g : α → Except ε β}
    (h : ∀ a, x = .ok a → f a = g a) : x.bind f = x.bind g := by
  cases x with
  | ok a => exact h a rfl
  | error e => rfl

/-- The same events, and results that agree. -/
structure Traced.Agree (R : α → β → Prop) (x : Traced ε α) (y : Traced ε β) : Prop where
  events : x.events = y.events
  result : SceneConfig.Agree Eq R x.result y.result

namespace Traced

theorem Agree.eq {x y : Traced ε α} (h : Agree Eq x y) : x = y := by
  obtain ⟨events, result⟩ := x
  obtain ⟨events', result'⟩ := y
  obtain ⟨same, results⟩ := h
  cases same
  cases results.eq
  rfl

theorem Agree.bind {R : α → β → Prop} {S : α' → β' → Prop} {x : Traced ε α} {y : Traced ε β}
    {f : α → Traced ε α'} {g : β → Traced ε β'} (h : Agree R x y)
    (next : ∀ a b, R a b → Agree S (f a) (g b)) : Agree S (x >>= f) (y >>= g) := by
  obtain ⟨events, result⟩ := x
  obtain ⟨_, result'⟩ := y
  obtain ⟨rfl, agree⟩ := h
  constructor
  · rw [events_bind, events_bind]
    cases agree with
    | ok related => simp only [(next _ _ related).events]
    | error same => rfl
  · rw [result_bind, result_bind]
    exact agree.bind fun a b related => (next a b related).result

theorem bind_congr_ok {x : Traced ε α} {f g : α → Traced ε β}
    (h : ∀ a, x.result = .ok a → f a = g a) : x >>= f = x >>= g := by
  change Traced.bind x f = Traced.bind x g
  unfold Traced.bind
  cases hx : x.result with
  | ok a => simp only [h a hx]
  | error e => rfl

theorem Agree.mono {R S : α → β → Prop} {x : Traced ε α} {y : Traced ε β} (h : Agree R x y)
    (weaker : ∀ a b, R a b → S a b) : Agree S x y :=
  ⟨h.events, h.result.mono (fun _ _ same => same) weaker⟩

theorem Agree.lift {R : α → β → Prop} {x : Except ε α} {y : Except ε β}
    (h : SceneConfig.Agree Eq R x y) : Agree R (Traced.lift x) (Traced.lift y) :=
  ⟨rfl, h⟩

theorem Agree.mapError {R : α → β → Prop} {x : Traced ε α} {y : Traced ε β} (h : Agree R x y)
    (f : ε → ε') : Agree R (x.mapError f) (y.mapError f) := by
  obtain ⟨events, result⟩ := x
  obtain ⟨events', result'⟩ := y
  obtain ⟨same, agree⟩ := h
  cases agree with
  | ok related => exact ⟨same, .ok related⟩
  | error e => exact ⟨same, .error (congrArg f e)⟩

theorem Agree.pure {R : α → β → Prop} {a : α} {b : β} (h : R a b) :
    Agree R (Pure.pure a : Traced ε α) (Pure.pure b) :=
  ⟨rfl, .ok h⟩

theorem Agree.refl (x : Traced ε α) : Agree Eq x x :=
  ⟨rfl, .refl x.result⟩

end Traced

/-- A view of the members under `key` shows related things, or nothing of either; and they are
there or absent together. -/
structure MembersAgree (view : Value → Option α) (R : α → α → Prop) (key : String)
    (v w : Value) : Prop where
  has : v.has key = w.has key
  seen : Option.Rel R ((v.get? key).bind view) ((w.get? key).bind view)

abbrev TextsAgree (key : String) (v w : Value) : Prop :=
  MembersAgree Value.text? Eq key v w

abbrev ListsAgree (R : Value → Value → Prop) (key : String) (v w : Value) : Prop :=
  MembersAgree Value.items? (List.Forall₂ R) key v w

namespace MembersAgree
variable {v w : Value} {key : String} {place : π}

theorem eq {view : Value → Option α} (h : MembersAgree view Eq key v w) :
    (v.get? key).bind view = (w.get? key).bind view := by
  have seen := h.seen
  generalize (v.get? key).bind view = a?, (w.get? key).bind view = b? at seen ⊢
  cases seen with
  | some same => rw [same]
  | none => rfl

theorem blame_eq {view : Value → Option α} {R : α → α → Prop} (h : MembersAgree view R key v w)
    (expected : Shape) : v.blame key place expected = w.blame key place expected := by
  rw [Value.blame, h.has, Value.blame]

theorem requireText {R : String → String → Prop} (h : MembersAgree Value.text? R key v w) :
    Agree Eq R (v.requireText key place) (w.requireText key place) := by
  have seen : Option.Rel R (v.getText? key) (w.getText? key) := h.seen
  rw [Value.requireText, Value.requireText, h.blame_eq]
  generalize v.getText? key = s?, w.getText? key = t? at seen
  cases seen with
  | some related => exact .ok related
  | none => exact .error rfl

theorem requireItems {R : Value → Value → Prop} (h : ListsAgree R key v w) :
    Agree Eq (List.Forall₂ R) (v.requireItems key place) (w.requireItems key place) := by
  have seen : Option.Rel (List.Forall₂ R) (v.getItems? key) (w.getItems? key) := h.seen
  rw [Value.requireItems, Value.requireItems, h.blame_eq]
  generalize v.getItems? key = vs?, w.getItems? key = ws? at seen
  cases seen with
  | some related => exact .ok related
  | none => exact .error rfl

theorem requireText_eq (h : TextsAgree key v w) :
    v.requireText key place = w.requireText key place :=
  h.requireText.eq

theorem optionalText_eq (h : TextsAgree key v w) :
    v.optionalText key place = w.optionalText key place := by
  rw [Value.optionalText, h.requireText_eq, h.has, Value.optionalText]

theorem optionalFlag_eq (h : MembersAgree Value.flag? Eq key v w) :
    v.optionalFlag key place = w.optionalFlag key place := by
  rw [Value.optionalFlag, Value.getFlag?, h.eq, h.has, h.blame_eq, Value.optionalFlag,
    Value.getFlag?]

end MembersAgree

end SceneConfig

/- How a document is written does not matter: neither the order of members, nor blanks and escapes,
   nor members that a later one of the same key overrides. -/
import Mathlib.Data.List.Perm.Basic
import Mathlib.Logic.Relation
import SceneConfig.Proofs.Document.Alike
import SceneConfig.Proofs.Document.Range
import SceneConfig.Proofs.Json.Pretty
import SceneConfig.Store.Load

namespace SceneConfig
open Json (Value lookup SpellsDocument)
open Relation (ReflTransGen)

namespace Json
variable {key : String} {members others : List (String × Value)}

theorem exists_lookup (h : key ∈ members.map Prod.fst) : ∃ v, lookup key members = some v := by
  induction members with
  | nil => cases h
  | cons member members ih =>
      rw [lookup]
      cases behind : lookup key members with
      | some v => exact ⟨v, rfl⟩
      | none =>
          rcases List.mem_cons.mp h with rfl | later
          · exact ⟨member.2, if_pos rfl⟩
          · obtain ⟨v, found⟩ := ih later
            rw [behind] at found
            cases found

theorem lookup_perm (distinct : (members.map Prod.fst).Nodup) (h : members.Perm others)
    (key : String) : lookup key members = lookup key others := by
  have keys : (members.map Prod.fst).Perm (others.map Prod.fst) := h.map Prod.fst
  by_cases present : key ∈ members.map Prod.fst
  · obtain ⟨⟨_, v⟩, member, rfl⟩ := List.mem_map.mp present
    rw [lookup_of_mem distinct member, lookup_of_mem (keys.nodup distinct) (h.mem_iff.mp member)]
  · have absent (other : String × Value) (member : other ∈ members) : other.1 ≠ key :=
      fun same => present (List.mem_map.mpr ⟨other, member, same⟩)
    have absent' (other : String × Value) (member : other ∈ others) : other.1 ≠ key :=
      absent other (h.mem_iff.mpr member)
    rw [lookup_eq_none absent, lookup_eq_none absent']

/-- A member is put in somewhere in front of one that has its key. -/
inductive Overrides : List (String × Value) → List (String × Value) → Prop
  | insert {before after : List (String × Value)} {key : String} (v : Value) :
      key ∈ after.map Prod.fst → Overrides (before ++ after) (before ++ (key, v) :: after)

theorem Overrides.lookup_eq (h : Overrides members others) (key : String) :
    lookup key members = lookup key others := by
  cases h with
  | @insert before after k v present =>
      have same : lookup key after = lookup key ((k, v) :: after) := by
        rw [lookup]
        by_cases hk : k = key
        · obtain ⟨w, found⟩ := exists_lookup present
          rw [hk] at found
          rw [found]
        · rw [if_neg hk]
          cases lookup key after <;> rfl
      rw [lookup_append, lookup_append, same]

namespace Value

/-- No object in the value has two members of one key. -/
inductive Distinct : Value → Prop
  | null : Distinct .null
  | bool (b : Bool) : Distinct (.bool b)
  | number (n : Number) : Distinct (.number n)
  | string (s : String) : Distinct (.string s)
  | array {items : List Value} : (∀ v ∈ items, Distinct v) → Distinct (.array items)
  | object {members : List (String × Value)} : (members.map Prod.fst).Nodup →
      (∀ m ∈ members, Distinct m.2) → Distinct (.object members)

variable {step : List (String × Value) → List (String × Value) → Prop} {v w : Value}

/-- The step is taken on the members of one object, at any depth. -/
inductive Somewhere (step : List (String × Value) → List (String × Value) → Prop) :
    Value → Value → Prop
  | here {members others : List (String × Value)} : step members others →
      Somewhere step (.object members) (.object others)
  | item {before after : List Value} {v w : Value} : Somewhere step v w →
      Somewhere step (.array (before ++ v :: after)) (.array (before ++ w :: after))
  | member {before after : List (String × Value)} {key : String} {v w : Value} :
      Somewhere step v w →
      Somewhere step (.object (before ++ (key, v) :: after)) (.object (before ++ (key, w) :: after))

/-- The members of each object stand in any order. -/
def Reordered : Value → Value → Prop :=
  ReflTransGen (Somewhere List.Perm)

/-- Members that are not seen are put in, any number of them. -/
def Overridden : Value → Value → Prop :=
  ReflTransGen (Somewhere Overrides)

theorem Distinct.reorder (h : Somewhere List.Perm v w) (distinct : v.Distinct) : w.Distinct := by
  induction h with
  | here order =>
      cases distinct with
      | object keys each =>
          refine .object ((order.map Prod.fst).nodup keys) ?_
          intro m member
          exact each m (order.mem_iff.mpr member)
  | @item before after v w _ ih =>
      cases distinct with
      | array each =>
          refine .array ?_
          intro u member
          rcases List.mem_append.mp member with front | rest
          · exact each u (List.mem_append_left _ front)
          rcases List.mem_cons.mp rest with rfl | behind
          · exact ih (each v (List.mem_append_right _ List.mem_cons_self))
          · exact each u (List.mem_append_right _ (List.mem_cons_of_mem _ behind))
  | @member before after key v w _ ih =>
      cases distinct with
      | object keys each =>
          refine .object ?_ ?_
          · rw [List.map_append, List.map_cons] at keys ⊢
            exact keys
          intro m member
          rcases List.mem_append.mp member with front | rest
          · exact each m (List.mem_append_left _ front)
          rcases List.mem_cons.mp rest with rfl | behind
          · exact ih (each (key, v) (List.mem_append_right _ List.mem_cons_self))
          · exact each m (List.mem_append_right _ (List.mem_cons_of_mem _ behind))

/-- The object on which the step is taken is one without a key twice. -/
theorem Somewhere.distinct (h : Somewhere step v w) (distinct : v.Distinct) :
    Somewhere (fun members others => (members.map Prod.fst).Nodup ∧ step members others) v w := by
  induction h with
  | here taken =>
      cases distinct with
      | object keys _ => exact .here ⟨keys, taken⟩
  | item _ ih =>
      cases distinct with
      | array each => exact .item (ih (each _ (List.mem_append_right _ List.mem_cons_self)))
  | @member before after key v w _ ih =>
      cases distinct with
      | object _ each =>
          exact .member (ih (each (key, v) (List.mem_append_right _ List.mem_cons_self)))

theorem Alike.object_of_rel (h : ∀ key, Option.Rel Alike (lookup key members) (lookup key others)) :
    Alike (.object members) (.object others) := by
  refine .object ?_ ?_
  · intro key
    have related := h key
    generalize lookup key members = a?, lookup key others = b? at related
    cases related <;> rfl
  · intro key v w hv hw
    have related := h key
    rw [hv, hw] at related
    cases related with
    | some alike => exact alike

theorem Alike.item {before after : List Value} (h : v.Alike w) :
    Alike (.array (before ++ v :: after)) (.array (before ++ w :: after)) := by
  have front : List.Forall₂ Alike before before := List.forall₂_same.mpr fun u _ => .refl u
  have behind : List.Forall₂ Alike after after := List.forall₂_same.mpr fun u _ => .refl u
  have pointwise : List.Forall₂ Alike (before ++ v :: after) (before ++ w :: after) :=
    List.rel_append front (.cons h behind)
  obtain ⟨length, each⟩ := List.forall₂_iff_get.mp pointwise
  refine .array length ?_
  intro i a b ha hb
  obtain ⟨low, rfl⟩ := List.getElem?_eq_some_iff.mp ha
  obtain ⟨low', rfl⟩ := List.getElem?_eq_some_iff.mp hb
  exact each i low low'

theorem Alike.member {before after : List (String × Value)} (h : v.Alike w) (k : String) :
    Alike (.object (before ++ (k, v) :: after)) (.object (before ++ (k, w) :: after)) := by
  have refl (found : Option Value) : Option.Rel Alike found found := by
    cases found with
    | none => exact .none
    | some u => exact .some (.refl u)
  apply Alike.object_of_rel
  intro key
  rw [lookup_append, lookup_append, lookup, lookup]
  cases lookup key after with
  | some u => exact refl (some u)
  | none =>
      by_cases hk : k = key
      · simp only [if_pos hk, Option.some_or]
        exact .some h
      · simp only [if_neg hk, Option.none_or]
        exact refl (lookup key before)

/-- A step that changes no lookup where it is taken is not seen from outside either. -/
theorem Somewhere.alike (same : ∀ members others, step members others →
    ∀ key, lookup key members = lookup key others) (h : Somewhere step v w) : v.Alike w := by
  induction h with
  | @here members others taken =>
      apply Alike.object_of_rel
      intro key
      rw [same members others taken key]
      cases lookup key others with
      | none => exact .none
      | some u => exact .some (.refl u)
  | item _ ih => exact ih.item
  | member _ ih => exact ih.member _

end Value

end Json

/-- Compiling makes no difference between the two. -/
structure Interchangeable (v w : Value) : Prop where
  isObject : v.isObject = w.isObject
  compiled : Model.ofDocument v = Model.ofDocument w

namespace Interchangeable
variable {u v w : Value}

theorem refl (v : Value) : Interchangeable v v := ⟨rfl, rfl⟩

theorem trans (h : Interchangeable u v) (h' : Interchangeable v w) : Interchangeable u w :=
  ⟨h.isObject.trans h'.isObject, h.compiled.trans h'.compiled⟩

theorem of_alike (h : v.Alike w) : Interchangeable v w :=
  ⟨h.isObject_eq, (documentsAgree_of_alike h).ofDocument_eq⟩

theorem of_reordered (h : v.Reordered w) (distinct : v.Distinct) :
    Interchangeable v w ∧ w.Distinct := by
  induction h with
  | refl => exact ⟨.refl v, distinct⟩
  | tail _ last ih =>
      obtain ⟨sofar, distinct⟩ := ih
      have alike := (last.distinct distinct).alike fun _ _ ⟨keys, order⟩ =>
        Json.lookup_perm keys order
      exact ⟨sofar.trans (.of_alike alike), distinct.reorder last⟩

theorem of_overridden (h : v.Overridden w) : Interchangeable v w := by
  induction h with
  | refl => exact .refl v
  | tail _ last ih =>
      have alike := last.alike fun _ _ insert => insert.lookup_eq
      exact ih.trans (.of_alike alike)

end Interchangeable

namespace Model
variable {v w : Value} {text text' : List Char}

theorem ofText_of_spells (h : SpellsDocument v text) :
    Model.ofText (String.ofList text) =
      if v.isObject then (Model.ofDocument v).mapError .fault
      else .lift (.error .notAnObject) := by
  have parsed : parseDocument (String.ofList text) =
      if v.isObject then .ok v else .error .notAnObject := by
    rw [parseDocument, Json.parse_of_spellsDocument h]
  rw [Model.ofText, parsed]
  cases v.isObject <;> rfl

theorem ofText_congr (same : Interchangeable v w) (h : SpellsDocument v text)
    (h' : SpellsDocument w text') :
    Model.ofText (String.ofList text) = Model.ofText (String.ofList text') := by
  rw [ofText_of_spells h, ofText_of_spells h', same.isObject, same.compiled]

end Model

/-- Whatever text spells an object, in whatever order of its members, compiles as the object does,
and members put in front of those that override them change nothing. -/
theorem Model.ofText_spelling {v : Value} (object : v.isObject = true) (distinct : v.Distinct) :
    (∀ w text, v.Reordered w → SpellsDocument w text →
        Model.ofText (String.ofList text) = (Model.ofDocument v).mapError .fault) ∧
      ∀ w w' text text', w.Overridden w' → SpellsDocument w text → SpellsDocument w' text' →
        Model.ofText (String.ofList text') = Model.ofText (String.ofList text) := by
  constructor
  · intro w text order spelled
    obtain ⟨same, _⟩ := Interchangeable.of_reordered order distinct
    rw [Model.ofText_of_spells spelled, ← same.isObject, if_pos object, same.compiled]
  · intro w w' text text' inserted spelled spelled'
    exact (Model.ofText_congr (.of_overridden inserted) spelled spelled').symm

section Hall

def hallMembers : List (String × Value) :=
  [("type", .string "Light"), ("name", .string "Hall"), ("icon", .string "bulb")]

/-- A hall with one device. -/
def hallDocument (device : Value) : Value :=
  homeDocument [] [.object (hallMembers ++ [("devices", .array [device])])]

/-- A device with a character that takes two units. -/
def plainDevice : Value :=
  .object [("name", .string "A😀"), ("getTopic", .string "g"), ("setTopic", .string "s"),
    ("onValue", .string "1"), ("offValue", .string "0")]

theorem somewhere_hallDocument {step : List (String × Value) → List (String × Value) → Prop}
    {device other : Value} (h : Json.Value.Somewhere step device other) :
    Json.Value.Somewhere step (hallDocument device) (hallDocument other) := by
  have item {v w : Value} (h : Json.Value.Somewhere step v w) :
      Json.Value.Somewhere step (.array [v]) (.array [w]) :=
    @Json.Value.Somewhere.item step [] [] v w h
  have scene := @Json.Value.Somewhere.member step hallMembers [] "devices" _ _ (item h)
  exact @Json.Value.Somewhere.member step homeMembers [] "scenes" _ _ (item scene)

theorem distinct_hallDocument : (hallDocument plainDevice).Distinct := by
  have item {v : Value} (h : v.Distinct) : (Value.array [v]).Distinct := by
    refine .array fun w member => ?_
    rwa [List.mem_singleton.mp member]
  have texts {members : List (String × Value)}
      (h : ∀ m ∈ members, ∃ text, m.2 = .string text) : ∀ m ∈ members, m.2.Distinct := by
    intro m member
    obtain ⟨text, same⟩ := h m member
    rw [same]
    exact .string text
  have device : plainDevice.Distinct := .object (by decide) (texts (by simp))
  have scene : (Value.object (hallMembers ++ [("devices", .array [plainDevice])])).Distinct :=
    .object (by decide) (List.forall_mem_append.mpr
      ⟨texts (by simp [hallMembers]), List.forall_mem_singleton.mpr (item device)⟩)
  exact .object (by decide) (List.forall_mem_append.mpr
    ⟨texts (by simp [homeMembers]), List.forall_mem_singleton.mpr (item scene)⟩)

/-- A member written without blanks and escapes. -/
def plainMember (m : String × Value) : Json.Member :=
  ⟨m.1, [], Json.Printer.quoted m.1, [], m.2, [], Json.Printer.value 0 m.2, []⟩

def objectOf (members : List Json.Member) : Value :=
  .object (members.map fun m => (m.key, m.element.value))

def textOf (members : List Json.Member) : List Char :=
  '{' :: Json.listed (members.map Json.Member.spelled) ++ [] ++ ['}']

def elementOf (members : List Json.Member) : Json.Element :=
  ⟨objectOf members, [], textOf members, [' ']⟩

/-- A member that is an array of one object. -/
def arrayMember (key : String) (members : List Json.Member) : Json.Member :=
  ⟨key, [], Json.Printer.quoted key, [], .array [objectOf members], [],
    '[' :: Json.listed [(elementOf members).spelled] ++ [] ++ [']'], []⟩

/-- The first two members in the other order, one among blanks with an escape in its key and one
with escapes in its text. -/
def escapedDevice : List Json.Member :=
  [⟨"getTopic", ['\t'], "\"get\\u0054opic\"".toList, [' '], .string "g", ['\n'], ['"', 'g', '"'],
      ['\r']⟩,
    ⟨"name", [], Json.Printer.quoted "name", [], .string "A😀", [],
      "\"\\u0041\\ud83D\\uDE00\"".toList, []⟩,
    plainMember ("setTopic", .string "s"), plainMember ("onValue", .string "1"),
    plainMember ("offValue", .string "0")]

/-- A number under the same key stands in front. -/
def overriddenDevice : List Json.Member :=
  ⟨"getTopic", [], Json.Printer.quoted "getTopic", [], .number ⟨-15, -1⟩, [], "-1.5E+0".toList,
    []⟩ :: escapedDevice

def hallText (device : List Json.Member) : List Char :=
  let scene := hallMembers.map plainMember ++ [arrayMember "devices" device]
  [' '] ++ textOf (homeMembers.map plainMember ++ [arrayMember "scenes" scene]) ++ []

/-- The parts of a member, where so many levels are left under the object around it. -/
structure SpellsMember (depth : Nat) (m : Json.Member) : Prop where
  before : Json.Blank m.before
  name : Json.SpellsString m.key m.name
  gap : Json.Blank m.gap
  front : Json.Blank m.element.before
  element : Json.Spells depth m.element.value m.element.text
  behind : Json.Blank m.element.after

theorem spells_textOf {depth : Nat} {members : List Json.Member}
    (h : ∀ m ∈ members, SpellsMember depth m) :
    Json.Spells (depth + 1) (objectOf members) (textOf members) := by
  refine .object .nil ?_ ?_ fun m member => (h m member).element
  · intro m member
    exact ⟨(h m member).before, (h m member).name, (h m member).gap⟩
  · intro m member
    exact ⟨(h m member).front, (h m member).behind⟩

theorem spellsMember_plainMember {depth : Nat} {m : String × Value}
    (h : Json.Readable depth m.2) : SpellsMember depth (plainMember m) :=
  ⟨.nil, Json.Printer.spellsString_quoted m.1, .nil, .nil, Json.Printer.spells_value h 0, .nil⟩

theorem spellsMember_arrayMember {depth : Nat} {members : List Json.Member}
    (h : ∀ m ∈ members, SpellsMember depth m) (key : String) :
    SpellsMember (depth + 2) (arrayMember key members) := by
  have array : Json.Spells (depth + 2) (.array [objectOf members])
      ('[' :: Json.listed [(elementOf members).spelled] ++ [] ++ [']']) := by
    refine @Json.Spells.array _ [elementOf members] [] .nil ?_ ?_
    · intro e member
      cases List.mem_singleton.mp member
      exact ⟨.nil, .space⟩
    · intro e member
      cases List.mem_singleton.mp member
      exact spells_textOf h
  exact ⟨.nil, Json.Printer.spellsString_quoted key, .nil, .nil, array, .nil⟩

theorem spellsDocument_hallText {device : List Json.Member}
    (h : ∀ m ∈ device, SpellsMember 122 m) :
    SpellsDocument (hallDocument (objectOf device)) (hallText device) := by
  have plain {depth : Nat} {members : List (String × Value)}
      (h : ∀ m ∈ members, Json.Readable depth m.2) :
      ∀ m ∈ members.map plainMember, SpellsMember depth m :=
    List.forall_mem_map.mpr fun m member => spellsMember_plainMember (h m member)
  have scene : ∀ m ∈ hallMembers.map plainMember ++ [arrayMember "devices" device],
      SpellsMember 124 m :=
    List.forall_mem_append.mpr ⟨plain (by simp [hallMembers]),
      List.forall_mem_singleton.mpr (spellsMember_arrayMember h "devices")⟩
  have readable : ∀ m ∈ homeMembers, Json.Readable 126 m.2 := by simp [homeMembers]
  have home := List.forall_mem_append.mpr ⟨plain readable,
    List.forall_mem_singleton.mpr (spellsMember_arrayMember scene "scenes")⟩
  exact .alone .space (spells_textOf home) .nil

theorem spellsMember_escapedDevice : ∀ m ∈ escapedDevice, SpellsMember 122 m := by
  have raw := Json.Printer.spellsChars_escapeChar
  have T : Json.SpellsChar 'T' "\\u0054".toList :=
    .unit (show Json.HexUnit 0x54 _ from
      .digits (i := 0) (j := 0) (k := 5) (l := 4) (.inl rfl) (.inl rfl) (.inl rfl) (.inl rfl))
  have A : Json.SpellsChar 'A' "\\u0041".toList :=
    .unit (show Json.HexUnit 0x41 _ from
      .digits (i := 0) (j := 0) (k := 4) (l := 1) (.inl rfl) (.inl rfl) (.inl rfl) (.inl rfl))
  have smile : Json.SpellsChar '😀' "\\ud83D\\uDE00".toList :=
    @Json.SpellsChar.pair '😀' _ _ (by decide)
      (show Json.HexUnit 0xD83D _ from .digits (i := 13) (j := 8) (k := 3) (l := 13)
        (.inl rfl) (.inl rfl) (.inl rfl) (.inr rfl))
      (show Json.HexUnit 0xDE00 _ from .digits (i := 13) (j := 14) (k := 0) (l := 0)
        (.inr rfl) (.inr rfl) (.inl rfl) (.inl rfl))
  have letter := Json.Printer.spellsChar_escapeChar
  have key : Json.SpellsChars "getTopic".toList "get\\u0054opic".toList :=
    .cons (letter 'g') (.cons (letter 'e') (.cons (letter 't') (.cons T (raw "opic".toList))))
  have text : Json.SpellsChars "A😀".toList "\\u0041\\ud83D\\uDE00".toList :=
    .cons A (.cons smile .nil)
  simp only [escapedDevice, List.forall_mem_cons]
  refine ⟨?_, ?_, spellsMember_plainMember (.string _), spellsMember_plainMember (.string _),
    spellsMember_plainMember (.string _), by nofun⟩
  · exact ⟨.single rfl, .quoted key, .space, .single rfl,
      .string (Json.Printer.spellsString_quoted "g"), .single rfl⟩
  · exact ⟨.nil, Json.Printer.spellsString_quoted _, .nil, .nil, .string (.quoted text), .nil⟩

theorem spellsMember_overriddenDevice : ∀ m ∈ overriddenDevice, SpellsMember 122 m := by
  have digit (c : Char) (h : c.isDigit = true) : Json.SomeDigits [c] := by
    refine ⟨List.cons_ne_nil _ _, ?_⟩
    simpa using h
  have number : Json.SpellsNumber ⟨-15, -1⟩ "-1.5E+0".toList :=
    @Json.SpellsNumber.numeral true ['1'] ['5'] _ _ 0 (.digits (by decide) (digit '1' rfl))
      (.point (digit '5' rfl)) (@Json.SpellsPower.plus 'E' ['0'] (by decide) (digit '0' rfl))
  have finite : Json.Number.isFinite ⟨-15, -1⟩ = true := by
    rw [Json.Number.isFinite, Json.Number.leading_of_lt (by decide)]
    decide
  refine List.forall_mem_cons.mpr ⟨?_, spellsMember_escapedDevice⟩
  exact ⟨.nil, Json.Printer.spellsString_quoted _, .nil, .nil, .number finite number, .nil⟩

/-- Members of the device change places, and one is overridden. -/
theorem Model.ofText_spelling_escaped :
    (hallDocument plainDevice).isObject = true ∧ (hallDocument plainDevice).Distinct ∧
      (Model.ofText (String.ofList (hallText escapedDevice))).result =
        .ok ⟨⟨"home", "secret"⟩, "", ⟨"10.0.0.5", "panel", "hidden"⟩,
          [.switch ⟨0, "Hall", "bulb", ⟨[("g", ⟨0, "A😀", "g", "s", "1", "0"⟩)]⟩⟩]⟩ ∧
      Model.ofText (String.ofList (hallText overriddenDevice)) =
        Model.ofText (String.ofList (hallText escapedDevice)) := by
  have object : (hallDocument plainDevice).isObject = true := rfl
  obtain ⟨any, inserting⟩ := Model.ofText_spelling object distinct_hallDocument
  have order : (hallDocument plainDevice).Reordered (hallDocument (objectOf escapedDevice)) :=
    .single (somewhere_hallDocument (.here (.swap _ _ _)))
  have insert : (hallDocument (objectOf escapedDevice)).Overridden
      (hallDocument (objectOf overriddenDevice)) :=
    .single (somewhere_hallDocument (.here (@Json.Overrides.insert [] _ _ _ (by decide))))
  have escaped := spellsDocument_hallText spellsMember_escapedDevice
  have overridden := spellsDocument_hallText spellsMember_overriddenDevice
  refine ⟨object, distinct_hallDocument, ?_, inserting _ _ _ _ insert escaped overridden⟩
  rw [any _ _ order escaped]
  rfl

end Hall

end SceneConfig

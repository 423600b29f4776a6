/- What the printer writes spells the value that it was given, whatever its strings hold.
   So a printed value is read back, if its numbers are integers of 64 bits and it is not nested too
   deeply. -/
import SceneConfig.Json.Printer
import SceneConfig.Proofs.Json.Reading

namespace SceneConfig.Json

/-- At most `depth` arrays and objects inside one another, and integers of 64 bits. -/
inductive Readable : Nat → Value → Prop
  | null {depth : Nat} : Readable depth .null
  | bool {depth : Nat} (b : Bool) : Readable depth (.bool b)
  | integer {depth : Nat} {i : Int} : i.natAbs < 2 ^ 64 → Readable depth (.number ⟨i, 0⟩)
  | string {depth : Nat} (s : String) : Readable depth (.string s)
  | array {depth : Nat} {vs : List Value} :
      (∀ v ∈ vs, Readable depth v) → Readable (depth + 1) (.array vs)
  | object {depth : Nat} {ms : List (String × Value)} :
      (∀ m ∈ ms, Readable depth m.2) → Readable (depth + 1) (.object ms)

section
variable {depth : Nat}

@[simp] theorem readable_null : Readable depth .null := .null

@[simp] theorem readable_bool (b : Bool) : Readable depth (.bool b) := .bool b

@[simp] theorem readable_string (s : String) : Readable depth (.string s) := .string s

@[simp] theorem readable_ofNat_iff {n : Nat} : Readable depth (.ofNat n) ↔ n < 2 ^ 64 := by
  constructor
  · intro h
    cases h with
    | integer small => exact small
  · intro small
    exact .integer small

@[simp] theorem readable_array_iff {vs : List Value} :
    Readable (depth + 1) (.array vs) ↔ ∀ v ∈ vs, Readable depth v := by
  constructor
  · intro h
    cases h with
    | array each => exact each
  · intro each
    exact .array each

@[simp] theorem readable_object_iff {ms : List (String × Value)} :
    Readable (depth + 1) (.object ms) ↔ ∀ m ∈ ms, Readable depth m.2 := by
  constructor
  · intro h
    cases h with
    | object each => exact each
  · intro each
    exact .object each

end

namespace Printer

theorem blank_newline (level : Nat) : Blank (newline level) := by
  intro c member
  rcases List.mem_cons.mp member with rfl | space
  · rfl
  · cases List.eq_of_mem_replicate space
    rfl

theorem hexDigit_hexDigit {n : Nat} (small : n < 16) : HexDigit n (hexDigit n) := by
  interval_cases n <;> exact .inl rfl

theorem spellsChar_escapeChar (c : Char) : SpellsChar c (escapeChar c) := by
  unfold escapeChar
  split
  · next h =>
    subst h
    exact .letter (by decide)
  split
  · next h =>
    subst h
    exact .letter (by decide)
  split
  · next h =>
    subst h
    exact .letter (by decide)
  split
  · next h =>
    subst h
    exact .letter (by decide)
  split
  · next h =>
    subst h
    exact .letter (by decide)
  split
  · next h =>
    subst h
    exact .letter (by decide)
  split
  · next h =>
    subst h
    exact .letter (by decide)
  split
  · next control =>
    have zero : HexDigit 0 '0' := .inl rfl
    have digits := HexUnit.digits zero zero
      (hexDigit_hexDigit (by omega : c.toNat / 16 < 16))
      (hexDigit_hexDigit (by omega : c.toNat % 16 < 16))
    have number : ((0 * 16 + 0) * 16 + c.toNat / 16) * 16 + c.toNat % 16 = c.toNat := by omega
    rw [number] at digits
    exact .unit digits
  · next quote backslash _ _ _ _ _ printable =>
    exact .raw quote backslash (Nat.not_lt.mp printable)

theorem spellsChars_escapeChar (cs : List Char) : SpellsChars cs (cs.flatMap escapeChar) := by
  induction cs with
  | nil => exact .nil
  | cons c cs ih => exact .cons (spellsChar_escapeChar c) ih

theorem spellsString_quoted (s : String) : SpellsString s (quoted s) :=
  .quoted (spellsChars_escapeChar s.toList)

theorem number_integer (i : Int) : number ⟨i, 0⟩ = digitsOf i := by
  simp [number, digitsOf, minusOf]

/-- An element on a line of its own. -/
def element (level : Nat) (v : Value) : Element :=
  ⟨v, newline level, value level v, []⟩

/-- A member on a line of its own, with a space behind the colon. -/
def member (level : Nat) (m : String × Value) : Member :=
  ⟨m.1, newline level, quoted m.1, [], ⟨m.2, [' '], value level m.2, []⟩⟩

theorem spelled_element (level : Nat) (v : Value) :
    (element level v).spelled = newline level ++ value level v := by
  rw [Element.spelled, element, List.append_nil]

theorem spelled_member (level : Nat) (m : String × Value) :
    (member level m).spelled =
      newline level ++ (quoted m.1 ++ ':' :: ' ' :: value level m.2) := by
  simp only [Member.spelled, member, Element.spelled, List.append_nil, List.append_assoc,
    List.cons_append, List.nil_append]

theorem items_eq (level : Nat) (vs : List Value) :
    items level vs = ((vs.map (element level)).map Element.spelled).flatMap (',' :: ·) := by
  induction vs with
  | nil => rfl
  | cons v vs ih =>
      rw [items, ih, List.map_cons, List.map_cons, List.flatMap_cons, spelled_element]
      rfl

theorem members_eq (level : Nat) (ms : List (String × Value)) :
    members level ms = ((ms.map (member level)).map Member.spelled).flatMap (',' :: ·) := by
  induction ms with
  | nil => rfl
  | cons m ms ih =>
      obtain ⟨key, v⟩ := m
      rw [members, ih, List.map_cons, List.map_cons, List.flatMap_cons, spelled_member]
      simp only [List.cons_append, List.append_assoc, List.nil_append]

theorem value_array (level : Nat) (v : Value) (vs : List Value) :
    value level (.array (v :: vs)) =
      '[' :: listed (((v :: vs).map (element (level + 1))).map Element.spelled) ++
        newline level ++ [']'] := by
  rw [value, items_eq, List.map_cons, List.map_cons, listed, spelled_element]
  simp only [List.cons_append, List.append_assoc]

theorem value_object (level : Nat) (m : String × Value) (ms : List (String × Value)) :
    value level (.object (m :: ms)) =
      '{' :: listed (((m :: ms).map (member (level + 1))).map Member.spelled) ++
        newline level ++ ['}'] := by
  rw [value, members_eq, List.map_cons, List.map_cons, listed, spelled_member]
  simp only [List.cons_append, List.append_assoc, List.nil_append]

/-- An array over several lines spells its elements, whatever they are. -/
theorem spells_array {depth : Nat} (level : Nat) {vs : List Value}
    (h : ∀ v ∈ vs, Spells depth v (value (level + 1) v)) :
    Spells (depth + 1) (.array vs) (value level (.array vs)) := by
  cases vs with
  | nil => exact @Spells.array depth [] [] .nil (fun _ no => nomatch no) fun _ no => nomatch no
  | cons v vs =>
      have values : ((v :: vs).map (element (level + 1))).map Element.value = v :: vs := by
        rw [List.map_map]
        exact List.map_id _
      have spelled := @Spells.array depth ((v :: vs).map (element (level + 1))) _
        (blank_newline level) (List.forall_mem_map.mpr fun _ _ => ⟨blank_newline _, .nil⟩)
        (List.forall_mem_map.mpr h)
      rwa [values, ← value_array] at spelled

theorem spells_object {depth : Nat} (level : Nat) {ms : List (String × Value)}
    (h : ∀ m ∈ ms, Spells depth m.2 (value (level + 1) m.2)) :
    Spells (depth + 1) (.object ms) (value level (.object ms)) := by
  cases ms with
  | nil =>
      exact @Spells.object depth [] [] .nil (fun _ no => nomatch no) (fun _ no => nomatch no)
        fun _ no => nomatch no
  | cons m ms =>
      have values : ((m :: ms).map (member (level + 1))).map (fun m => (m.key, m.element.value)) =
          m :: ms := by
        rw [List.map_map]
        exact List.map_id _
      have spelled := @Spells.object depth ((m :: ms).map (member (level + 1))) _
        (blank_newline level)
        (List.forall_mem_map.mpr fun m _ => ⟨blank_newline _, spellsString_quoted m.1, .nil⟩)
        (List.forall_mem_map.mpr fun _ _ => ⟨.space, .nil⟩) (List.forall_mem_map.mpr h)
      rwa [values, ← value_object] at spelled

theorem spells_value {depth : Nat} {v : Value} (h : Readable depth v) (level : Nat) :
    Spells depth v (value level v) := by
  induction h generalizing level with
  | null => exact .null
  | bool b =>
      cases b with
      | false => exact .false
      | true => exact .true
  | @integer _ i small =>
      rw [value, number_integer]
      exact .integer small
  | string s => exact .string (spellsString_quoted s)
  | array _ ih => exact spells_array level fun v member => ih v member (level + 1)
  | object _ ih => exact spells_object level fun m member => ih m member (level + 1)

end Printer

/-- Also with blanks behind it, such as the end of a line. -/
theorem parse_pretty_append {v : Value} (h : Readable Parser.nestingLimit v) {space : String}
    (blank : Blank space.toList) : parse (v.pretty ++ space) = some v := by
  have text : v.pretty ++ space = String.ofList ([] ++ Printer.value 0 v ++ space.toList) := by
    rw [List.nil_append, String.ofList_append, String.ofList_toList, Value.pretty]
  rw [text]
  exact parse_of_spellsDocument (.alone .nil (Printer.spells_value h 0) blank)

theorem parse_pretty {v : Value} (h : Readable Parser.nestingLimit v) :
    parse v.pretty = some v := by
  have bare : Blank "".toList := .nil
  rw [← parse_pretty_append h bare, String.append_empty]

end SceneConfig.Json

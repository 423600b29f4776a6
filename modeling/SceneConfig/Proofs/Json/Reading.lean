/- Every text that spells a value is read as that value, with twice its length as fuel.
   Elements and members behind commas come first, then a value by induction on how it is spelled. -/
import SceneConfig.Proofs.Json.Tokens

namespace SceneConfig.Json.Parser

section Lists

/-- The first character is no blank and closes no array. -/
def Opens (text : List Char) : Prop :=
  ∃ c tail, text = c :: tail ∧ isSpace c = false ∧ c ≠ ']'

/-- The text is read as `v`, whatever follows it, with twice its length as fuel. -/
def Reads (depth : Nat) (v : Value) (text : List Char) : Prop :=
  ∀ fuel rest, 2 * text.length ≤ fuel → Ends rest →
    value fuel depth (text ++ rest) = some (v, rest)

theorem exists_quote_of_spellsString {s : String} {text : List Char} (h : SpellsString s text) :
    ∃ tail, text = '"' :: tail := by
  cases h with
  | quoted chars => exact ⟨_, rfl⟩

theorem Opens.of_spellsString {s : String} {text : List Char} (h : SpellsString s text) :
    Opens text := by
  obtain ⟨tail, rfl⟩ := exists_quote_of_spellsString h
  exact ⟨'"', tail, rfl, rfl, by decide⟩

structure ElementReads (depth : Nat) (e : Element) : Prop where
  before : Blank e.before
  opens : Opens e.text
  reads : Reads depth e.value e.text
  after : Blank e.after

structure MemberReads (depth : Nat) (m : Member) : Prop where
  before : Blank m.before
  name : SpellsString m.key m.name
  gap : Blank m.gap
  element : ElementReads depth m.element

variable {depth : Nat} {space : List Char}

theorem skipSpace_opens {text : List Char} (blank : Blank space) (opens : Opens text)
    (rest : List Char) : skipSpace (space ++ (text ++ rest)) = text ++ rest := by
  obtain ⟨c, tail, rfl, solid, _⟩ := opens
  exact skipSpace_blank blank solid _

theorem ElementReads.skipSpace_spelled {e : Element} (h : ElementReads depth e) (rest : List Char) :
    skipSpace (e.spelled ++ rest) = e.text ++ (e.after ++ rest) := by
  rw [Element.spelled, List.append_assoc, List.append_assoc]
  exact skipSpace_opens h.before h.opens _

/-- What stands behind the first of several texts, up to a bracket. -/
def behind (texts : List (List Char)) (space : List Char) (close : Char) (rest : List Char) :
    List Char :=
  texts.flatMap (',' :: ·) ++ (space ++ close :: rest)

theorem length_behind (texts : List (List Char)) (space : List Char) (close : Char) :
    (behind texts space close []).length =
      (texts.flatMap (',' :: ·)).length + space.length + 1 := by
  simp only [behind, List.length_append, List.length_cons, List.length_nil]
  omega

theorem skipSpace_behind_nil {after : List Char} (blank : Blank after) (blank' : Blank space)
    (close : Char) (solid : isSpace close = false) (rest : List Char) :
    skipSpace (after ++ behind [] space close rest) = close :: rest := by
  rw [behind, List.flatMap_nil, List.nil_append, ← List.append_assoc]
  exact skipSpace_blank (blank.append blank') solid _

theorem skipSpace_behind_cons {after : List Char} (blank : Blank after) (text : List Char)
    (texts : List (List Char)) (space : List Char) (close : Char) (rest : List Char) :
    skipSpace (after ++ behind (text :: texts) space close rest) =
      ',' :: (text ++ behind texts space close rest) := by
  rw [behind, List.flatMap_cons, List.cons_append, List.cons_append, List.append_assoc]
  exact skipSpace_blank blank rfl _

theorem ElementReads.value_behind {e : Element} (h : ElementReads depth e) (fuel : Nat)
    (enough : 2 * e.text.length ≤ fuel) (texts : List (List Char)) (blank : Blank space)
    {close : Char} (mark : close ∈ [']', '}']) (rest : List Char) :
    value fuel depth (e.text ++ (e.after ++ behind texts space close rest)) =
      some (e.value, e.after ++ behind texts space close rest) := by
  have ends : Ends (behind texts space close rest) := by
    cases texts with
    | nil =>
        have bracket : Ends (close :: rest) := .of_mark (List.mem_cons_of_mem _ mark) rest
        have closing : Ends (space ++ close :: rest) := bracket.blank blank
        exact closing
    | cons text texts => exact .of_mark List.mem_cons_self _
  exact h.reads fuel _ enough (ends.blank h.after)

theorem items_of_elementReads {first : Element} {later : List Element}
    (h : ∀ e ∈ first :: later, ElementReads depth e) (blank : Blank space) (fuel : Nat)
    (enough : 2 * (first.text.length + first.after.length +
      (behind (later.map Element.spelled) space ']' []).length) ≤ fuel) (rest : List Char) :
    items fuel depth (first.text ++ (first.after ++
        behind (later.map Element.spelled) space ']' rest)) =
      some ((first :: later).map Element.value, rest) := by
  -- The next element is the first of those that are left, with one unit of fuel less.
  induction later generalizing first fuel with
  | nil =>
      have reads := h first List.mem_cons_self
      rw [List.map_nil, length_behind] at enough
      cases fuel with
      | zero => omega
      | succ fuel =>
          have read := reads.value_behind fuel (by omega) [] blank List.mem_cons_self rest
          have close := skipSpace_behind_nil reads.after blank ']' rfl rest
          simp only [List.map_nil, List.map_cons, items, read, close, bind, Option.bind_some]
  | cons next later ih =>
      have reads := h first List.mem_cons_self
      have others (e : Element) (member : e ∈ next :: later) : ElementReads depth e :=
        h e (List.mem_cons_of_mem first member)
      have second := others next List.mem_cons_self
      rw [length_behind, List.map_cons, List.flatMap_cons, Element.spelled] at enough
      simp only [List.length_append, List.length_cons] at enough
      cases fuel with
      | zero => omega
      | succ fuel =>
          have read := reads.value_behind fuel (by omega)
            (next.spelled :: later.map Element.spelled) blank List.mem_cons_self rest
          have comma := skipSpace_behind_cons reads.after next.spelled
            (later.map Element.spelled) space ']' rest
          have onward := second.skipSpace_spelled
            (behind (later.map Element.spelled) space ']' rest)
          have tail := ih others fuel (by rw [length_behind]; omega)
          rw [List.map_cons, items, read]
          simp only [bind, Option.bind_some, comma, onward, tail, List.map_cons]

/-- Key, colon and value of a member, one after the other. -/
theorem MemberReads.parts_behind {m : Member} (h : MemberReads depth m) (fuel : Nat)
    (enough : 2 * (m.name.length + m.element.text.length) ≤ fuel) (texts : List (List Char))
    (blank : Blank space) (rest : List Char) :
    ∃ body, m.name ++ (m.gap ++ ':' :: (m.element.spelled ++ behind texts space '}' rest)) =
        '"' :: body ∧
      stringTail fuel body = some (m.key.toList,
        m.gap ++ ':' :: (m.element.spelled ++ behind texts space '}' rest)) ∧
      skipSpace (m.gap ++ ':' :: (m.element.spelled ++ behind texts space '}' rest)) =
        ':' :: (m.element.spelled ++ behind texts space '}' rest) ∧
      skipSpace (m.element.spelled ++ behind texts space '}' rest) =
        m.element.text ++ (m.element.after ++ behind texts space '}' rest) ∧
      value fuel depth (m.element.text ++ (m.element.after ++ behind texts space '}' rest)) =
        some (m.element.value, m.element.after ++ behind texts space '}' rest) := by
  obtain ⟨_, name, gap, reads⟩ := h
  obtain ⟨body, opens, key⟩ := stringTail_of_spellsString name (Nat.le_trans (by omega) enough)
    (m.gap ++ ':' :: (m.element.spelled ++ behind texts space '}' rest))
  refine ⟨body, opens, key, skipSpace_blank gap rfl _, reads.skipSpace_spelled _, ?_⟩
  exact reads.value_behind fuel (by omega) texts blank
    (List.mem_cons_of_mem _ List.mem_cons_self) rest

theorem members_of_memberReads {first : Member} {later : List Member}
    (h : ∀ m ∈ first :: later, MemberReads depth m) (blank : Blank space) (fuel : Nat)
    (enough : 2 * (first.name.length + first.gap.length + first.element.spelled.length +
      (behind (later.map Member.spelled) space '}' []).length) ≤ fuel) (rest : List Char) :
    members fuel depth (first.name ++ (first.gap ++ ':' :: (first.element.spelled ++
        behind (later.map Member.spelled) space '}' rest))) =
      some ((first :: later).map fun m => (m.key, m.element.value), rest) := by
  induction later generalizing first fuel with
  | nil =>
      have reads := h first List.mem_cons_self
      rw [List.map_nil, length_behind, Element.spelled] at enough
      simp only [List.length_append] at enough
      cases fuel with
      | zero => omega
      | succ fuel =>
          have close := skipSpace_behind_nil reads.element.after blank '}' rfl rest
          obtain ⟨body, opens, key, colon, onto, read⟩ :=
            reads.parts_behind fuel (by omega) [] blank rest
          rw [List.map_nil, opens, members]
          simp only [key, bind, Option.bind_some, colon, onto, read, close, String.ofList_toList,
            List.map_cons, List.map_nil]
  | cons next later ih =>
      have reads := h first List.mem_cons_self
      have others (m : Member) (member : m ∈ next :: later) : MemberReads depth m :=
        h m (List.mem_cons_of_mem first member)
      have second := others next List.mem_cons_self
      rw [length_behind, List.map_cons, List.flatMap_cons, Member.spelled] at enough
      simp only [Element.spelled, List.length_append, List.length_cons] at enough
      cases fuel with
      | zero => omega
      | succ fuel =>
          have comma := skipSpace_behind_cons reads.element.after next.spelled
            (later.map Member.spelled) space '}' rest
          have onward : skipSpace (next.spelled ++
              behind (later.map Member.spelled) space '}' rest) =
                next.name ++ (next.gap ++ ':' :: (next.element.spelled ++
                  behind (later.map Member.spelled) space '}' rest)) := by
            rw [Member.spelled, List.append_assoc, List.append_assoc, List.append_assoc]
            exact skipSpace_opens second.before (.of_spellsString second.name) _
          have tail := ih others fuel (by
            rw [length_behind, Element.spelled]
            simp only [List.length_append]
            omega)
          obtain ⟨body, opens, key, colon, onto, read⟩ := reads.parts_behind fuel (by omega)
            (next.spelled :: later.map Member.spelled) blank rest
          rw [List.map_cons, opens, members]
          simp only [key, bind, Option.bind_some, colon, onto, read, comma, onward, tail,
            String.ofList_toList, List.map_cons]

end Lists

section Values
variable {depth : Nat} {space : List Char}

theorem value_items {s tail : List Char} {c : Char} (fuel : Nat) (h : skipSpace s = c :: tail)
    (more : c ≠ ']') : value (fuel + 1) (depth + 1) ('[' :: s) =
      (items fuel depth (c :: tail)).bind fun (vs, rest) => some (.array vs, rest) := by
  simp [value, h, more]

theorem value_members {s tail : List Char} {c : Char} (fuel : Nat) (h : skipSpace s = c :: tail)
    (more : c ≠ '}') : value (fuel + 1) (depth + 1) ('{' :: s) =
      (members fuel depth (c :: tail)).bind fun (ms, rest) => some (.object ms, rest) := by
  simp [value, h, more]

theorem value_number {s : List Char} {c : Char} (fuel : Nat) (h : c.isDigit = true ∨ c = '-') :
    value (fuel + 1) depth (c :: s) =
      (number (c :: s)).bind fun (n, rest) => some (.number n, rest) := by
  unfold value
  split
  case h_7 => rfl
  all_goals simp_all +decide

theorem reads_array {elements : List Element} (h : ∀ e ∈ elements, ElementReads depth e)
    (blank : Blank space) : Reads (depth + 1) (.array (elements.map Element.value))
      ('[' :: listed (elements.map Element.spelled) ++ space ++ [']']) := by
  intro fuel rest enough _
  cases fuel with
  | zero => simp at enough
  | succ fuel =>
      cases elements with
      | nil =>
          have close := skipSpace_blank blank (rfl : isSpace ']' = false) rest
          simp [listed, value, close]
      | cons first later =>
          have reads := h first List.mem_cons_self
          have shape :
              '[' :: listed ((first :: later).map Element.spelled) ++ space ++ [']'] ++ rest =
                '[' :: (first.spelled ++ behind (later.map Element.spelled) space ']' rest) := by
            simp only [List.map_cons, listed, behind, List.cons_append, List.append_assoc,
              List.nil_append]
          have onward := reads.skipSpace_spelled (behind (later.map Element.spelled) space ']' rest)
          have read := items_of_elementReads h blank fuel (by
            rw [length_behind]
            simp only [listed, Element.spelled, List.map_cons, List.length_append,
              List.length_cons, List.length_nil] at enough
            omega) rest
          obtain ⟨c, tail, opens, _, more⟩ := reads.opens
          rw [opens, List.cons_append] at onward read
          rw [shape, value_items fuel onward more, read]
          rfl

theorem reads_object {ms : List Member} (h : ∀ m ∈ ms, MemberReads depth m)
    (blank : Blank space) :
    Reads (depth + 1) (.object (ms.map fun m => (m.key, m.element.value)))
      ('{' :: listed (ms.map Member.spelled) ++ space ++ ['}']) := by
  intro fuel rest enough _
  cases fuel with
  | zero => simp at enough
  | succ fuel =>
      cases ms with
      | nil =>
          have close := skipSpace_blank blank (rfl : isSpace '}' = false) rest
          simp [listed, value, close]
      | cons first later =>
          have reads := h first List.mem_cons_self
          have shape : '{' :: listed ((first :: later).map Member.spelled) ++ space ++ ['}'] ++
              rest = '{' :: (first.before ++ (first.name ++ (first.gap ++ ':' ::
                (first.element.spelled ++ behind (later.map Member.spelled) space '}' rest)))) := by
            simp only [List.map_cons, listed, behind, Member.spelled, List.cons_append,
              List.append_assoc, List.nil_append]
          have onward := skipSpace_opens reads.before (.of_spellsString reads.name)
            (first.gap ++ ':' :: (first.element.spelled ++
              behind (later.map Member.spelled) space '}' rest))
          have read := members_of_memberReads h blank fuel (by
            rw [length_behind]
            simp only [listed, Member.spelled, List.map_cons, List.length_append,
              List.length_cons, List.length_nil] at enough
            omega) rest
          obtain ⟨tail, quote⟩ := exists_quote_of_spellsString reads.name
          rw [quote, List.cons_append] at onward read
          rw [shape, quote, List.cons_append, value_members fuel onward (by decide), read]
          rfl

theorem reads_number {n : Number} {text : List Char} (finite : n.isFinite = true)
    (h : SpellsNumber n text) : Reads depth (.number n) text := by
  intro fuel rest enough ends
  obtain ⟨c, tail, head, digit⟩ := head_number h
  have read := number_of_spellsNumber h finite ends
  rw [head, List.cons_append] at read ⊢
  cases fuel with
  | zero => simp [head] at enough
  | succ fuel =>
      rw [value_number fuel digit, read]
      rfl

theorem reads_string {s : String} {text : List Char} (h : SpellsString s text) :
    Reads depth (.string s) text := by
  intro fuel rest enough _
  obtain ⟨tail, quote⟩ := exists_quote_of_spellsString h
  cases fuel with
  | zero => simp [quote] at enough
  | succ fuel =>
      have long : 0 < text.length := by
        rw [quote]
        exact Nat.succ_pos _
      obtain ⟨body, opens, chars⟩ := stringTail_of_spellsString h
        (by omega : text.length ≤ fuel) rest
      rw [opens, value]
      simp only [chars, bind, Option.bind, String.ofList_toList]

theorem opens_of_spells {v : Value} {text : List Char} (h : Spells depth v text) :
    Opens text := by
  cases h with
  | null => exact ⟨'n', _, rfl, rfl, by decide⟩
  | true => exact ⟨'t', _, rfl, rfl, by decide⟩
  | false => exact ⟨'f', _, rfl, rfl, by decide⟩
  | number _ spelled =>
      obtain ⟨c, tail, head, digit | rfl⟩ := head_number spelled
      · refine ⟨c, tail, head, ?_, ?_⟩
        · cases space : isSpace c with
          | false => rfl
          | true =>
              simp only [isSpace, Bool.or_eq_true, decide_eq_true_eq] at space
              rcases space with ((rfl | rfl) | rfl) | rfl <;> cases digit
        · rintro rfl
          cases digit
      · exact ⟨'-', tail, head, rfl, by decide⟩
  | string quoted => exact .of_spellsString quoted
  | array | object => exact ⟨_, _, rfl, rfl, by decide⟩

/-- A spelled value is read as such, on the way that it was spelled. -/
theorem reads_of_spells {v : Value} {text : List Char} (h : Spells depth v text) :
    Reads depth v text := by
  induction h with
  | null | true | false =>
      intro fuel rest enough _
      cases fuel with
      | zero => simp at enough
      | succ fuel => rfl
  | number finite spelled => exact reads_number finite spelled
  | string quoted => exact reads_string quoted
  | array blank blanks spelled ih =>
      refine reads_array ?_ blank
      intro e member
      obtain ⟨before, after⟩ := blanks e member
      exact ⟨before, opens_of_spells (spelled e member), ih e member, after⟩
  | object blank keys blanks spelled ih =>
      refine reads_object ?_ blank
      intro m member
      obtain ⟨front, name, gap⟩ := keys m member
      obtain ⟨before, after⟩ := blanks m member
      exact ⟨front, name, gap, before, opens_of_spells (spelled m member), ih m member, after⟩

theorem document_of_spellsDocument {v : Value} {text : List Char} (h : SpellsDocument v text) :
    document text = some v := by
  cases h with
  | @alone before text after front spelled back =>
      have start : skipSpace (before ++ text ++ after) = text ++ after := by
        rw [List.append_assoc]
        exact skipSpace_opens front (opens_of_spells spelled) after
      have ends : Ends after := by
        have final := Ends.nil.blank back
        rwa [List.append_nil] at final
      have read := reads_of_spells spelled (2 * (before ++ text ++ after).length + 1) after
        (by simp only [List.length_append]; omega) ends
      rw [document, start, read]
      exact if_pos (by rw [skipSpace_eq_nil back]; rfl)

end Values

end SceneConfig.Json.Parser

namespace SceneConfig.Json

theorem parse_of_spellsDocument {v : Value} {text : List Char} (h : SpellsDocument v text) :
    parse (String.ofList text) = some v := by
  rw [parse, String.toList_ofList, Parser.document_of_spellsDocument h]

end SceneConfig.Json

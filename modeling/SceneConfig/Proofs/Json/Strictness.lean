/- The parser is strict: whatever it reads is spelled by the text in front of what it leaves.
   Tokens come first, then values, elements and members together, by the fuel that they share. -/
import SceneConfig.Proofs.Json.Reading

namespace SceneConfig.Json.Parser

section Strings
variable {c : Char} {s rest : List Char}

theorem exists_blank (s : List Char) : ∃ space, Blank space ∧ s = space ++ skipSpace s :=
  ⟨s.takeWhile isSpace, fun _ member => List.mem_takeWhile_imp member,
    List.takeWhile_append_dropWhile.symm⟩

/-- A character of a range, by its number. -/
theorem exists_number_of_range {low high : Char} (h : low ≤ c ∧ c ≤ high) :
    ∃ k, low.toNat ≤ k ∧ k ≤ high.toNat ∧ c = Char.ofNat k :=
  ⟨c.toNat, UInt32.le_iff_toNat_le.mp (Char.le_def.mp h.1),
    UInt32.le_iff_toNat_le.mp (Char.le_def.mp h.2), (Char.ofNat_toNat c).symm⟩

theorem hexDigit_of_hexDigit? {n : Nat} (h : hexDigit? c = some n) : HexDigit n c := by
  rw [hexDigit?] at h
  split at h
  · next range =>
    obtain ⟨k, low, high, rfl⟩ := exists_number_of_range range
    change 48 ≤ k at low
    change k ≤ 57 at high
    cases h
    left
    interval_cases k <;> rfl
  split at h
  · next range =>
    obtain ⟨k, low, high, rfl⟩ := exists_number_of_range range
    change 97 ≤ k at low
    change k ≤ 102 at high
    cases h
    left
    interval_cases k <;> rfl
  split at h
  · next range =>
    obtain ⟨k, low, high, rfl⟩ := exists_number_of_range range
    change 65 ≤ k at low
    change k ≤ 70 at high
    cases h
    right
    interval_cases k <;> rfl
  · cases h

theorem lt_of_hexDigit {n : Nat} (h : HexDigit n c) : n < 16 := by
  rcases h with h | h <;> exact (List.getElem?_eq_some_iff.mp h).1

theorem lt_of_hexUnit {n : Nat} {digits : List Char} (h : HexUnit n digits) : n < 0x10000 := by
  cases h with
  | digits a b c d =>
      have a := lt_of_hexDigit a
      have b := lt_of_hexDigit b
      have c := lt_of_hexDigit c
      have d := lt_of_hexDigit d
      omega

theorem exists_hexUnit {n : Nat} (h : hexUnit s = some (n, rest)) :
    ∃ digits, s = digits ++ rest ∧ HexUnit n digits := by
  unfold hexUnit at h
  split at h
  · next a b c d tail =>
    simp only [bind, Option.bind_eq_some_iff, Option.some.injEq, Prod.mk.injEq] at h
    obtain ⟨i, hi, j, hj, k, hk, l, hl, rfl, rfl⟩ := h
    exact ⟨[a, b, c, d], rfl, .digits (hexDigit_of_hexDigit? hi) (hexDigit_of_hexDigit? hj)
      (hexDigit_of_hexDigit? hk) (hexDigit_of_hexDigit? hl)⟩
  · cases h

/-- A number below the surrogates or above them is that of a character. -/
theorem toNat_ofNat {n : Nat} (low : n < 0xD800 ∨ 0xDFFF < n) (high : n < 0x110000) :
    (Char.ofNat n).toNat = n := by
  have valid : n.isValidChar := by
    rcases low with low | low
    · exact .inl low
    · exact .inr ⟨low, high⟩
  rw [Char.ofNat, dif_pos valid]
  rfl

/-- The number of a character beyond the first plane is made of its two halves. -/
theorem spellsChar_pair {unit low : Nat} {digits digits' : List Char}
    (high : 0xD800 ≤ unit ∧ unit ≤ 0xDBFF) (bounds : 0xDC00 ≤ low ∧ low ≤ 0xDFFF)
    (spelled : HexUnit unit digits) (spelled' : HexUnit low digits') :
    SpellsChar (Char.ofNat (0x10000 + (unit - 0xD800) * 0x400 + (low - 0xDC00)))
      ('\\' :: 'u' :: digits ++ '\\' :: 'u' :: digits') := by
  obtain ⟨front, rfl⟩ := Nat.exists_eq_add_of_le high.1
  obtain ⟨back, rfl⟩ := Nat.exists_eq_add_of_le bounds.1
  rw [Nat.add_sub_cancel_left, Nat.add_sub_cancel_left]
  have number := @toNat_ofNat (0x10000 + front * 0x400 + back) (by omega) (by omega)
  have upper : (0x10000 + front * 0x400 + back - 0x10000) / 0x400 = front := by omega
  have lower : (0x10000 + front * 0x400 + back - 0x10000) % 0x400 = back := by omega
  refine .pair ?_ ?_ ?_
  · omega
  · rwa [number, upper]
  · rwa [number, lower]

theorem exists_unicodeEscape (h : unicodeEscape s = some (c, rest)) :
    ∃ text, s = text ++ rest ∧ SpellsChar c ('\\' :: 'u' :: text) := by
  simp only [unicodeEscape, bind, Option.bind_eq_some_iff, Prod.exists] at h
  obtain ⟨unit, behind, read, h⟩ := h
  obtain ⟨digits, rfl, spelled⟩ := exists_hexUnit read
  have small := lt_of_hexUnit spelled
  split at h
  · next plain =>
    cases h
    refine ⟨digits, rfl, .unit ?_⟩
    rwa [toNat_ofNat plain (Nat.lt_trans small (by decide))]
  next surrogate =>
  split at h
  · cases h
  next high =>
  split at h
  · next tail =>
    simp only [Option.bind_eq_some_iff, Prod.exists] at h
    obtain ⟨low, behind, read', h⟩ := h
    obtain ⟨digits', rfl, spelled'⟩ := exists_hexUnit read'
    split at h
    · next bounds =>
      simp only [Option.some.injEq, Prod.mk.injEq] at h
      obtain ⟨rfl, rfl⟩ := h
      refine ⟨digits ++ '\\' :: 'u' :: digits', by simp, ?_⟩
      exact spellsChar_pair (by omega) bounds spelled spelled'
    · cases h
  · cases h

theorem exists_escape (h : escape s = some (c, rest)) :
    ∃ text, s = text ++ rest ∧ SpellsChar c ('\\' :: text) := by
  have letter {l d : Char} {tail : List Char} (member : (l, d) ∈ letterEscapes)
      (h : some (d, tail) = some (c, rest)) :
      ∃ text, l :: tail = text ++ rest ∧ SpellsChar c ('\\' :: text) := by
    cases h
    exact ⟨[l], rfl, .letter member⟩
  unfold escape at h
  split at h
  case h_9 =>
    obtain ⟨text, rfl, spelled⟩ := exists_unicodeEscape h
    exact ⟨'u' :: text, rfl, spelled⟩
  case h_10 => cases h
  all_goals exact letter (by decide) h

theorem exists_stringTail {fuel : Nat} {cs : List Char} (h : stringTail fuel s = some (cs, rest)) :
    ∃ body, s = body ++ '"' :: rest ∧ SpellsChars cs body := by
  -- On the fuel: one character, or one escape, is read at a time.
  induction fuel generalizing s cs with
  | zero => cases h
  | succ fuel ih =>
      cases s with
      | nil => cases h
      | cons c s =>
          rw [stringTail] at h
          split at h
          · next quote =>
            cases h
            exact ⟨[], by rw [quote]; rfl, .nil⟩
          next quote =>
          split at h
          · next backslash =>
            simp only [bind, Option.bind_eq_some_iff, Prod.exists] at h
            obtain ⟨d, behind, escaped, ds, _, read, h⟩ := h
            cases h
            obtain ⟨text, rfl, spelled⟩ := exists_escape escaped
            obtain ⟨body, rfl, others⟩ := ih read
            refine ⟨'\\' :: text ++ body, ?_, .cons spelled others⟩
            rw [backslash, List.cons_append, List.cons_append, List.append_assoc]
          next backslash =>
          split at h
          · cases h
          next printable =>
          simp only [bind, Option.bind_eq_some_iff, Prod.exists] at h
          obtain ⟨ds, _, read, h⟩ := h
          cases h
          obtain ⟨body, rfl, others⟩ := ih read
          exact ⟨[c] ++ body, rfl, .cons (.raw quote backslash (Nat.not_lt.mp printable)) others⟩

end Strings

section Numbers
variable {s rest : List Char}

theorem exists_someDigits {digits : List Char} (h : someDigits s = some (digits, rest)) :
    s = digits ++ rest ∧ SomeDigits digits := by
  rw [someDigits, List.span_eq_takeWhile_dropWhile] at h
  split at h
  · cases h
  · next front back nonempty split =>
    cases h
    obtain ⟨rfl, rfl⟩ := Prod.mk.inj split
    exact ⟨List.takeWhile_append_dropWhile.symm, nonempty,
      fun _ member => List.mem_takeWhile_imp member⟩

theorem exists_wholePart {whole : List Char} (h : wholePart s = some (whole, rest)) :
    s = whole ++ rest ∧ WholeDigits whole := by
  unfold wholePart at h
  split at h
  · cases h
    exact ⟨rfl, .zero⟩
  · next other =>
    obtain ⟨rfl, some⟩ := exists_someDigits h
    obtain ⟨c, tail, rfl, _⟩ := exists_digit_of_someDigits some
    refine ⟨rfl, .digits ?_ some⟩
    rintro rfl
    exact other _ rfl

theorem exists_fraction {decimals : List Char} (h : fraction s = some (decimals, rest)) :
    ∃ text, s = text ++ rest ∧ SpellsDecimals decimals text := by
  unfold fraction at h
  split at h
  · obtain ⟨rfl, some⟩ := exists_someDigits h
    exact ⟨'.' :: decimals, rfl, .point some⟩
  · cases h
    exact ⟨[], rfl, .none⟩

theorem minusOf_minus (s : List Char) : minusOf (minus s).1 ++ (minus s).2 = s := by
  unfold minus
  split <;> rfl

/-- A sign and digits behind the mark of a power. -/
theorem exists_signed {e : Char} (mark : e ∈ ['e', 'E']) {digits : List Char}
    (behind : (sign s).2 = digits ++ rest) (some : SomeDigits digits) :
    ∃ text, e :: s = text ++ rest ∧
      SpellsPower (signed (sign s).1 (ofDigits digits)) text := by
  unfold sign at behind ⊢
  split at behind
  · cases behind
    exact ⟨e :: '+' :: digits, rfl, .plus mark some⟩
  · unfold minus at behind ⊢
    split at behind
    · cases behind
      exact ⟨e :: '-' :: digits, rfl, .minus mark some⟩
    · cases behind
      exact ⟨e :: digits, rfl, .bare mark some⟩

theorem exists_power {exponent : Int} (h : power s = some (exponent, rest)) :
    ∃ text, s = text ++ rest ∧ SpellsPower exponent text := by
  cases s with
  | nil =>
      cases h
      exact ⟨[], rfl, .none⟩
  | cons e s =>
      rw [power] at h
      split at h
      · next mark =>
        have mark : e ∈ ['e', 'E'] := by
          simpa only [List.mem_cons, List.not_mem_nil, or_false] using mark
        simp only [bind, Option.bind_eq_some_iff, Prod.exists] at h
        obtain ⟨digits, _, read, h⟩ := h
        obtain ⟨behind, some⟩ := exists_someDigits read
        cases h
        exact exists_signed mark behind some
      · cases h
        exact ⟨[], rfl, .none⟩

theorem exists_number {n : Number} (h : number s = some (n, rest)) :
    ∃ text, s = text ++ rest ∧ SpellsNumber n text ∧ n.isFinite = true := by
  simp only [number, bind, Option.bind_eq_some_iff, Prod.exists] at h
  obtain ⟨whole, _, readWhole, decimals, _, readDecimals, exponent, _, readPower, h⟩ := h
  split at h
  · next finite =>
    cases h
    obtain ⟨behindMinus, whole⟩ := exists_wholePart readWhole
    obtain ⟨fraction, rfl, decimals⟩ := exists_fraction readDecimals
    obtain ⟨power, rfl, exponent⟩ := exists_power readPower
    refine ⟨_, ?_, .numeral whole decimals exponent, finite⟩
    calc
      s = minusOf (minus s).1 ++ (minus s).2 := (minusOf_minus s).symm
      _ = _ := by simp only [behindMinus, List.append_assoc]
  · cases h

end Numbers

section Values
variable {depth fuel : Nat} {s rest space : List Char}

theorem listed_cons {texts : List (List Char)} (text : List Char) (more : texts ≠ []) :
    listed (text :: texts) = text ++ ',' :: listed texts := by
  cases texts with
  | nil => exact absurd rfl more
  | cons next texts => simp only [listed, List.flatMap_cons, List.cons_append]

structure ElementSpells (depth : Nat) (e : Element) : Prop where
  before : Blank e.before
  text : Spells depth e.value e.text
  after : Blank e.after

structure MemberSpells (depth : Nat) (m : Member) : Prop where
  before : Blank m.before
  name : SpellsString m.key m.name
  gap : Blank m.gap
  element : ElementSpells depth m.element

/-- Elements up to their closing bracket, with blanks in front. -/
def SpelledItems (depth : Nat) (space s : List Char) (vs : List Value) (rest : List Char) : Prop :=
  ∃ elements : List Element, elements ≠ [] ∧ vs = elements.map Element.value ∧
    space ++ s = listed (elements.map Element.spelled) ++ ']' :: rest ∧
      ∀ e ∈ elements, ElementSpells depth e

/-- Members up to their closing bracket, with blanks in front. -/
def SpelledMembers (depth : Nat) (space s : List Char) (ms : List (String × Value))
    (rest : List Char) : Prop :=
  ∃ members : List Member, members ≠ [] ∧ ms = members.map (fun m => (m.key, m.element.value)) ∧
    space ++ s = listed (members.map Member.spelled) ++ '}' :: rest ∧
      ∀ m ∈ members, MemberSpells depth m

/-- All that is read with so much fuel is spelled. -/
structure Strict (fuel : Nat) : Prop where
  value : ∀ {depth s v rest}, value fuel depth s = some (v, rest) →
    ∃ text, s = text ++ rest ∧ Spells depth v text
  items : ∀ {depth s vs rest space}, items fuel depth s = some (vs, rest) → Blank space →
    SpelledItems depth space s vs rest
  members : ∀ {depth s ms rest space}, members fuel depth s = some (ms, rest) → Blank space →
    SpelledMembers depth space s ms rest

theorem spells_emptyArray (blank : Blank space) :
    Spells (depth + 1) (.array []) ('[' :: space ++ [']']) := by
  have spelled : Spells (depth + 1) (.array (List.map Element.value []))
      ('[' :: listed (List.map Element.spelled []) ++ space ++ [']']) :=
    .array blank (List.forall_mem_nil _) (List.forall_mem_nil _)
  exact spelled

theorem spells_emptyObject (blank : Blank space) :
    Spells (depth + 1) (.object []) ('{' :: space ++ ['}']) := by
  have spelled :
      Spells (depth + 1) (.object (List.map (fun m : Member => (m.key, m.element.value)) []))
        ('{' :: listed (List.map Member.spelled []) ++ space ++ ['}']) :=
    .object blank (List.forall_mem_nil _) (List.forall_mem_nil _) (List.forall_mem_nil _)
  exact spelled

theorem SpelledItems.exists_array {vs : List Value} (h : SpelledItems depth space s vs rest) :
    ∃ text, '[' :: (space ++ s) = text ++ rest ∧ Spells (depth + 1) (.array vs) text := by
  obtain ⟨elements, _, rfl, split, each⟩ := h
  refine ⟨'[' :: listed (elements.map Element.spelled) ++ [] ++ [']'], ?_, .array .nil ?_ ?_⟩
  · rw [split, List.append_nil, List.append_assoc]
    rfl
  · exact fun e member => ⟨(each e member).before, (each e member).after⟩
  · exact fun e member => (each e member).text

theorem SpelledMembers.exists_object {ms : List (String × Value)}
    (h : SpelledMembers depth space s ms rest) :
    ∃ text, '{' :: (space ++ s) = text ++ rest ∧ Spells (depth + 1) (.object ms) text := by
  obtain ⟨members, _, rfl, split, each⟩ := h
  refine ⟨'{' :: listed (members.map Member.spelled) ++ [] ++ ['}'], ?_, .object .nil ?_ ?_ ?_⟩
  · rw [split, List.append_nil, List.append_assoc]
    rfl
  · exact fun m member => ⟨(each m member).before, (each m member).name, (each m member).gap⟩
  · exact fun m member => ⟨(each m member).element.before, (each m member).element.after⟩
  · exact fun m member => (each m member).element.text

theorem Strict.value_succ (strict : Strict fuel) {v : Value}
    (h : Parser.value (fuel + 1) depth s = some (v, rest)) :
    ∃ text, s = text ++ rest ∧ Spells depth v text := by
  unfold Parser.value at h
  split at h
  · cases h
    exact ⟨_, rfl, .null⟩
  · cases h
    exact ⟨_, rfl, .true⟩
  · cases h
    exact ⟨_, rfl, .false⟩
  · simp only [bind, Option.bind_eq_some_iff, Prod.exists] at h
    obtain ⟨cs, _, read, h⟩ := h
    cases h
    obtain ⟨body, rfl, spelled⟩ := exists_stringTail read
    refine ⟨'"' :: body ++ ['"'], ?_, .string (.quoted ?_)⟩
    · rw [List.append_assoc, List.singleton_append, List.cons_append]
    · rwa [String.toList_ofList]
  · next tail =>
    obtain ⟨space, blank, front⟩ := exists_blank tail
    split at h
    · cases h
    · next close =>
      cases h
      rw [close] at front
      refine ⟨'[' :: space ++ [']'], ?_, spells_emptyArray blank⟩
      rw [front, List.append_assoc]
      rfl
    · simp only [bind, Option.bind_eq_some_iff, Prod.exists] at h
      obtain ⟨vs, _, read, h⟩ := h
      cases h
      rw [front]
      exact (strict.items read blank).exists_array
  · next tail =>
    obtain ⟨space, blank, front⟩ := exists_blank tail
    split at h
    · cases h
    · next close =>
      cases h
      rw [close] at front
      refine ⟨'{' :: space ++ ['}'], ?_, spells_emptyObject blank⟩
      rw [front, List.append_assoc]
      rfl
    · simp only [bind, Option.bind_eq_some_iff, Prod.exists] at h
      obtain ⟨ms, _, read, h⟩ := h
      cases h
      rw [front]
      exact (strict.members read blank).exists_object
  · simp only [bind, Option.bind_eq_some_iff, Prod.exists] at h
    obtain ⟨n, _, read, h⟩ := h
    cases h
    obtain ⟨text, front, spelled, finite⟩ := exists_number read
    exact ⟨text, front, .number finite spelled⟩

/-- The next element stands behind a comma, with the blanks in front of it. -/
theorem Strict.items_succ (strict : Strict fuel) {vs : List Value}
    (h : Parser.items (fuel + 1) depth s = some (vs, rest)) (blank : Blank space) :
    SpelledItems depth space s vs rest := by
  simp only [Parser.items, bind, Option.bind_eq_some_iff, Prod.exists] at h
  obtain ⟨v, behind, read, h⟩ := h
  obtain ⟨text, rfl, spelled⟩ := strict.value read
  obtain ⟨after, blank', front⟩ := exists_blank behind
  have here : ElementSpells depth ⟨v, space, text, after⟩ := ⟨blank, spelled, blank'⟩
  split at h
  · next close =>
    cases h
    rw [close] at front
    refine ⟨[⟨v, space, text, after⟩], List.cons_ne_nil _ _, rfl, ?_,
      List.forall_mem_singleton.mpr here⟩
    rw [front]
    simp [listed, Element.spelled]
  · next tail comma =>
    simp only [Option.bind_eq_some_iff, Prod.exists] at h
    obtain ⟨others, _, read', h⟩ := h
    cases h
    rw [comma] at front
    obtain ⟨space', blank'', onward⟩ := exists_blank tail
    obtain ⟨elements, nonempty, rfl, split, each⟩ := strict.items read' blank''
    rw [← onward] at split
    refine ⟨⟨v, space, text, after⟩ :: elements, List.cons_ne_nil _ _, rfl, ?_,
      List.forall_mem_cons.mpr ⟨here, each⟩⟩
    rw [List.map_cons, listed_cons _ (mt List.map_eq_nil_iff.mp nonempty), front, split]
    simp [Element.spelled]
  · cases h

/-- The first member, and what stands behind it: the closing bracket, or a comma and more. -/
theorem Strict.exists_member (strict : Strict fuel) {ms : List (String × Value)}
    (h : Parser.members (fuel + 1) depth s = some (ms, rest)) (blank : Blank space) :
    ∃ m left, MemberSpells depth m ∧ space ++ s = m.spelled ++ left ∧
      (left = '}' :: rest ∧ ms = [(m.key, m.element.value)] ∨
        ∃ tail others, left = ',' :: tail ∧
          Parser.members fuel depth (skipSpace tail) = some (others, rest) ∧
            ms = (m.key, m.element.value) :: others) := by
  unfold Parser.members at h
  split at h
  case h_2 => cases h
  simp only [bind, Option.bind_eq_some_iff, Prod.exists] at h
  obtain ⟨key, behindKey, readKey, h⟩ := h
  obtain ⟨body, rfl, chars⟩ := exists_stringTail readKey
  obtain ⟨gap, gapBlank, beforeColon⟩ := exists_blank behindKey
  split at h
  case h_2 => cases h
  next tail colon =>
  simp only [Option.bind_eq_some_iff, Prod.exists] at h
  obtain ⟨v, behind, read, h⟩ := h
  obtain ⟨before, beforeBlank, onward⟩ := exists_blank tail
  obtain ⟨text, split, spelled⟩ := strict.value read
  obtain ⟨after, afterBlank, front⟩ := exists_blank behind
  rw [colon] at beforeColon
  rw [split] at onward
  have name : SpellsString (String.ofList key) ('"' :: body ++ ['"']) := by
    refine .quoted ?_
    rwa [String.toList_ofList]
  refine ⟨⟨String.ofList key, space, '"' :: body ++ ['"'], gap, ⟨v, before, text, after⟩⟩,
    skipSpace behind, ⟨blank, name, gapBlank, beforeBlank, spelled, afterBlank⟩, ?_, ?_⟩
  · generalize skipSpace behind = left at front
    rw [beforeColon, onward, front]
    simp [Member.spelled, Element.spelled]
  · split at h
    · next close =>
      cases h
      exact .inl ⟨close, rfl⟩
    · next comma =>
      simp only [Option.bind_eq_some_iff, Prod.exists] at h
      obtain ⟨others, _, read', h⟩ := h
      cases h
      exact .inr ⟨_, others, comma, read', rfl⟩
    · cases h

theorem Strict.members_succ (strict : Strict fuel) {ms : List (String × Value)}
    (h : Parser.members (fuel + 1) depth s = some (ms, rest)) (blank : Blank space) :
    SpelledMembers depth space s ms rest := by
  obtain ⟨m, left, here, whole, ⟨rfl, rfl⟩ | ⟨tail, others, rfl, read, rfl⟩⟩ :=
    strict.exists_member h blank
  · refine ⟨[m], List.cons_ne_nil _ _, rfl, ?_, List.forall_mem_singleton.mpr here⟩
    rw [whole]
    simp [listed]
  · obtain ⟨space', blank', onward⟩ := exists_blank tail
    obtain ⟨members, nonempty, rfl, split, each⟩ := strict.members read blank'
    rw [← onward] at split
    refine ⟨m :: members, List.cons_ne_nil _ _, rfl, ?_, List.forall_mem_cons.mpr ⟨here, each⟩⟩
    rw [List.map_cons, listed_cons _ (mt List.map_eq_nil_iff.mp nonempty), whole, split,
      List.append_assoc, List.cons_append]

theorem strict (fuel : Nat) : Strict fuel := by
  -- On the fuel: the three readers call one another with one unit less.
  induction fuel with
  | zero => exact ⟨nofun, nofun, nofun⟩
  | succ fuel ih => exact ⟨ih.value_succ, ih.items_succ, ih.members_succ⟩

theorem spellsDocument_of_document {v : Value} (h : document s = some v) :
    SpellsDocument v s := by
  simp only [document, bind, Option.bind_eq_some_iff, Prod.exists] at h
  obtain ⟨_, rest, read, h⟩ := h
  split at h
  · next done =>
    cases h
    obtain ⟨before, front, split⟩ := exists_blank s
    obtain ⟨after, back, ends⟩ := exists_blank rest
    obtain ⟨text, behind, spelled⟩ := (strict _).value read
    rw [List.isEmpty_iff.mp done, List.append_nil] at ends
    rw [split, behind, ← List.append_assoc, ends]
    exact .alone front spelled back
  · cases h

end Values

end SceneConfig.Json.Parser

namespace SceneConfig.Json

/-- The parser reads a value from just the texts that spell it. -/
theorem parse_eq_some_iff {text : String} {v : Value} :
    parse text = some v ↔ SpellsDocument v text.toList :=
  ⟨Parser.spellsDocument_of_document, Parser.document_of_spellsDocument⟩

end SceneConfig.Json

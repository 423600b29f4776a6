/- The tokens of a JSON text as the parser reads them: blanks, strings in any spelling, numbers. -/
import Mathlib.Data.List.TakeDrop
import Mathlib.Data.List.TakeWhile
import Mathlib.Tactic.IntervalCases
import SceneConfig.Proofs.Json.Grammar

namespace SceneConfig.Json.Parser

/-- What follows does not go on with a number. -/
def Ends (rest : List Char) : Prop :=
  ∀ c, rest.head? = some c → c.isDigit = false ∧ c ≠ '.' ∧ c ≠ 'e' ∧ c ≠ 'E'

section Blanks

theorem skipSpace_blank {space : List Char} {c : Char} (blank : Blank space)
    (solid : isSpace c = false) (s : List Char) : skipSpace (space ++ c :: s) = c :: s := by
  have stops : ¬isSpace c = true := by simp only [solid, Bool.false_eq_true, not_false_eq_true]
  rw [skipSpace, List.dropWhile_append_of_pos blank, List.dropWhile_cons_of_neg stops]

theorem skipSpace_eq_nil {space : List Char} (blank : Blank space) : skipSpace space = [] := by
  rw [skipSpace, List.dropWhile_eq_nil_iff]
  exact blank

theorem Ends.nil : Ends [] := by
  intro c head
  cases head

theorem Ends.blank {space rest : List Char} (blank : Blank space) (ends : Ends rest) :
    Ends (space ++ rest) := by
  cases space with
  | nil => exact ends
  | cons d space =>
      rintro c head
      cases head
      have space := blank d List.mem_cons_self
      simp only [isSpace, Bool.or_eq_true, decide_eq_true_eq] at space
      rcases space with ((rfl | rfl) | rfl) | rfl <;> decide

theorem Ends.of_mark {c : Char} (mark : c ∈ [',', ']', '}']) (rest : List Char) :
    Ends (c :: rest) := by
  rintro d head
  cases head
  simp only [List.mem_cons, List.not_mem_nil, or_false] at mark
  rcases mark with rfl | rfl | rfl <;> decide

end Blanks

section Strings
variable {c : Char} {s : List Char}

theorem hexDigit?_of_hexDigit {n : Nat} (h : HexDigit n c) : hexDigit? c = some n := by
  have small : n < 16 := by
    rcases h with h | h <;> exact (List.getElem?_eq_some_iff.mp h).1
  rcases h with h | h <;> interval_cases n <;> cases h <;> rfl

theorem hexUnit_of_hexUnit {n : Nat} {digits : List Char} (h : HexUnit n digits) :
    hexUnit (digits ++ s) = some (n, s) := by
  cases h with
  | digits a b c d =>
      simp only [List.cons_append, List.nil_append, hexUnit, hexDigit?_of_hexDigit a,
        hexDigit?_of_hexDigit b, hexDigit?_of_hexDigit c, hexDigit?_of_hexDigit d]
      rfl

theorem unicodeEscape_unit {digits : List Char} (h : HexUnit c.toNat digits) :
    unicodeEscape (digits ++ s) = some (c, s) := by
  have scalar : c.toNat < 0xD800 ∨ 0xDFFF < c.toNat := by
    rcases c.valid with low | ⟨high, _⟩
    · exact .inl low
    · exact .inr high
  simp only [unicodeEscape, hexUnit_of_hexUnit h, bind, Option.bind, if_pos scalar,
    Char.ofNat_toNat]

theorem unicodeEscape_pair {high low : List Char} (supplementary : 0x10000 ≤ c.toNat)
    (hh : HexUnit (0xD800 + (c.toNat - 0x10000) / 0x400) high)
    (hl : HexUnit (0xDC00 + (c.toNat - 0x10000) % 0x400) low) :
    unicodeEscape (high ++ '\\' :: 'u' :: low ++ s) = some (c, s) := by
  have bound : c.toNat < 0x110000 := by
    rcases c.valid with small | ⟨_, small⟩
    · exact Nat.lt_trans small (by decide)
    · exact small
  generalize hk : c.toNat - 0x10000 = k at hh hl
  have surrogate : ¬(0xD800 + k / 0x400 < 0xD800 ∨ 0xDFFF < 0xD800 + k / 0x400) := by omega
  have first : ¬0xDBFF < 0xD800 + k / 0x400 := by omega
  have second : 0xDC00 ≤ 0xDC00 + k % 0x400 ∧ 0xDC00 + k % 0x400 ≤ 0xDFFF := by omega
  have number : 0x10000 + (0xD800 + k / 0x400 - 0xD800) * 0x400 +
      (0xDC00 + k % 0x400 - 0xDC00) = c.toNat := by omega
  simp only [List.append_assoc, List.cons_append, unicodeEscape, hexUnit_of_hexUnit hh,
    hexUnit_of_hexUnit hl, bind, Option.bind, if_neg surrogate, if_neg first, if_pos second,
    number, Char.ofNat_toNat]

/-- A spelled character takes one step, however long its spelling. -/
theorem stringTail_of_spellsChar {text : List Char} (h : SpellsChar c text) (fuel : Nat) :
    stringTail (fuel + 1) (text ++ s) =
      (stringTail fuel s).bind fun (cs, rest) => some (c :: cs, rest) := by
  have escaped {t : List Char} (h : escape (t ++ s) = some (c, s)) :
      stringTail (fuel + 1) ('\\' :: t ++ s) =
        (stringTail fuel s).bind fun (cs, rest) => some (c :: cs, rest) := by
    rw [List.cons_append, stringTail, if_neg (by decide), if_pos rfl, h]
    rfl
  cases h with
  | raw quote backslash printable =>
      rw [List.cons_append, List.nil_append, stringTail, if_neg quote, if_neg backslash,
        if_neg (Nat.not_lt.mpr printable)]
      rfl
  | letter member =>
      apply escaped
      simp only [letterEscapes, List.mem_cons, Prod.mk.injEq, List.not_mem_nil, or_false] at member
      rcases member with ⟨rfl, rfl⟩ | ⟨rfl, rfl⟩ | ⟨rfl, rfl⟩ | ⟨rfl, rfl⟩ | ⟨rfl, rfl⟩ |
        ⟨rfl, rfl⟩ | ⟨rfl, rfl⟩ | ⟨rfl, rfl⟩ <;> rfl
  | unit digits =>
      apply escaped
      exact unicodeEscape_unit digits
  | pair supplementary high low =>
      apply escaped
      exact unicodeEscape_pair supplementary high low

theorem length_pos_of_spellsChar {text : List Char} (h : SpellsChar c text) :
    0 < text.length := by
  cases h with
  | raw | letter | unit | pair => exact Nat.succ_pos _

theorem length_le_of_spellsChars {cs body : List Char} (h : SpellsChars cs body) :
    cs.length ≤ body.length := by
  induction h with
  | nil => exact Nat.le_refl _
  | cons first _ ih =>
      have one := length_pos_of_spellsChar first
      simp only [List.length_cons, List.length_append]
      omega

theorem stringTail_of_spellsChars {cs body : List Char} (h : SpellsChars cs body) {fuel : Nat}
    (enough : cs.length < fuel) (rest : List Char) :
    stringTail fuel (body ++ '"' :: rest) = some (cs, rest) := by
  induction h generalizing fuel with
  | nil =>
      cases fuel with
      | zero => cases enough
      | succ fuel => rfl
  | cons first _ ih =>
      cases fuel with
      | zero => cases enough
      | succ fuel =>
          rw [List.append_assoc, stringTail_of_spellsChar first,
            ih (Nat.lt_of_succ_lt_succ enough)]
          rfl

theorem stringTail_of_spellsString {key : String} {name : List Char} (h : SpellsString key name)
    {fuel : Nat} (enough : name.length ≤ fuel) (rest : List Char) :
    ∃ body, name ++ rest = '"' :: body ∧ stringTail fuel body = some (key.toList, rest) := by
  cases h with
  | @quoted body chars =>
      have longer := length_le_of_spellsChars chars
      simp only [List.length_append, List.length_cons, List.length_nil] at enough
      refine ⟨body ++ '"' :: rest, ?_, stringTail_of_spellsChars chars (by omega) rest⟩
      simp only [List.cons_append, List.append_assoc, List.nil_append]

end Strings

section Numbers

/-- What follows does not go on with digits. -/
def NoDigit (rest : List Char) : Prop :=
  ∀ c, rest.head? = some c → c.isDigit = false

variable {rest : List Char}

theorem Ends.noDigit (ends : Ends rest) : NoDigit rest :=
  fun c head => (ends c head).1

theorem someDigits_append {digits : List Char} (h : SomeDigits digits)
    (stops : NoDigit rest) : someDigits (digits ++ rest) = some (digits, rest) := by
  obtain ⟨nonempty, all⟩ := h
  have split : (digits ++ rest).span Char.isDigit = (digits, rest) := by
    rw [List.span_eq_takeWhile_dropWhile, List.takeWhile_append_of_pos all,
      List.dropWhile_append_of_pos all]
    cases rest with
    | nil => simp only [List.takeWhile_nil, List.append_nil, List.dropWhile_nil]
    | cons c rest =>
        have stops : ¬c.isDigit = true := by
          rw [stops c rfl]
          decide
        rw [List.takeWhile_cons_of_neg stops, List.dropWhile_cons_of_neg stops, List.append_nil]
  rw [someDigits, split]
  cases digits with
  | nil => exact absurd rfl nonempty
  | cons c digits => rfl

theorem exists_digit_of_someDigits {digits : List Char} (h : SomeDigits digits) :
    ∃ c tail, digits = c :: tail ∧ c.isDigit = true := by
  cases digits with
  | nil => exact absurd rfl h.nonempty
  | cons c tail => exact ⟨c, tail, rfl, h.digits c List.mem_cons_self⟩

theorem someDigits_of_wholeDigits {whole : List Char} (h : WholeDigits whole) :
    SomeDigits whole := by
  cases h with
  | zero =>
      refine ⟨List.cons_ne_nil _ _, ?_⟩
      intro c member
      cases List.mem_singleton.mp member
      rfl
  | digits _ all => exact all

theorem wholePart_of_wholeDigits {whole : List Char} (h : WholeDigits whole)
    (stops : NoDigit rest) : wholePart (whole ++ rest) = some (whole, rest) := by
  cases h with
  | zero => rfl
  | digits first all =>
      rw [← someDigits_append all stops, List.cons_append, wholePart]
      intro _ same
      exact first (List.cons.inj same).1

theorem fraction_of_spellsDecimals {decimals text : List Char} (h : SpellsDecimals decimals text)
    (stops : ∀ c, rest.head? = some c → c.isDigit = false ∧ c ≠ '.') :
    fraction (text ++ rest) = some (decimals, rest) := by
  cases h with
  | none =>
      unfold fraction
      split
      · next point => exact absurd rfl (stops '.' (congrArg List.head? point)).2
      · rfl
  | point digits => exact someDigits_append digits fun c head => (stops c head).1

theorem noDigit_fraction {decimals text : List Char} (h : SpellsDecimals decimals text)
    (stops : NoDigit rest) : NoDigit (text ++ rest) := by
  cases h with
  | none => exact stops
  | point _ =>
      intro c head
      cases head
      rfl

theorem head_power {exponent : Int} {text : List Char} (h : SpellsPower exponent text)
    (ends : Ends rest) :
    ∀ c, (text ++ rest).head? = some c → c.isDigit = false ∧ c ≠ '.' := by
  intro c head
  cases h with
  | none =>
      obtain ⟨digit, point, _⟩ := ends c head
      exact ⟨digit, point⟩
  | bare mark _ | plus mark _ | minus mark _ =>
      cases head
      simp only [List.mem_cons, List.not_mem_nil, or_false] at mark
      rcases mark with rfl | rfl <;> decide

theorem power_of_mark {e : Char} (mark : e ∈ ['e', 'E']) {s digits : List Char}
    {negative : Bool} (signed : sign s = (negative, digits ++ rest))
    (all : SomeDigits digits) (stops : NoDigit rest) :
    power (e :: s) = some (Parser.signed negative (ofDigits digits), rest) := by
  have known : e = 'e' ∨ e = 'E' := by
    simpa only [List.mem_cons, List.not_mem_nil, or_false] using mark
  rw [power, if_pos known, signed]
  simp only [bind, Option.bind, someDigits_append all stops]

theorem sign_digits {digits : List Char} (h : SomeDigits digits) :
    sign (digits ++ rest) = (false, digits ++ rest) := by
  obtain ⟨c, tail, rfl, digit⟩ := exists_digit_of_someDigits h
  have plus : c ≠ '+' := by
    rintro rfl
    cases digit
  have minus : c ≠ '-' := by
    rintro rfl
    cases digit
  simp [sign, Parser.minus, plus, minus]

theorem power_of_spellsPower {exponent : Int} {text : List Char} (h : SpellsPower exponent text)
    (ends : Ends rest) : power (text ++ rest) = some (exponent, rest) := by
  have stops := ends.noDigit
  cases h with
  | none =>
      cases rest with
      | nil => rfl
      | cons c rest =>
          obtain ⟨_, _, lower, upper⟩ := ends c rfl
          rw [List.nil_append, power, if_neg (not_or.mpr ⟨lower, upper⟩)]
  | bare mark all => exact power_of_mark mark (sign_digits all) all stops
  | @plus _ digits mark all =>
      have signed : sign ('+' :: (digits ++ rest)) = (false, digits ++ rest) := rfl
      exact power_of_mark mark signed all stops
  | @minus _ digits mark all =>
      have signed : sign ('-' :: (digits ++ rest)) = (true, digits ++ rest) := rfl
      exact power_of_mark mark signed all stops

theorem minus_minusOf {c : Char} (digit : c.isDigit = true) (negative : Bool) (s : List Char) :
    minus (minusOf negative ++ c :: s) = (negative, c :: s) := by
  cases negative with
  | true => rfl
  | false =>
      have first : c ≠ '-' := by
        rintro rfl
        cases digit
      simp [minusOf, minus, first]

/-- A numeral ends where no character continues it, so its parts are read one after the other. -/
theorem number_of_spellsNumber {n : Number} {text : List Char} (h : SpellsNumber n text)
    (finite : n.isFinite = true) (ends : Ends rest) : number (text ++ rest) = some (n, rest) := by
  cases h with
  | @numeral negative whole decimals fraction power exponent digits decimal spelled =>
      have exponent := power_of_spellsPower spelled ends
      have front := head_power spelled ends
      have point := fraction_of_spellsDecimals decimal front
      have part := wholePart_of_wholeDigits digits
        (noDigit_fraction decimal fun c head => (front c head).1)
      obtain ⟨c, tail, head, digit⟩ := exists_digit_of_someDigits (someDigits_of_wholeDigits digits)
      have signed := minus_minusOf digit negative (tail ++ (fraction ++ (power ++ rest)))
      rw [← List.cons_append, ← head] at signed
      simp only [number, List.append_assoc, signed, part, point, exponent, bind, Option.bind]
      exact if_pos finite

theorem head_number {n : Number} {text : List Char} (h : SpellsNumber n text) :
    ∃ c tail, text = c :: tail ∧ (c.isDigit = true ∨ c = '-') := by
  cases h with
  | @numeral negative whole _ fraction power _ digits _ _ =>
      obtain ⟨c, tail, rfl, digit⟩ := exists_digit_of_someDigits (someDigits_of_wholeDigits digits)
      cases negative with
      | true => exact ⟨'-', _, rfl, .inr rfl⟩
      | false => exact ⟨c, _, rfl, .inl digit⟩

end Numbers

section Integers

theorem digitChar_ne_zero {d : Nat} (low : 0 < d) (high : d < 10) : d.digitChar ≠ '0' := by
  interval_cases d <;> decide

theorem head_toDigits {n : Nat} (positive : 0 < n) : (Nat.toDigits 10 n).head? ≠ some '0' := by
  induction n using Nat.strongRecOn with
  | ind n ih =>
      by_cases small : n < 10
      · rw [Nat.toDigits_of_lt_base small]
        intro zero
        exact digitChar_ne_zero positive small (Option.some.inj zero)
      · have front := ih (n / 10) (by omega) (by omega)
        rw [Nat.toDigits_of_base_le (by decide) (Nat.not_lt.mp small), List.head?_append]
        cases head : (Nat.toDigits 10 (n / 10)).head? with
        | none => exact absurd (List.head?_eq_none_iff.mp head) Nat.toDigits_ne_nil
        | some c =>
            rw [head] at front
            exact front

/-- Only the number zero starts with a zero, and then it has no other digit. -/
theorem wholeDigits_toDigits (n : Nat) : WholeDigits (Nat.toDigits 10 n) := by
  by_cases positive : 0 < n
  · have some : SomeDigits (Nat.toDigits 10 n) :=
      ⟨Nat.toDigits_ne_nil,
        fun _ member => Nat.isDigit_of_mem_toDigits (by decide) (by decide) member⟩
    have first := head_toDigits positive
    cases split : Nat.toDigits 10 n with
    | nil => exact absurd split Nat.toDigits_ne_nil
    | cons c tail =>
        rw [split] at some first
        refine .digits ?_ some
        rintro rfl
        exact first rfl
  · have zero : n = 0 := Nat.eq_zero_of_not_pos positive
    subst zero
    exact .zero

theorem ofDigits_toDigits (n : Nat) : ofDigits (Nat.toDigits 10 n) = n :=
  Nat.ofDigitChars_ten_toDigits

theorem signed_natAbs (i : Int) : signed (i < 0) i.natAbs = i := by
  unfold signed
  split
  · next negative =>
    have below := of_decide_eq_true negative
    omega
  · next positive =>
    have above := of_decide_eq_false (Bool.eq_false_iff.mpr positive)
    omega

theorem spellsNumber_digitsOf (i : Int) : SpellsNumber ⟨i, 0⟩ (digitsOf i) := by
  have spelled : SpellsNumber _ (minusOf (i < 0) ++ (Nat.toDigits 10 i.natAbs ++ ([] ++ []))) :=
    .numeral (wholeDigits_toDigits i.natAbs) .none .none
  rwa [List.append_nil, ofDigits_toDigits, signed_natAbs, List.append_nil, List.append_nil]
    at spelled

theorem isFinite_of_lt {i : Int} (small : i.natAbs < 2 ^ 64) : Number.isFinite ⟨i, 0⟩ = true := by
  rw [Number.isFinite, Number.leading_of_lt small]
  simp

end Integers

end SceneConfig.Json.Parser

namespace SceneConfig.Json

theorem Spells.integer {depth : Nat} {i : Int} (small : i.natAbs < 2 ^ 64) :
    Spells depth (.number ⟨i, 0⟩) (digitsOf i) :=
  .number (Parser.isFinite_of_lt small) (Parser.spellsNumber_digitsOf i)

end SceneConfig.Json

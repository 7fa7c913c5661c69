import LatencyMeter.Duration.Parser
import LatencyMeter.Proofs.Decimal.Literal

/-!
# Which texts are durations

A duration is a literal and a unit with blanks around both, or a literal alone, which counts
seconds. No literal has a letter of a unit among its characters, and so the units are told apart
although one ends in another and each is a letter or two: literal and unit are those of one
reading of the text. The reader accepts exactly the texts of this grammar whose number is finite
and not below zero.
-/

namespace LatencyMeter
namespace Duration

open Decimal (Literal)

/-! ## The grammar -/

/-- The text of a unit; seconds are meant where there is none. -/
def unitText : Option TimeUnit -> List Char
  | some .microseconds => ['u', 's']
  | some .milliseconds => ['m', 's']
  | some .seconds => ['s']
  | some .minutes => ['m']
  | some .hours => ['h']
  | none => []

/-- The nanoseconds in a unit. -/
def unitNanos : Option TimeUnit -> Nat
  | some .microseconds => Nat.pow 10 3
  | some .milliseconds => Nat.pow 10 6
  | some .seconds => Nat.pow 10 9
  | some .minutes => 60 * Nat.pow 10 9
  | some .hours => 3600 * Nat.pow 10 9
  | none => Nat.pow 10 9

/-- The spellings of an amount: a literal and a unit, with blanks before, between and behind
them. -/
inductive Spells (text number : List Char) (unit : Option TimeUnit) (value : Float) : Prop
  | intro
      (front gap back : List Char)
      (literal : Literal)
      (text_eq : text = front ++ (number ++ gap ++ unitText unit) ++ back)
      (blankFront : Text.AllBlank front)
      (blankGap : Text.AllBlank gap)
      (blankBack : Text.AllBlank back)
      (spelled : Literal.Spelled number literal)
      (value_eq : literal.toFloat = value)

/-! ## Units -/

theorem unitText_injective : Function.Injective unitText := by
  rintro (_ | unit) (_ | other) same
  · rfl
  · cases other <;> contradiction
  · cases unit <;> contradiction
  · cases unit <;> cases other <;> first | rfl | contradiction

theorem nanos_eq (unit : Option TimeUnit) :
    (unit.getD .seconds).nanos = Float.ofNat (unitNanos unit) := by
  cases unit with
  | none => decide +kernel
  | some unit => cases unit <;> decide +kernel

/-- A character that no unit begins or ends with. -/
def NoUnit (character : Char) : Prop :=
  character ≠ 'u' ∧ character ≠ 's' ∧ character ≠ 'm' ∧ character ≠ 'h'

/-- The unit is split from what stands before it if no letter of a unit does. -/
theorem splitUnit_append
    {body : List Char}
    (free : forall character, character ∈ body -> NoUnit character)
    (unit : Option TimeUnit) :
    splitUnit (body ++ unitText unit) = (body, unit.getD .seconds) := by
  have freeBack : forall character, character ∈ body.reverse -> NoUnit character :=
    fun character member => free character (List.mem_reverse.mp member)
  obtain ⟨back, rfl⟩ : exists back, body = back.reverse := ⟨body.reverse, by simp⟩
  rw [List.reverse_reverse] at freeBack
  unfold splitUnit
  rw [List.reverse_append, List.reverse_reverse]
  cases unit with
  | none =>
      rw [unitText, List.reverse_nil, List.nil_append, List.append_nil]
      cases back with
      | nil => rfl
      | cons last others =>
          obtain ⟨_, notS, notM, notH⟩ := freeBack last List.mem_cons_self
          split <;> simp_all
  | some unit =>
      cases unit with
      | microseconds => rfl
      | milliseconds => rfl
      | minutes => rfl
      | hours => rfl
      | seconds =>
          cases back with
          | nil => rfl
          | cons last others =>
              obtain ⟨notU, _, notM, _⟩ := freeBack last List.mem_cons_self
              simp only [unitText, List.reverse_singleton, List.singleton_append]
              split <;> simp_all

/-- What a text is split into are its two parts. -/
theorem exists_unit_of_splitUnit (text : List Char) :
    exists unit : Option TimeUnit,
      text = (splitUnit text).1 ++ unitText unit ∧ (splitUnit text).2 = unit.getD .seconds := by
  have restored {front : List Char} (mirrored : text.reverse = front) :
      text = front.reverse := by
    rw [← mirrored, List.reverse_reverse]
  unfold splitUnit
  split
  · next number same => exact ⟨some .milliseconds, by simp [restored same, unitText], rfl⟩
  · next number same => exact ⟨some .microseconds, by simp [restored same, unitText], rfl⟩
  · next number _ _ same => exact ⟨some .seconds, by simp [restored same, unitText], rfl⟩
  · next number same => exact ⟨some .minutes, by simp [restored same, unitText], rfl⟩
  · next number same => exact ⟨some .hours, by simp [restored same, unitText], rfl⟩
  · exact ⟨none, by simp [unitText], rfl⟩

/-! ## Amounts -/

/-- No letter of a unit is among the characters of a literal. -/
theorem noUnit_of_plain
    {character : Char}
    (plain : Literal.Plain character) :
    NoUnit character := by
  refine ⟨?_, ?_, ?_, ?_⟩ <;> rintro rfl <;> revert plain <;> decide

theorem noUnit_of_blank
    {character : Char}
    (blank : Text.isBlank character = true) :
    NoUnit character := by
  refine ⟨?_, ?_, ?_, ?_⟩ <;> rintro rfl <;> revert blank <;> decide

/-- A unit ends in a letter. -/
theorem exists_last_of_unit (unit : TimeUnit) :
    exists front last, unitText (some unit) = front ++ [last] ∧ Text.isBlank last = false := by
  cases unit with
  | microseconds => exact ⟨['u'], 's', rfl, by decide⟩
  | milliseconds => exact ⟨['m'], 's', rfl, by decide⟩
  | seconds => exact ⟨[], 's', rfl, by decide⟩
  | minutes => exact ⟨[], 'm', rfl, by decide⟩
  | hours => exact ⟨[], 'h', rfl, by decide⟩

namespace Spells

variable {text number : List Char} {unit : Option TimeUnit} {value : Float}

/-- The number of an amount is a literal. -/
theorem exists_literal (spells : Spells text number unit value) :
    exists literal, Literal.Spelled number literal ∧ literal.toFloat = value := by
  obtain ⟨_, _, _, literal, _, _, _, _, spelled, same⟩ := spells
  exact ⟨literal, spelled, same⟩

/-- Without the blanks at its ends an amount is its literal, blanks, and its unit. -/
theorem exists_trim (spells : Spells text number unit value) :
    exists gap, Text.AllBlank gap ∧ Text.trim text = number ++ gap ++ unitText unit := by
  obtain ⟨front, gap, back, literal, rfl, blankFront, blankGap, blankBack, spelled, _⟩ := spells
  have solid : Text.NoBlank number := fun character member => (spelled.plain _ member).not_blank
  rw [Text.trim_between blankFront blankBack]
  cases unit with
  | none =>
      -- There is no unit to keep the blanks behind the literal.
      refine ⟨[], Text.allBlank_nil, ?_⟩
      have trimmed := Text.trim_between Text.allBlank_nil blankGap number
      rw [List.nil_append, Text.trim_eq_self solid] at trimmed
      rw [unitText, List.append_nil, trimmed, List.append_nil, List.append_nil]
  | some unit =>
      obtain ⟨first, others, rfl⟩ := List.exists_cons_of_ne_nil spelled.nonempty
      obtain ⟨letters, last, ends, solidLast⟩ := exists_last_of_unit unit
      refine ⟨gap, blankGap, ?_⟩
      have trimmed := Text.trim_between_solids (solid first List.mem_cons_self) solidLast
        (others ++ gap ++ letters)
      rw [ends]
      simpa using trimmed

/-- An amount is split into its literal, with the blanks behind it, and its unit. -/
theorem exists_split (spells : Spells text number unit value) :
    exists gap, Text.AllBlank gap ∧ Text.trim text = number ++ gap ++ unitText unit ∧
      splitUnit (Text.trim text) = (number ++ gap, unit.getD .seconds) := by
  obtain ⟨gap, blankGap, trimmed⟩ := spells.exists_trim
  obtain ⟨_, spelled, _⟩ := spells.exists_literal
  refine ⟨gap, blankGap, trimmed, ?_⟩
  rw [trimmed]
  refine splitUnit_append (List.forall_mem_append.mpr ⟨?_, ?_⟩) unit
  · exact fun character member => noUnit_of_plain (spelled.plain character member)
  · exact fun character member => noUnit_of_blank (blankGap character member)

theorem float?_eq (spells : Spells text number unit value) :
    Decimal.float? number = some value :=
  (Decimal.float?_eq_some_iff number value).mpr spells.exists_literal

theorem trim_number
    (spells : Spells text number unit value)
    {gap : List Char}
    (blankGap : Text.AllBlank gap) :
    Text.trim (number ++ gap) = number := by
  obtain ⟨_, spelled, _⟩ := spells.exists_literal
  have trimmed := Text.trim_between Text.allBlank_nil blankGap number
  rw [List.nil_append] at trimmed
  rw [trimmed, Text.trim_eq_self fun character member => (spelled.plain _ member).not_blank]

/-- A text has one reading as an amount. -/
theorem unique
    (spells : Spells text number unit value)
    {otherNumber : List Char}
    {otherUnit : Option TimeUnit}
    {otherValue : Float}
    (others : Spells text otherNumber otherUnit otherValue) :
    number = otherNumber ∧ unit = otherUnit ∧ value = otherValue := by
  obtain ⟨gap, blankGap, trimmed, split⟩ := spells.exists_split
  obtain ⟨otherGap, blankOther, otherTrimmed, otherSplit⟩ := others.exists_split
  have sameBody : number ++ gap = otherNumber ++ otherGap :=
    (Prod.mk.inj (split.symm.trans otherSplit)).1
  have sameNumber : number = otherNumber := by
    rw [← spells.trim_number blankGap, sameBody, others.trim_number blankOther]
  have sameUnit : unitText unit = unitText otherUnit := by
    rw [trimmed, sameBody] at otherTrimmed
    exact List.append_cancel_left otherTrimmed
  refine ⟨sameNumber, unitText_injective sameUnit, ?_⟩
  have sameValue := spells.float?_eq
  rw [sameNumber, others.float?_eq] at sameValue
  exact (Option.some.inj sameValue).symm

end Spells

/-- Any text splits into a unit and what stands before it; if that is a literal with blanks
around it, the text is an amount. -/
theorem exists_spells
    {text : List Char}
    {value : Float}
    (read : Decimal.float? (Text.trim (splitUnit (Text.trim text)).1) = some value) :
    exists number unit, Spells text number unit value ∧
      (splitUnit (Text.trim text)).2 = unit.getD .seconds := by
  obtain ⟨front, back, around, blankFront, blankBack⟩ := Text.exists_trim text
  obtain ⟨unit, whole, same⟩ := exists_unit_of_splitUnit (Text.trim text)
  obtain ⟨literal, spelled, value_eq⟩ := (Decimal.float?_eq_some_iff _ value).mp read
  generalize (splitUnit (Text.trim text)).1 = body at whole spelled
  obtain ⟨before, gap, inside, blankBefore, blankGap⟩ := Text.exists_trim body
  generalize Text.trim body = number at inside spelled
  refine ⟨number, unit, ⟨front ++ before, gap, back, literal, ?_,
    List.forall_mem_append.mpr ⟨blankFront, blankBefore⟩, blankGap, blankBack, spelled,
    value_eq⟩, same⟩
  rw [around, whole, inside]
  simp

/-! ## Reading -/

/-- An amount is read as the nanoseconds that it stands for, if its number is finite and not
below zero. -/
theorem parse_of_spells
    {text number : List Char}
    {unit : Option TimeUnit}
    {value : Float}
    (spells : Spells text number unit value) :
    parse text =
      if Binary.isFinite value = true ∧ ¬ value < 0.0 then
        .ok (ofNanos (wholeNanos (value * Float.ofNat (unitNanos unit))))
      else
        .error (.negative (String.ofList (Text.trim text))) := by
  obtain ⟨gap, blankGap, trimmed, split⟩ := spells.exists_split
  have written : Text.trim text ≠ [] := by
    obtain ⟨_, spelled, _⟩ := spells.exists_literal
    rw [trimmed]
    simp [spelled.nonempty]
  simp only [parse, if_neg written, split, spells.trim_number blankGap, spells.float?_eq,
    nanos_eq]
  simp

/-- Blanks are refused as an empty text. -/
theorem parse_of_allBlank
    {text : List Char}
    (blank : Text.AllBlank text) :
    parse text = .error .empty :=
  if_pos ((Text.trim_eq_nil_iff text).mpr blank)

/-- What is neither blank nor an amount has no number before its unit. -/
theorem parse_of_not_spells
    {text : List Char}
    (solid : ¬ Text.AllBlank text)
    (unread : ¬ exists number unit value, Spells text number unit value) :
    parse text = .error (.invalidNumber (String.ofList (splitUnit (Text.trim text)).1)) := by
  have none : Decimal.float? (Text.trim (splitUnit (Text.trim text)).1) = none := by
    rw [Option.eq_none_iff_forall_ne_some]
    intro value read
    obtain ⟨number, unit, spells, _⟩ := exists_spells read
    exact unread ⟨number, unit, value, spells⟩
  simp only [parse, if_neg (mt (Text.trim_eq_nil_iff text).mp solid), none]

/-- What becomes of a text: it is blank, an amount that can be used, an amount that cannot, or
nothing of these. -/
inductive Reading (text : List Char) : Except Fault Duration -> Prop
  | blank
      (blank : Text.AllBlank text) :
      Reading text (.error .empty)
  | amount
      {number : List Char}
      {unit : Option TimeUnit}
      {value : Float}
      (spells : Spells text number unit value)
      (usable : Binary.isFinite value = true ∧ ¬ value < 0.0) :
      Reading text (.ok (ofNanos (wholeNanos (value * Float.ofNat (unitNanos unit)))))
  | unusable
      {number : List Char}
      {unit : Option TimeUnit}
      {value : Float}
      (spells : Spells text number unit value)
      (unusable : ¬ (Binary.isFinite value = true ∧ ¬ value < 0.0)) :
      Reading text (.error (.negative (String.ofList (Text.trim text))))
  | unread
      (solid : ¬ Text.AllBlank text)
      (unread : ¬ exists number unit value, Spells text number unit value) :
      Reading text
        (.error (.invalidNumber (String.ofList (splitUnit (Text.trim text)).1)))

theorem reading_parse (text : List Char) : Reading text (parse text) := by
  by_cases blank : Text.AllBlank text
  · rw [parse_of_allBlank blank]
    exact .blank blank
  · by_cases read : exists number unit value, Spells text number unit value
    · obtain ⟨number, unit, value, spells⟩ := read
      rw [parse_of_spells spells]
      split
      · next usable => exact .amount spells usable
      · next unusable => exact .unusable spells unusable
    · rw [parse_of_not_spells blank read]
      exact .unread blank read

/-- A unit alone has no number before it. -/
theorem parse_of_unit
    {front back : List Char}
    (blankFront : Text.AllBlank front)
    (blankBack : Text.AllBlank back)
    (unit : TimeUnit) :
    parse (front ++ unitText (some unit) ++ back) = .error (.invalidNumber "") := by
  have written : Text.trim (front ++ unitText (some unit) ++ back) = unitText (some unit) := by
    rw [Text.trim_between blankFront blankBack]
    cases unit <;> decide
  have split : splitUnit (unitText (some unit)) = ([], unit) :=
    splitUnit_append (List.forall_mem_nil _) (some unit)
  have letters : unitText (some unit) ≠ [] := by cases unit <;> decide
  simp only [parse, written, if_neg letters, split]
  rfl

/-- A duration is read from a text exactly if the text is a literal and a unit, with blanks
before, between and behind them, and the literal is finite and not below zero; without a unit
it counts seconds. Literal and unit are those of the only such reading of the text, and the
duration is their product in whole nanoseconds. Every other text is refused: as empty if it is
blank, as negative if it has a number that cannot be used, and as without a number otherwise,
so also if it is a unit alone. -/
theorem parse_reads_grammar (text : List Char) :
    (forall duration, parse text = .ok duration ↔
      exists number unit value, Spells text number unit value ∧
        (Binary.isFinite value = true ∧ ¬ value < 0.0) ∧
        ofNanos (wholeNanos (value * Float.ofNat (unitNanos unit))) = duration) ∧
      (forall number unit value otherNumber otherUnit otherValue,
        Spells text number unit value -> Spells text otherNumber otherUnit otherValue ->
          number = otherNumber ∧ unit = otherUnit ∧ value = otherValue) ∧
      ((¬ exists number unit value, Spells text number unit value ∧
        Binary.isFinite value = true ∧ ¬ value < 0.0) -> exists fault, parse text = .error fault) ∧
      (parse text = .error .empty ↔ Text.AllBlank text) ∧
      ((exists written, parse text = .error (.negative written)) ↔
        exists number unit value, Spells text number unit value ∧
          ¬ (Binary.isFinite value = true ∧ ¬ value < 0.0)) ∧
      ((exists written, parse text = .error (.invalidNumber written)) ↔
        ¬ Text.AllBlank text ∧ ¬ exists number unit value, Spells text number unit value) ∧
      forall front unit back, Text.AllBlank front -> Text.AllBlank back ->
        text = front ++ unitText (some unit) ++ back ->
          parse text = .error (.invalidNumber "") := by
  have reading := reading_parse text
  refine ⟨fun duration => ⟨fun read => ?_, ?_⟩,
    fun _ _ _ _ _ _ spells others => spells.unique others, fun unusable => ?_,
    ⟨fun read => ?_, parse_of_allBlank⟩, ⟨?_, ?_⟩, ⟨?_, fun unread => ?_⟩, ?_⟩
  · rw [read] at reading
    cases reading with
    | amount spells usable => exact ⟨_, _, _, spells, usable, rfl⟩
  · rintro ⟨number, unit, value, spells, usable, rfl⟩
    rw [parse_of_spells spells, if_pos usable]
  · cases read : parse text with
    | error fault => exact ⟨fault, rfl⟩
    | ok duration =>
        rw [read] at reading
        cases reading with
        | amount spells usable => exact absurd ⟨_, _, _, spells, usable⟩ unusable
  · rw [read] at reading
    cases reading with
    | blank blank => exact blank
  · rintro ⟨written, read⟩
    rw [read] at reading
    cases reading with
    | unusable spells unusable => exact ⟨_, _, _, spells, unusable⟩
  · rintro ⟨number, unit, value, spells, unusable⟩
    exact ⟨_, by rw [parse_of_spells spells, if_neg unusable]⟩
  · rintro ⟨written, read⟩
    rw [read] at reading
    cases reading with
    | unread solid unread => exact ⟨solid, unread⟩
  · exact ⟨_, parse_of_not_spells unread.1 unread.2⟩
  · rintro front unit back blankFront blankBack rfl
    exact parse_of_unit blankFront blankBack unit

example : (parse "1.5m ".toList).toOption.map toNanos = some 90000000000 := by decide +kernel

end Duration
end LatencyMeter

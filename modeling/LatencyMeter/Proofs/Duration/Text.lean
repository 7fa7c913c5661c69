import LatencyMeter.Duration.Format
import LatencyMeter.Proofs.Decimal.Fixed

/-!
# What the texts of durations say

A text of a duration for people is a decimal number and a unit, and it is read as such: the unit
is split from the end of the text, and what stands before it is a literal. The unit is the largest
one that the duration fills, and the number is a number of hundredths of it.
-/

namespace LatencyMeter
namespace Duration

/-! ## Units and how they are read -/

/-- The units in which durations are shown. -/
inductive ShownUnit
  | nanoseconds
  | microseconds
  | milliseconds
  | seconds
  deriving DecidableEq, Repr

namespace ShownUnit

/-- The nanoseconds in a unit. -/
def nanos : ShownUnit -> Nat
  | .nanoseconds => 1
  | .microseconds => 1000
  | .milliseconds => 1000000
  | .seconds => 1000000000

/-- The letters of a unit. -/
def letters : ShownUnit -> List Char
  | .nanoseconds => ['n', 's']
  | .microseconds => ['μ', 's']
  | .milliseconds => ['m', 's']
  | .seconds => ['s']

/-- The largest unit that a length in nanoseconds fills, if it fills one. -/
def of (nanos : Nat) : ShownUnit :=
  if nanos < 1000 then .nanoseconds
  else if nanos < 1000000 then .microseconds
  else if nanos < 1000000000 then .milliseconds
  else .seconds

end ShownUnit

/-- What a text of a duration says. -/
structure Shown where
  number : ℚ
  unit : ShownUnit
  deriving DecidableEq

/-- The nanoseconds that a text denotes. -/
def Shown.nanos (shown : Shown) : ℚ :=
  shown.number * shown.unit.nanos

/-- The unit that a text ends with, and what stands before it. -/
def splitShown (text : List Char) : Option (List Char × ShownUnit) :=
  match text.reverse with
  | 's' :: 'n' :: number => some (number.reverse, .nanoseconds)
  | 's' :: 'μ' :: number => some (number.reverse, .microseconds)
  | 's' :: 'm' :: number => some (number.reverse, .milliseconds)
  | 's' :: number => some (number.reverse, .seconds)
  | _ => none

/-- Read a text of a duration: a decimal number and a unit. -/
def shown? (text : String) : Option Shown := do
  let (number, unit) <- splitShown text.toList
  let number <- (Decimal.Literal.parse? number).bind Decimal.Literal.exact?
  return ⟨number, unit⟩

/-- The unit is split from a number if no letter of a unit is in it. -/
theorem splitShown_append
    {number : List Char}
    (plain : forall character, character ∈ number -> character.isDigit = true ∨ character = '.')
    (unit : ShownUnit) :
    splitShown (number ++ unit.letters) = some (number, unit) := by
  obtain ⟨back, rfl⟩ : exists back, number = back.reverse := ⟨number.reverse, by simp⟩
  unfold splitShown
  rw [List.reverse_append, List.reverse_reverse]
  cases unit with
  | nanoseconds => rfl
  | microseconds => rfl
  | milliseconds => rfl
  | seconds =>
      cases back with
      | nil => rfl
      | cons last others =>
          have lastPlain := plain last (by simp)
          have other : last ≠ 'n' ∧ last ≠ 'μ' ∧ last ≠ 'm' := by
            refine ⟨?_, ?_, ?_⟩ <;> rintro rfl <;> revert lastPlain <;> decide
          simp only [ShownUnit.letters, List.reverse_singleton, List.singleton_append]
          split <;> simp_all

/-! ## The number in a text -/

namespace ShownUnit

/-- The double that a length is divided by to count a unit. -/
def divisor : ShownUnit -> Float
  | .nanoseconds => 1.0
  | .microseconds => 1000.0
  | .milliseconds => 1000000.0
  | .seconds => 1000000000.0

theorem exists_read_divisor (unit : ShownUnit) :
    exists magnitude : Binary.Magnitude,
      Binary.read unit.divisor = .finite false magnitude ∧ magnitude.IsNormal ∧
        magnitude.value = unit.nanos := by
  cases unit with
  | nanoseconds =>
      refine ⟨⟨1 * 2 ^ 52, -52⟩, by decide +kernel, by constructor <;> decide, ?_⟩
      norm_num [Binary.Magnitude.value, nanos]
  | microseconds =>
      refine ⟨⟨1000 * 2 ^ 43, -43⟩, by decide +kernel, by constructor <;> decide, ?_⟩
      norm_num [Binary.Magnitude.value, nanos]
  | milliseconds =>
      refine ⟨⟨1000000 * 2 ^ 33, -33⟩, by decide +kernel, by constructor <;> decide, ?_⟩
      norm_num [Binary.Magnitude.value, nanos]
  | seconds =>
      refine ⟨⟨1000000000 * 2 ^ 23, -23⟩, by decide +kernel, by constructor <;> decide, ?_⟩
      norm_num [Binary.Magnitude.value, nanos]

theorem nanos_bounds (unit : ShownUnit) : 1 ≤ unit.nanos ∧ unit.nanos ≤ 1000000000 := by
  cases unit <;> decide

/-- A length has one of four units, by its size. -/
theorem of_cases (nanos : Nat) :
    nanos < 1000 ∧ of nanos = .nanoseconds ∨
      (1000 ≤ nanos ∧ nanos < 1000000) ∧ of nanos = .microseconds ∨
      (1000000 ≤ nanos ∧ nanos < 1000000000) ∧ of nanos = .milliseconds ∨
      1000000000 ≤ nanos ∧ of nanos = .seconds := by
  unfold of
  split
  · exact .inl ⟨‹_›, rfl⟩
  · split
    · exact .inr (.inl ⟨by omega, rfl⟩)
    · split
      · exact .inr (.inr (.inl ⟨by omega, rfl⟩))
      · exact .inr (.inr (.inr ⟨by omega, rfl⟩))

/-- A length fills its unit. -/
theorem nanos_of_le
    {length : Nat}
    (positive : 0 < length) :
    (of length).nanos ≤ length := by
  rcases of_cases length with ⟨_, unit⟩ | ⟨_, unit⟩ | ⟨_, unit⟩ | ⟨_, unit⟩ <;>
    (rw [unit, nanos]; omega)

/-- A length below one second does not fill the unit after its own. -/
theorem lt_of_lt_second
    {length : Nat}
    (below : length < 1000000000) :
    length < 1000 * (of length).nanos := by
  rcases of_cases length with ⟨_, unit⟩ | ⟨_, unit⟩ | ⟨_, unit⟩ | ⟨_, unit⟩ <;>
    (rw [unit, nanos]; omega)

theorem pos_of_ne_nanoseconds
    {length : Nat}
    (larger : of length ≠ .nanoseconds) :
    0 < length := by
  apply Nat.pos_of_ne_zero
  rintro rfl
  exact larger rfl

theorem of_ne_seconds
    {length : Nat}
    (below : length < 1000000000) :
    of length ≠ .seconds := by
  rcases of_cases length with ⟨_, unit⟩ | ⟨_, unit⟩ | ⟨_, unit⟩ | ⟨_, unit⟩ <;> rw [unit] <;>
    first | decide | omega

end ShownUnit

/-- The characters of the number in the text of a length. -/
def numberChars (nanos : Nat) : List Char :=
  match ShownUnit.of nanos with
  | .nanoseconds => Decimal.padded 1 nanos
  | unit => Decimal.fixedChars 2 (Float.ofNat nanos / unit.divisor)

/-- The number in the text of a length, in hundredths. -/
def hundredths (nanos : Nat) : Nat :=
  match ShownUnit.of nanos with
  | .nanoseconds => 100 * nanos
  | unit => Decimal.placeUnits 2 (Float.ofNat nanos / unit.divisor)

section Length

variable {nanos : Nat}

theorem hundredths_of_quotient (some : ShownUnit.of nanos ≠ .nanoseconds) :
    hundredths nanos =
      Decimal.placeUnits 2 (Float.ofNat nanos / (ShownUnit.of nanos).divisor) := by
  unfold hundredths
  split
  · contradiction
  · rfl

theorem near_shown_quotient
    (positive : 0 < nanos)
    (bound : nanos < 2 ^ 100)
    (unit : ShownUnit) :
    Binary.Near 3 (nanos / unit.nanos) (Float.ofNat nanos / unit.divisor) := by
  obtain ⟨magnitude, given, normal, value⟩ := unit.exists_read_divisor
  obtain ⟨least, most⟩ := unit.nanos_bounds
  have least' : (1 : ℚ) ≤ unit.nanos := by exact_mod_cast least
  have most' : (unit.nanos : ℚ) ≤ 1000000000 := by exact_mod_cast most
  rw [← value] at least' most' ⊢
  exact Binary.near_quotient positive bound given normal least' (by linarith)

/-- A text is a number and the letters of the unit. -/
theorem toList_textOfNanos (nanos : Nat) :
    (textOfNanos nanos).toList = numberChars nanos ++ (ShownUnit.of nanos).letters := by
  unfold textOfNanos numberChars ShownUnit.of
  split
  · rw [String.toList_append, String.toList_ofList]
    rfl
  · split
    · rw [String.toList_append, Decimal.fixed, String.toList_ofList]
      rfl
    · split
      · rw [String.toList_append, Decimal.fixed, String.toList_ofList]
        rfl
      · rw [String.toList_append, Decimal.fixed, String.toList_ofList]
        rfl

/-- The number has no places behind its point, or it is a number of hundredths. -/
theorem numberChars_eq (bound : nanos < 2 ^ 100) :
    exists places units : Nat,
      numberChars nanos = Decimal.withPoint places units ∧
        (units / 10 ^ places : ℚ) = hundredths nanos / 100 := by
  unfold numberChars hundredths
  split
  next => exact ⟨0, nanos, rfl, by push_cast; ring⟩
  next larger =>
    have near := near_shown_quotient (ShownUnit.pos_of_ne_nanoseconds larger) bound
    exact ⟨2, _, Decimal.fixedChars_of_near (near _) 2, by norm_num⟩

/-- A text says how many hundredths of its unit a length is. -/
theorem shown?_textOfNanos (bound : nanos < 2 ^ 100) :
    shown? (textOfNanos nanos) = some ⟨hundredths nanos / 100, ShownUnit.of nanos⟩ := by
  obtain ⟨places, units, chars, value⟩ := numberChars_eq bound
  rw [shown?, toList_textOfNanos, chars, splitShown_append fun _ => Decimal.of_mem_withPoint]
  dsimp only [Option.bind_eq_bind, Option.bind_some]
  rw [Decimal.exact?_withPoint, value]
  rfl

end Length

theorem toNanos_lt (duration : Duration) : duration.toNanos < 2 ^ 100 := by
  have seconds := duration.seconds.toNat_lt
  have rest := duration.nanoseconds_lt
  unfold toNanos nanosPerSecond at *
  omega

/-- A text says how many hundredths of its unit a duration is. -/
theorem shown?_text (duration : Duration) :
    shown? duration.text =
      some ⟨hundredths duration.toNanos / 100, ShownUnit.of duration.toNanos⟩ :=
  shown?_textOfNanos duration.toNanos_lt

example : shown? (ofNanos 1250).text = some ⟨5 / 4, .microseconds⟩ := by decide +kernel

end Duration
end LatencyMeter

import LatencyMeter.Decimal.Literal
import LatencyMeter.Proofs.Decimal.Natural
import LatencyMeter.Proofs.Text.Blank

/-!
# Which texts are decimal literals

The grammar of literals, written as relations between a text and what it denotes: an optional
sign; then a word for an infinite or undefined value in any case of letters, or digits with at
most one point among them and an optional exponent behind them. The reader accepts exactly the
texts of this grammar, each as what the grammar says it denotes. None of the characters that a
literal may have is a blank.
-/

namespace LatencyMeter
namespace Decimal

/-! ## Runs of digits -/

/-- A text that is digits and nothing else. -/
def AllDigits (text : List Char) : Prop :=
  forall character, character ∈ text -> character.isDigit = true

/-- A text that does not begin with a digit. -/
def NoDigitFirst (text : List Char) : Prop :=
  forall character, text.head? = some character -> character.isDigit = false

theorem noDigitFirst_nil : NoDigitFirst [] := fun _ none => nomatch none

theorem noDigitFirst_cons
    {first : Char}
    (other : first.isDigit = false)
    (rest : List Char) :
    NoDigitFirst (first :: rest) := by
  rintro character same
  obtain rfl := Option.some.inj same
  exact other

theorem isSome_digit? (character : Char) : (digit? character).isSome = character.isDigit := by
  cases isDigit : character.isDigit with
  | false => rw [(digit?_eq_none_iff character).mpr isDigit, Option.isSome_none]
  | true => rw [digit?_of_isDigit isDigit, Option.isSome_some]

/-- The digits at the front of a text are its longest run of them. -/
theorem digitRun_append
    {digits rest : List Char}
    (allDigits : AllDigits digits)
    (stops : NoDigitFirst rest) :
    digitRun (digits ++ rest) = ⟨Nat.ofDigitChars 10 digits 0, digits.length, rest⟩ := by
  have stopsAt : rest.takeWhile Char.isDigit = [] ∧ rest.dropWhile Char.isDigit = rest := by
    cases rest with
    | nil => exact ⟨rfl, rfl⟩
    | cons first others => simp [stops first rfl]
  have value : forall sofar,
      digits.foldl (fun value character => value * 10 + (digit? character).getD 0) sofar =
        Nat.ofDigitChars 10 digits sofar := by
    induction digits with
    | nil => exact fun _ => rfl
    | cons first others hypothesis =>
        intro sofar
        obtain ⟨isDigit, remaining⟩ := List.forall_mem_cons.mp allDigits
        rw [List.foldl_cons, hypothesis remaining, Nat.ofDigitChars_cons,
          digit?_of_isDigit isDigit, Option.getD_some, Nat.mul_comm]
  simp only [digitRun, isSome_digit?]
  rw [List.takeWhile_append_of_pos allDigits, List.dropWhile_append_of_pos allDigits,
    stopsAt.1, stopsAt.2, List.append_nil, value]

/-- Every text is a run of digits with something else behind it. -/
theorem exists_digitRun (text : List Char) :
    exists digits rest, text = digits ++ rest ∧ AllDigits digits ∧ NoDigitFirst rest := by
  refine ⟨text.takeWhile Char.isDigit, text.dropWhile Char.isDigit,
    List.takeWhile_append_dropWhile.symm, fun _ => List.mem_takeWhile_imp, fun character => ?_⟩
  intro first
  have stopped := List.head?_dropWhile_not Char.isDigit text
  rw [first] at stopped
  simpa using stopped

/-- What digits denote, if there are any. -/
theorem denotes_of_allDigits
    {digits : List Char}
    (nonempty : digits.length ≠ 0)
    (allDigits : AllDigits digits) :
    Denotes digits (Nat.ofDigitChars 10 digits 0) where
  nonempty := fun empty => nonempty (empty ▸ rfl)
  isDigit := allDigits
  value_eq := rfl

theorem Denotes.length_ne_zero
    {digits : List Char}
    {value : Nat}
    (denotes : Denotes digits value) :
    digits.length ≠ 0 := by
  rw [Ne, List.length_eq_zero_iff]
  exact denotes.nonempty

/-- A minus sign is no digit. -/
theorem Denotes.no_minus
    {rest : List Char}
    {value : Nat}
    (denotes : Denotes ('-' :: rest) value) :
    False := by
  have isDigit := denotes.isDigit '-' List.mem_cons_self
  contradiction

/-- The value of digits with more digits behind them. -/
theorem ofDigitChars_append (before after : List Char) :
    Nat.ofDigitChars 10 (before ++ after) 0 =
      Nat.ofDigitChars 10 before 0 * Nat.pow 10 after.length +
        Nat.ofDigitChars 10 after 0 := by
  rw [Nat.ofDigitChars_append, Nat.ofDigitChars_eq_ofDigitChars_zero, Nat.mul_comm]
  rfl

namespace Literal

/-! ## The grammar -/

/-- The spellings of a sign; a number without one is positive. -/
inductive Signed : List Char -> Bool -> Prop
  | unsigned : Signed [] false
  | plus : Signed ['+'] false
  | minus : Signed ['-'] true

/-- The spellings of an exponent: nothing at all, or a letter and a signed whole number. -/
inductive Scaled : List Char -> Int -> Prop
  | absent : Scaled [] 0
  | present
      {mark : Char}
      {sign digits : List Char}
      {negative : Bool}
      {value : Nat}
      (marked : mark = 'e' ∨ mark = 'E')
      (signed : Signed sign negative)
      (denotes : Denotes digits value) :
      Scaled (mark :: (sign ++ digits)) (if negative then -(value : Int) else value)

/-- The spellings of a significand with a number of places behind its point. The point may be
missing, and it may stand at either end, but there is at least one digit. -/
inductive Pointed : List Char -> Nat -> Nat -> Prop
  | whole
      {digits : List Char}
      {value : Nat}
      (denotes : Denotes digits value) :
      Pointed digits value 0
  | fraction
      {before after : List Char}
      {value : Nat}
      (denotes : Denotes (before ++ after) value) :
      Pointed (before ++ '.' :: after) value after.length

/-- The spellings of a literal without its sign. -/
inductive Unsigned (negative : Bool) : List Char -> Literal -> Prop
  | infinite
      {word : List Char}
      (spelled : word.map Char.toLower = "inf".toList ∨
        word.map Char.toLower = "infinity".toList) :
      Unsigned negative word (.infinite negative)
  | notANumber
      {word : List Char}
      (spelled : word.map Char.toLower = "nan".toList) :
      Unsigned negative word .notANumber
  | finite
      {number power : List Char}
      {significand places : Nat}
      {exponent : Int}
      (pointed : Pointed number significand places)
      (scaled : Scaled power exponent) :
      Unsigned negative (number ++ power) (.finite negative significand (exponent - places))

/-- The spellings of a literal. -/
inductive Spelled : List Char -> Literal -> Prop
  | intro
      {sign number : List Char}
      {negative : Bool}
      {literal : Literal}
      (signed : Signed sign negative)
      (unsigned : Unsigned negative number literal) :
      Spelled (sign ++ number) literal

/-! ## Exponents -/

theorem Scaled.noDigitFirst
    {power : List Char}
    {exponent : Int}
    (scaled : Scaled power exponent) :
    NoDigitFirst power := by
  cases scaled with
  | absent => exact noDigitFirst_nil
  | present marked _ _ =>
      rcases marked with rfl | rfl <;> exact noDigitFirst_cons (by decide) _

theorem Scaled.no_point
    {rest : List Char}
    {exponent : Int} :
    ¬ Scaled ('.' :: rest) exponent := by
  rintro ⟨⟩
  rename_i marked
  revert marked
  decide

/-- Digits that fill a text are all of its longest run. -/
theorem digitRun_eq_iff_denotes (text : List Char) (value : Nat) :
    (¬ ((digitRun text).count = 0 ∨ (digitRun text).rest ≠ []) ∧
      (digitRun text).value = value) ↔ Denotes text value := by
  constructor
  · rintro ⟨filled, same⟩
    obtain ⟨digits, rest, rfl, allDigits, stops⟩ := exists_digitRun text
    rw [digitRun_append allDigits stops] at filled same
    obtain ⟨some, all⟩ := not_or.mp filled
    obtain rfl : rest = [] := not_not.mp all
    rw [List.append_nil]
    exact same ▸ denotes_of_allDigits some allDigits
  · intro denotes
    have run := digitRun_append denotes.isDigit noDigitFirst_nil
    rw [List.append_nil] at run
    rw [run]
    exact ⟨by simp [denotes.nonempty], denotes.value_eq⟩

/-- The digits of an exponent as they are read behind its sign. -/
theorem signedRun_eq_some_iff (negative : Bool) (text : List Char) (exponent : Int) :
    (if (digitRun text).count = 0 ∨ (digitRun text).rest ≠ [] then none
      else some (if negative then -((digitRun text).value : Int) else (digitRun text).value)) =
        some exponent ↔
      exists value : Nat,
        Denotes text value ∧ (if negative then -(value : Int) else value) = exponent := by
  rw [Option.ite_none_left_eq_some, Option.some.injEq]
  constructor
  · rintro ⟨filled, same⟩
    exact ⟨_, (digitRun_eq_iff_denotes text _).mp ⟨filled, rfl⟩, same⟩
  · rintro ⟨value, denotes, same⟩
    obtain ⟨filled, read⟩ := (digitRun_eq_iff_denotes text value).mpr denotes
    exact ⟨filled, read ▸ same⟩

/-- An exponent is read exactly from its spellings. -/
theorem exponent?_eq_some_iff (text : List Char) (exponent : Int) :
    exponent? text = some exponent ↔ Scaled text exponent := by
  cases text with
  | nil =>
      rw [exponent?, Option.some.injEq]
      constructor
      · rintro rfl
        exact .absent
      · rintro ⟨⟩
        rfl
  | cons mark rest =>
      by_cases marked : mark = 'e' ∨ mark = 'E'
      · simp only [exponent?, if_pos marked]
        constructor
        · intro read
          split at read
          · obtain ⟨value, denotes, rfl⟩ := (signedRun_eq_some_iff true _ _).mp read
            exact .present marked .minus denotes
          · obtain ⟨value, denotes, rfl⟩ := (signedRun_eq_some_iff false _ _).mp read
            exact .present marked .plus denotes
          · obtain ⟨value, denotes, rfl⟩ := (signedRun_eq_some_iff false _ _).mp read
            exact .present marked .unsigned denotes
        · intro scaled
          cases scaled with
          | present _ signed denotes =>
              cases signed with
              | minus => exact (signedRun_eq_some_iff true _ _).mpr ⟨_, denotes, rfl⟩
              | plus => exact (signedRun_eq_some_iff false _ _).mpr ⟨_, denotes, rfl⟩
              | unsigned =>
                  split
                  · next others minus =>
                    obtain rfl : _ = '-' :: others := minus
                    exact denotes.no_minus.elim
                  · next others plus =>
                    obtain rfl : _ = '+' :: others := plus
                    exact denotes.no_plus.elim
                  · exact (signedRun_eq_some_iff false _ _).mpr ⟨_, denotes, rfl⟩
      · simp only [exponent?, if_neg marked]
        constructor
        · intro impossible
          contradiction
        · intro scaled
          cases scaled with
          | present present _ _ => exact absurd present marked

/-! ## Literals without a sign -/

/-- The lower case leaves a character as it is that is no upper case letter. -/
theorem toLower_of_not_upper
    {character : Char}
    (other : ¬ (character.val ≥ 'A'.val ∧ character.val ≤ 'Z'.val)) :
    character.toLower = character :=
  dif_neg other

theorem lower_eq_toLower (character : Char) : lower character = character.toLower := by
  have table : forall code, code ≤ 'Z'.toNat ->
      lower (Char.ofNat code) = (Char.ofNat code).toLower := by
    decide
  by_cases within : character.toNat ≤ 'Z'.toNat
  · simpa using table character.toNat within
  · -- Behind the upper case letters both leave the character as it is.
    have beyond : ¬ ('A' ≤ character ∧ character ≤ 'Z') := fun upper => within upper.2
    rw [lower, if_neg beyond, toLower_of_not_upper beyond]

/-- The words for infinite and undefined values, in any case of letters. -/
def IsWord (text : List Char) : Prop :=
  (text.map Char.toLower = "inf".toList ∨ text.map Char.toLower = "infinity".toList) ∨
    text.map Char.toLower = "nan".toList

/-- Digits without a point are read as a significand of their own. -/
theorem unsigned?_whole
    {digits power : List Char}
    (negative : Bool)
    (number : ¬ IsWord (digits ++ power))
    (allDigits : AllDigits digits)
    (stops : NoDigitFirst power)
    (pointless : forall rest, power ≠ '.' :: rest) :
    unsigned? negative (digits ++ power) =
      if digits.length = 0 then none
      else (exponent? power).map (.finite negative (Nat.ofDigitChars 10 digits 0)) := by
  obtain ⟨finite, defined⟩ := not_or.mp number
  simp only [unsigned?, funext lower_eq_toLower, if_neg finite, if_neg defined,
    digitRun_append allDigits stops]
  simp

/-- Digits with a point among them are read as the significand that they are without it. -/
theorem unsigned?_fraction
    {before after power : List Char}
    (negative : Bool)
    (number : ¬ IsWord (before ++ '.' :: (after ++ power)))
    (digitsBefore : AllDigits before)
    (digitsAfter : AllDigits after)
    (stops : NoDigitFirst power) :
    unsigned? negative (before ++ '.' :: (after ++ power)) =
      if (before ++ after).length = 0 then none
      else (exponent? power).map fun exponent =>
        .finite negative (Nat.ofDigitChars 10 (before ++ after) 0) (exponent - after.length) := by
  obtain ⟨finite, defined⟩ := not_or.mp number
  have point : '.'.isDigit = false := by decide
  simp only [unsigned?, funext lower_eq_toLower, if_neg finite, if_neg defined,
    digitRun_append digitsBefore (noDigitFirst_cons point _), digitRun_append digitsAfter stops,
    ofDigitChars_append, List.length_append]

/-- A number begins with a digit or with its point. -/
theorem Pointed.first
    {number : List Char}
    {significand places : Nat}
    (pointed : Pointed number significand places) :
    exists first rest, number = first :: rest ∧ (first.isDigit = true ∨ first = '.') := by
  cases pointed with
  | whole denotes =>
      obtain ⟨first, rest, rfl⟩ := List.exists_cons_of_ne_nil denotes.nonempty
      exact ⟨first, rest, rfl, .inl (denotes.isDigit first List.mem_cons_self)⟩
  | @fraction before after _ denotes =>
      cases before with
      | nil => exact ⟨'.', after, rfl, .inr rfl⟩
      | cons first rest =>
          exact ⟨first, rest ++ '.' :: after, rfl,
            .inl (denotes.isDigit first List.mem_cons_self)⟩

/-- No word begins as a number does. -/
theorem Pointed.not_isWord
    {number : List Char}
    {significand places : Nat}
    (pointed : Pointed number significand places)
    (power : List Char) :
    ¬ IsWord (number ++ power) := by
  obtain ⟨first, rest, rfl, begins⟩ := pointed.first
  intro word
  have letter : first.toLower = 'i' ∨ first.toLower = 'n' := by
    rcases word with (same | same) | same
    · exact .inl (List.cons.inj same).1
    · exact .inl (List.cons.inj same).1
    · exact .inr (List.cons.inj same).1
  have unchanged : first.toLower = first := by
    rcases begins with isDigit | rfl
    · rw [Char.isDigit_iff_toNat] at isDigit
      have below : ¬ (first.val ≥ 'A'.val ∧ first.val ≤ 'Z'.val) := fun upper =>
        absurd (Nat.le_trans upper.1 isDigit.2) (by decide)
      exact toLower_of_not_upper below
    · decide
  rw [unchanged] at letter
  rcases letter with rfl | rfl <;> revert begins <;> decide

/-- A literal that is no word is read exactly from the spellings of its number. -/
theorem unsigned?_number
    {text : List Char}
    (number : ¬ IsWord text)
    (negative : Bool)
    (literal : Literal) :
    unsigned? negative text = some literal ↔
      exists digits power significand places exponent,
        text = digits ++ power ∧ Pointed digits significand places ∧ Scaled power exponent ∧
          .finite negative significand (exponent - places) = literal := by
  constructor
  · intro read
    obtain ⟨digits, rest, rfl, allDigits, stops⟩ := exists_digitRun text
    by_cases pointed : exists more, rest = '.' :: more
    · obtain ⟨more, rfl⟩ := pointed
      obtain ⟨after, power, rfl, digitsAfter, stopsAfter⟩ := exists_digitRun more
      rw [unsigned?_fraction negative number allDigits digitsAfter stopsAfter,
        Option.ite_none_left_eq_some, Option.map_eq_some_iff] at read
      obtain ⟨some, exponent, scaled, same⟩ := read
      have all : AllDigits (digits ++ after) := List.forall_mem_append.mpr ⟨allDigits, digitsAfter⟩
      exact ⟨digits ++ '.' :: after, power, _, _, exponent, by simp,
        .fraction (denotes_of_allDigits some all), (exponent?_eq_some_iff _ _).mp scaled, same⟩
    · rw [unsigned?_whole negative number allDigits stops fun more same => pointed ⟨more, same⟩,
        Option.ite_none_left_eq_some, Option.map_eq_some_iff] at read
      obtain ⟨some, exponent, scaled, same⟩ := read
      exact ⟨digits, rest, _, 0, exponent, rfl, .whole (denotes_of_allDigits some allDigits),
        (exponent?_eq_some_iff _ _).mp scaled, by rw [Int.natCast_zero, Int.sub_zero, same]⟩
  · rintro ⟨digits, power, significand, places, exponent, rfl, pointed, scaled, same⟩
    have stops := scaled.noDigitFirst
    have read := (exponent?_eq_some_iff power exponent).mpr scaled
    cases pointed with
    | whole denotes =>
        rw [unsigned?_whole negative number denotes.isDigit stops fun _ point =>
            (point ▸ scaled).no_point,
          if_neg denotes.length_ne_zero, read, denotes.value_eq, Option.map_some, ← same]
        simp
    | @fraction before after _ denotes =>
        obtain ⟨digitsBefore, digitsAfter⟩ := List.forall_mem_append.mp denotes.isDigit
        rw [List.append_assoc, List.cons_append] at number ⊢
        rw [unsigned?_fraction negative number digitsBefore digitsAfter stops,
          if_neg denotes.length_ne_zero, read, denotes.value_eq, Option.map_some, same]

/-- A literal without a sign is read exactly from its spellings. -/
theorem unsigned?_eq_some_iff (negative : Bool) (text : List Char) (literal : Literal) :
    unsigned? negative text = some literal ↔ Unsigned negative text literal := by
  by_cases number : ¬ IsWord text
  · rw [unsigned?_number number]
    constructor
    · rintro ⟨digits, power, significand, places, exponent, rfl, pointed, scaled, rfl⟩
      exact .finite pointed scaled
    · intro unsigned
      cases unsigned with
      | infinite spelled => exact absurd (.inl spelled) number
      | notANumber spelled => exact absurd (.inr spelled) number
      | finite pointed scaled => exact ⟨_, _, _, _, _, rfl, pointed, scaled, rfl⟩
  · have word : IsWord text := not_not.mp number
    have only : forall other, Unsigned negative text other ->
        unsigned? negative text = some other := by
      intro other unsigned
      cases unsigned with
      | infinite spelled =>
          simp only [unsigned?, funext lower_eq_toLower]
          exact if_pos spelled
      | notANumber spelled =>
          simp only [unsigned?, funext lower_eq_toLower, spelled]
          rfl
      | finite pointed _ => exact absurd word (pointed.not_isWord _)
    refine ⟨fun read => ?_, only literal⟩
    have spelled : exists other, Unsigned negative text other := by
      rcases word with (infinite | infinite) | undefined
      · exact ⟨_, .infinite (.inl infinite)⟩
      · exact ⟨_, .infinite (.inr infinite)⟩
      · exact ⟨_, .notANumber undefined⟩
    obtain ⟨other, unsigned⟩ := spelled
    obtain rfl := Option.some.inj ((only other unsigned).symm.trans read)
    exact unsigned

/-! ## Literals -/

/-- What stands behind the sign does not begin with another one. -/
theorem Unsigned.no_sign
    {negative : Bool}
    {first : Char}
    {rest : List Char}
    {literal : Literal}
    (unsigned : Unsigned negative (first :: rest) literal) :
    first ≠ '-' ∧ first ≠ '+' := by
  generalize same : first :: rest = text at unsigned
  suffices sign : ¬ (first = '-' ∨ first = '+') from not_or.mp sign
  intro sign
  cases unsigned with
  | infinite spelled =>
      rw [← same] at spelled
      rcases sign with rfl | rfl <;> revert spelled <;> simp
  | notANumber spelled =>
      rw [← same] at spelled
      rcases sign with rfl | rfl <;> revert spelled <;> simp
  | finite pointed _ =>
      obtain ⟨head, tail, rfl, begins⟩ := pointed.first
      obtain ⟨rfl, _⟩ := List.cons.inj same
      rcases sign with rfl | rfl <;> revert begins <;> decide

/-- A literal is read exactly from its spellings. -/
theorem parse?_eq_some_iff (text : List Char) (literal : Literal) :
    parse? text = some literal ↔ Spelled text literal := by
  constructor
  · intro read
    unfold parse? at read
    split at read
    · exact .intro .minus ((unsigned?_eq_some_iff true _ literal).mp read)
    · exact .intro .plus ((unsigned?_eq_some_iff false _ literal).mp read)
    · exact .intro .unsigned ((unsigned?_eq_some_iff false _ literal).mp read)
  · rintro ⟨signed, unsigned⟩
    cases signed with
    | minus => exact (unsigned?_eq_some_iff true _ literal).mpr unsigned
    | plus => exact (unsigned?_eq_some_iff false _ literal).mpr unsigned
    | unsigned =>
        rw [List.nil_append]
        unfold parse?
        split
        · exact absurd rfl unsigned.no_sign.1
        · exact absurd rfl unsigned.no_sign.2
        · exact (unsigned?_eq_some_iff false _ literal).mpr unsigned

/-! ## The characters of a literal -/

/-- The characters that a literal may have: digits, signs, the point and letters. -/
def Plain (character : Char) : Prop :=
  character.isDigit = true ∨ character.isUpper = true ∨ character ∈ "+-.einftya".toList

instance : DecidablePred Plain := fun _ => inferInstanceAs (Decidable (_ ∨ _ ∨ _))

theorem Plain.not_blank
    {character : Char}
    (plain : Plain character) :
    Text.isBlank character = false := by
  have within : 33 ≤ character.toNat ∧ character.toNat ≤ 126 := by
    rcases plain with isDigit | isUpper | listed
    · rw [Char.isDigit_iff_toNat] at isDigit
      exact ⟨Nat.le_trans (by decide) isDigit.1, Nat.le_trans isDigit.2 (by decide)⟩
    · obtain ⟨least, greatest⟩ := of_decide_eq_true isUpper
      exact ⟨Nat.le_trans (by decide) least, Nat.le_trans greatest (by decide)⟩
    · have table : ("+-.einftya".toList.all fun other =>
          33 ≤ other.toNat && other.toNat ≤ 126) = true := by
        decide
      simpa using List.all_eq_true.mp table character listed
  simp only [Text.isBlank, Bool.or_eq_false_iff, Bool.and_eq_false_iff, beq_eq_false_iff_ne,
    decide_eq_false_iff_not]
  omega

/-- A letter of a word is plain in either case. -/
theorem plain_of_toLower
    {character : Char}
    (letter : character.toLower ∈ "infinityna".toList) :
    Plain character := by
  by_cases isUpper : character.isUpper = true
  · exact .inr (.inl isUpper)
  · rw [toLower_of_not_upper fun upper => isUpper (decide_eq_true upper)] at letter
    have among : "infinityna".toList ⊆ "+-.einftya".toList := by decide
    exact .inr (.inr (among letter))

theorem Signed.plain
    {sign : List Char}
    {negative : Bool}
    (signed : Signed sign negative) :
    forall character, character ∈ sign -> Plain character := by
  cases signed with
  | unsigned => exact List.forall_mem_nil _
  | plus => exact List.forall_mem_singleton.mpr (by decide)
  | minus => exact List.forall_mem_singleton.mpr (by decide)

theorem Scaled.plain
    {power : List Char}
    {exponent : Int}
    (scaled : Scaled power exponent) :
    forall character, character ∈ power -> Plain character := by
  cases scaled with
  | absent => exact List.forall_mem_nil _
  | present marked signed denotes =>
      refine List.forall_mem_cons.mpr ⟨?_, List.forall_mem_append.mpr ⟨signed.plain, ?_⟩⟩
      · rcases marked with rfl | rfl <;> decide
      · exact fun character member => .inl (denotes.isDigit character member)

theorem Pointed.plain
    {number : List Char}
    {significand places : Nat}
    (pointed : Pointed number significand places) :
    forall character, character ∈ number -> Plain character := by
  cases pointed with
  | whole denotes => exact fun character member => .inl (denotes.isDigit character member)
  | fraction denotes =>
      obtain ⟨digitsBefore, digitsAfter⟩ := List.forall_mem_append.mp denotes.isDigit
      refine List.forall_mem_append.mpr ⟨fun character member => .inl (digitsBefore _ member),
        List.forall_mem_cons.mpr ⟨by decide, fun character member => .inl (digitsAfter _ member)⟩⟩

/-- The letters of a text are plain if they are among those of the words in lower case. -/
theorem plain_of_map_toLower
    {text word : List Char}
    (spelled : text.map Char.toLower = word)
    (letters : word ⊆ "infinityna".toList) :
    forall character, character ∈ text -> Plain character :=
  fun _ member => plain_of_toLower (letters (spelled ▸ List.mem_map_of_mem member))

theorem Unsigned.plain
    {negative : Bool}
    {text : List Char}
    {literal : Literal}
    (unsigned : Unsigned negative text literal) :
    forall character, character ∈ text -> Plain character := by
  cases unsigned with
  | infinite spelled =>
      rcases spelled with spelled | spelled <;> exact plain_of_map_toLower spelled (by decide)
  | notANumber spelled => exact plain_of_map_toLower spelled (by decide)
  | finite pointed scaled => exact List.forall_mem_append.mpr ⟨pointed.plain, scaled.plain⟩

/-- Every character of a literal is plain. -/
theorem Spelled.plain
    {text : List Char}
    {literal : Literal}
    (spelled : Spelled text literal) :
    forall character, character ∈ text -> Plain character := by
  obtain ⟨signed, unsigned⟩ := spelled
  exact List.forall_mem_append.mpr ⟨signed.plain, unsigned.plain⟩

/-- No literal is empty. -/
theorem Spelled.nonempty
    {text : List Char}
    {literal : Literal}
    (spelled : Spelled text literal) :
    text ≠ [] := by
  rintro rfl
  have read := (parse?_eq_some_iff [] literal).mpr spelled
  revert read
  simp [parse?, unsigned?, digitRun]

end Literal

/-- A text denotes a double exactly if it is a literal, and then that of the literal. -/
theorem float?_eq_some_iff (text : List Char) (value : Float) :
    float? text = some value ↔
      exists literal, Literal.Spelled text literal ∧ literal.toFloat = value := by
  simp only [float?, Option.map_eq_some_iff, Literal.parse?_eq_some_iff]

end Decimal
end LatencyMeter

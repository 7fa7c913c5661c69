import LatencyMeter.Document.Lexeme
import LatencyMeter.Proofs.Decimal.Digits
import LatencyMeter.Proofs.Decimal.Natural

/-!
# Numbers and texts are read as they are written

A text between its quotes is read back from the front of whatever it stands in. A whole number
that fits into a word is read back too, if what stands behind it does not go on with it.
-/

namespace LatencyMeter

/-- What goes on with a success goes on with its value. -/
@[simp] theorem ok_bind (value : α) (next : α -> Except ε β) :
    (Except.ok value >>= next) = next value := rfl

namespace Document

variable {rest : List Char}

/-- Where no blank stands in front nothing is skipped. -/
theorem skipSpace_cons
    {first : Char}
    (solid : isSpace first = false)
    (rest : List Char) :
    skipSpace (first :: rest) = first :: rest :=
  List.dropWhile_cons_of_neg (by simp [solid])

/-! ## Texts -/

theorem hexDigit?_digitChar {digit : Nat} (small : digit < 16) :
    hexDigit? digit.digitChar = some digit := by
  have table : forall digit, digit < 16 -> hexDigit? digit.digitChar = some digit := by decide
  exact table digit small

/-- A character below the blank is read from its number. -/
theorem escape_control
    {character : Char}
    (control : character.toNat < 0x20)
    (rest : List Char) :
    escape ('u' :: '0' :: '0' :: Nat.digitChar (character.toNat / 16) ::
        Nat.digitChar (character.toNat % 16) :: rest) =
      .ok (character, rest) := by
  have zero : hexDigit? '0' = some 0 := rfl
  have high := hexDigit?_digitChar (show character.toNat / 16 < 16 by omega)
  have low := hexDigit?_digitChar (show character.toNat % 16 < 16 by omega)
  have number : ((0 * 16 + 0) * 16 + character.toNat / 16) * 16 + character.toNat % 16 =
      character.toNat := by omega
  have read : hexEscape ('0' :: '0' :: Nat.digitChar (character.toNat / 16) ::
      Nat.digitChar (character.toNat % 16) :: rest) = .ok (character.toNat, rest) := by
    simp only [hexEscape, zero, high, low, number]
  have noLow : ¬ (0xdc00 ≤ character.toNat ∧ character.toNat ≤ 0xdfff) := by omega
  have noHigh : ¬ (0xd800 ≤ character.toNat ∧ character.toNat ≤ 0xdbff) := by omega
  rw [escape, read]
  simp only [ok_bind, noLow, noHigh, if_false, Char.ofNat_toNat]
  rfl

/-- A character that is written as an escape is read. -/
theorem stringFrom_escape
    {text : List Char}
    {character : Char}
    (escaped : escape text = .ok (character, rest))
    (bound : Nat) :
    stringFrom (bound + 1) ('\\' :: text) =
      (stringFrom bound rest).map fun read => (character :: read.1, read.2) := by
  rw [stringFrom, escaped]
  simp only [ok_bind]
  cases stringFrom bound rest <;> rfl

/-- A character that stands for itself is read. -/
theorem stringFrom_plain
    {character : Char}
    (noQuote : character ≠ '"')
    (noEscape : character ≠ '\\')
    (printed : ¬ character.toNat < 0x20)
    (bound : Nat)
    (rest : List Char) :
    stringFrom (bound + 1) (character :: rest) =
      (stringFrom bound rest).map fun read => (character :: read.1, read.2) := by
  rw [stringFrom.eq_def]
  simp only [printed, if_false]
  cases stringFrom bound rest <;> rfl

/-- A character of a text is read from what is written for it. -/
theorem stringFrom_stringChar
    (character : Char)
    (bound : Nat)
    (rest : List Char) :
    stringFrom (bound + 1) (stringChar character ++ rest) =
      (stringFrom bound rest).map fun read => (character :: read.1, read.2) := by
  unfold stringChar
  split
  case h_8 noQuote noEscape _ _ _ _ _ =>
    split
    · next control => exact stringFrom_escape (escape_control control rest) bound
    · next printed => exact stringFrom_plain noQuote noEscape printed bound rest
  all_goals exact stringFrom_escape rfl bound

/-- A text is read up to its closing quote. -/
theorem stringFrom_text
    (text : List Char)
    {bound : Nat}
    (enough : text.length < bound)
    (rest : List Char) :
    stringFrom bound (text.flatMap stringChar ++ '"' :: rest) = .ok (text, rest) := by
  induction text generalizing bound with
  | nil =>
      obtain ⟨bound, rfl⟩ := Nat.exists_eq_add_one_of_ne_zero (Nat.ne_zero_of_lt enough)
      simp [stringFrom]
  | cons character others hypothesis =>
      obtain ⟨bound, rfl⟩ := Nat.exists_eq_add_one_of_ne_zero (Nat.ne_zero_of_lt enough)
      rw [List.flatMap_cons, List.append_assoc, stringFrom_stringChar,
        hypothesis (Nat.lt_of_succ_lt_succ enough)]
      rfl

/-- Something is written for every character. -/
theorem length_stringChar_pos (character : Char) : 0 < (stringChar character).length := by
  unfold stringChar
  split
  case h_8 => split <;> exact Nat.zero_lt_succ _
  all_goals exact Nat.zero_lt_succ _

/-- No fewer characters are written than a text has. -/
theorem length_le_flatMap_stringChar (text : List Char) :
    text.length ≤ (text.flatMap stringChar).length := by
  induction text with
  | nil => exact Nat.le_refl _
  | cons character others hypothesis =>
      have written := length_stringChar_pos character
      rw [List.flatMap_cons, List.length_append, List.length_cons]
      omega

/-- A text is read behind its opening quote. -/
theorem stringRest_text (text rest : List Char) :
    stringRest (text.flatMap stringChar ++ '"' :: rest) = .ok (text, rest) := by
  refine stringFrom_text text ?_ rest
  have written := length_le_flatMap_stringChar text
  rw [List.length_append]
  omega

/-- A text is written between two quotes. -/
theorem stringChars_append (text : String) (rest : List Char) :
    stringChars text ++ rest = '"' :: (text.toList.flatMap stringChar ++ '"' :: rest) := by
  simp [stringChars]

/-! ## Whole numbers -/

/-- What does not go on with a number: no digit, no point and no mark of an exponent. -/
structure EndsNumber (rest : List Char) : Prop where
  digit : rest.head?.bind Decimal.digit? = none
  point : rest.head? ≠ some '.'
  lower : rest.head? ≠ some 'e'
  upper : rest.head? ≠ some 'E'

/-- What is written for a number begins with a digit. -/
theorem exists_digit (number : Nat) :
    exists first others,
      Nat.toDigits 10 number = first :: others ∧ first.isDigit = true := by
  obtain ⟨first, others, same⟩ := Decimal.exists_cons_toDigits 10 number
  exact ⟨first, others, same, (Decimal.denotes_toDigits number).isDigit first (by simp [same])⟩

/-- The digits of a number that fits into a word are all kept. -/
theorem wholeDigits_toDigits
    {number : Nat}
    (within : number ≤ Word.limit)
    (ends : EndsNumber rest) :
    wholeDigits ⟨0, 0, 0, []⟩ (Nat.toDigits 10 number ++ rest) =
      ⟨number, (Nat.toDigits 10 number).length, 0, rest⟩ := by
  refine (Decimal.reads_toDigits (by decide) (fun kept value text =>
    wholeDigits ⟨value, kept, 0, []⟩ text) ?_ within (Nat.le_refl _) rest).trans ?_
  · intro kept value digit rest _ small fits
    rw [wholeDigits, Decimal.digit?_digitChar small]
    simp only [fits, and_self, if_true]
  · cases rest with
    | nil => rfl
    | cons first others =>
        have stops : Decimal.digit? first = none := ends.digit
        rw [wholeDigits, stops]

/-- A number ends where nothing goes on with it. -/
theorem numeralRest_of_endsNumber
    (numeral : Numeral)
    (ends : EndsNumber rest) :
    numeralRest numeral rest = .ok (numeral, rest) := by
  unfold numeralRest
  split
  · exact absurd rfl ends.point
  · unfold numeralEnd
    split
    · exact absurd rfl ends.lower
    · exact absurd rfl ends.upper
    · rfl

/-- A number that fits into a word is read behind its sign. -/
theorem numeral_toDigits
    {number : Nat}
    (within : number ≤ Word.limit)
    (ends : EndsNumber rest)
    (negative : Bool) :
    numeral negative (Nat.toDigits 10 number ++ rest) =
      .ok (⟨negative, number, 0, false⟩, rest) := by
  obtain ⟨first, others, same, isDigit⟩ := exists_digit number
  have whole := wholeDigits_toDigits within ends
  rw [same, List.cons_append] at whole ⊢
  unfold numeral
  split
  · contradiction
  · next behind begins =>
    obtain ⟨rfl, rfl⟩ := List.cons.inj begins
    -- Only zero is written with a zero in front, and it is written with nothing else.
    obtain ⟨rfl, rfl⟩ := Decimal.zero_of_toDigits (by decide) same
    rw [List.nil_append, ends.digit]
    exact numeralRest_of_endsNumber _ ends
  · next behind notZero begins =>
    obtain ⟨rfl, rfl⟩ := List.cons.inj begins
    rw [Decimal.digit?_of_isDigit isDigit, whole]
    exact numeralRest_of_endsNumber _ ends

/-- A number that fits into a word is read as a whole number. -/
theorem quantity_toDigits
    {number : Nat}
    (within : number ≤ Word.limit)
    (ends : EndsNumber rest) :
    quantity false (Nat.toDigits 10 number ++ rest) = .ok (.whole number, rest) := by
  rw [quantity, numeral_toDigits within ends]
  rfl

end Document
end LatencyMeter

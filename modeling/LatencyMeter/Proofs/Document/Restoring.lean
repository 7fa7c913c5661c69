import LatencyMeter.Settings.Document
import LatencyMeter.Proofs.Document.Lexeme

/-!
# Readers that restore documents

A reader restores a document if it reads it from its compact form, wherever that form stands
in a larger one. Readers are put together from readers of parts, and so are the proofs that
they restore: each way to put readers together has one theorem, which needs no more of the
parts than that they restore.
-/

namespace LatencyMeter
namespace Document

variable {rest : List Char}

/-- What may stand behind a value: nothing, a comma or a closing bracket. -/
def EndsValue (rest : List Char) : Prop :=
  forall first, rest.head? = some first -> first = ',' ∨ first = ']' ∨ first = '\x7d'

theorem endsValue_nil : EndsValue [] := by
  simp [EndsValue]

theorem endsValue_comma (rest : List Char) : EndsValue (',' :: rest) := by
  simp [EndsValue]

theorem endsValue_brace (rest : List Char) : EndsValue ('\x7d' :: rest) := by
  simp [EndsValue]

/-- Nothing that ends a value goes on with a number. -/
theorem EndsValue.endsNumber (ends : EndsValue rest) : EndsNumber rest := by
  cases rest with
  | nil => exact ⟨rfl, by simp, by simp, by simp⟩
  | cons first others =>
      rcases ends first rfl with rfl | rfl | rfl <;>
        exact ⟨rfl, by simp, by simp, by simp⟩

/-- A reader reads a document back, in front of whatever may stand behind it, if it may go
deeper by a number of levels. -/
def Restored (reader : Reader) (levels : Nat) (document : Document) : Prop :=
  forall depth rest, levels < depth -> EndsValue rest ->
    reader depth (document.chars ++ rest) = .ok (document, rest)

theorem Restored.mono
    {reader : Reader}
    {levels more : Nat}
    {document : Document}
    (restored : Restored reader levels document)
    (le : levels ≤ more) :
    Restored reader more document :=
  fun depth rest deep ends => restored depth rest (Nat.lt_of_le_of_lt le deep) ends

/-- The first character of a document is no blank and does not begin the word for nothing. -/
def Present (document : Document) : Prop :=
  exists first others, document.chars = first :: others ∧ isSpace first = false ∧ first ≠ 'n'

/-! ## Single values -/

/-- A digit is no blank, no sign and no letter. -/
theorem of_isDigit
    {character : Char}
    (isDigit : character.isDigit = true) :
    isSpace character = false ∧ character ≠ 'n' ∧ character ≠ '-' := by
  refine ⟨?_, ?_, ?_⟩
  · cases space : isSpace character with
    | false => rfl
    | true =>
        simp only [isSpace, Bool.or_eq_true, beq_iff_eq] at space
        rcases space with ((rfl | rfl) | rfl) | rfl <;> contradiction
  · rintro rfl
    contradiction
  · rintro rfl
    contradiction

theorem chars_natural (number : Nat) : (integer number).chars = Nat.toDigits 10 number := by
  have positive : ¬ (number : Int) < 0 := Int.not_lt.mpr (Int.natCast_nonneg number)
  simp [chars, integerChars, positive]

/-- A number that fits into a word is read back. -/
theorem restored_integer
    {least greatest : Int}
    {number : Nat}
    (word : number ≤ Word.limit)
    (above : least ≤ number)
    (below : (number : Int) ≤ greatest) :
    Restored (integerReader least greatest) 0 (.integer number) := by
  intro depth rest _ ends
  obtain ⟨first, others, same, isDigit⟩ := exists_digit number
  obtain ⟨solid, _, unsigned⟩ := of_isDigit isDigit
  have read := quantity_toDigits word ends.endsNumber
  have any : anyQuantity (Nat.toDigits 10 number ++ rest) = .ok (.whole number, rest) := by
    rw [same, List.cons_append] at read ⊢
    unfold anyQuantity
    rw [skipSpace_cons solid]
    split
    · next behind begins => exact absurd (List.cons.inj begins).1 unsigned
    · next digit behind _ begins =>
      obtain ⟨rfl, rfl⟩ := List.cons.inj begins
      rw [Decimal.digit?_of_isDigit isDigit]
      exact read
    · contradiction
  rw [chars_natural]
  simp only [integerReader, any, ok_bind, above, below, and_self, if_true]
  rfl

theorem restored_word (value : UInt64) : Restored wordReader 0 (word value) :=
  restored_integer (Nat.le_of_lt_succ value.toNat_lt) (Int.natCast_nonneg _)
    (Int.ofNat_le.mpr (Nat.le_of_lt_succ value.toNat_lt))

theorem present_natural (number : Nat) : Present (.integer number) := by
  obtain ⟨first, others, same, isDigit⟩ := exists_digit number
  exact ⟨first, others, (chars_natural number).trans same, (of_isDigit isDigit).1,
    (of_isDigit isDigit).2.1⟩

theorem restored_bool (value : Bool) : Restored boolReader 0 (.bool value) := by
  intro depth rest _ _
  cases value <;> rfl

theorem anyString_stringChars (text : String) (rest : List Char) :
    anyString (stringChars text ++ rest) = .ok (text.toList, rest) := by
  rw [stringChars_append]
  exact stringRest_text text.toList rest

/-- A text is read back if it is spelled as it would be respelled. -/
theorem restored_string
    {canonical : List Char -> Option (List Char)}
    {text : String}
    (canonic : canonical text.toList = some text.toList) :
    Restored (stringReader canonical) 0 (.string text) := by
  intro depth rest _ _
  rw [chars, stringReader, anyString_stringChars]
  simp only [ok_bind, canonic, String.ofList_toList]
  rfl

theorem present_string (text : String) : Present (.string text) :=
  ⟨'"', _, rfl, rfl, by decide⟩

theorem present_object (members : List (String × Document)) : Present (.object members) :=
  ⟨'\x7b', _, by rw [chars]; rfl, rfl, by decide⟩

/-- A value that may be absent is read back, whether it is absent or not. -/
theorem restored_option
    {reader : Reader}
    {levels : Nat}
    {inner : α -> Document}
    (value : Option α)
    (restored : forall value, Restored reader levels (inner value))
    (present : forall value, Present (inner value)) :
    Restored (optionReader reader) levels (ofOption inner value) := by
  intro depth rest deep ends
  cases value with
  | none => rfl
  | some value =>
      have read := restored value depth rest deep ends
      obtain ⟨first, others, same, solid, other⟩ := present value
      simp only [ofOption]
      rw [same, List.cons_append] at read ⊢
      unfold optionReader
      rw [skipSpace_cons solid]
      split
      · next behind begins => exact absurd (List.cons.inj begins).1 other
      · exact read

end Document
end LatencyMeter

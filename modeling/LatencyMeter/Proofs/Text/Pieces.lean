/-!
# Taking texts apart

Programs that read lines of named values take them apart without knowing what is in them: a
text at its newlines, a line at each comma with a space behind it, and a piece of a line at its
first equals sign. Each of these undoes the putting together of parts in which what it looks
for does not occur.
-/

namespace LatencyMeter
namespace Text

/-! ## Lines -/

/-- The lines of a text, without the newlines that end them. -/
def lines (text : List Char) : List (List Char) :=
  (text.splitOn '\n').dropLast

/-- Lines with a newline behind each of them are the lines of the whole. -/
theorem splitOn_terminated
    {parts : List (List Char)}
    (unbroken : forall part, part ∈ parts -> '\n' ∉ part) :
    (parts.flatMap (· ++ ['\n'])).splitOn '\n' = parts ++ [[]] := by
  induction parts with
  | nil => rfl
  | cons first rest hypothesis =>
      obtain ⟨unbrokenFirst, unbrokenRest⟩ := List.forall_mem_cons.mp unbroken
      rw [List.flatMap_cons, List.append_assoc, List.singleton_append,
        List.splitOn_append_cons_self_of_not_mem unbrokenFirst, hypothesis unbrokenRest,
        List.cons_append]

theorem lines_terminated
    {parts : List (List Char)}
    (unbroken : forall part, part ∈ parts -> '\n' ∉ part) :
    lines (parts.flatMap (· ++ ['\n'])) = parts := by
  rw [lines, splitOn_terminated unbroken, List.dropLast_concat]

/-! ## Pieces -/

/-- What stands between the separators of a line, each a comma with a space behind it. -/
def pieces : List Char -> List (List Char)
  | [] => [[]]
  | ',' :: ' ' :: rest => [] :: pieces rest
  | first :: rest => (pieces rest).modifyHead (first :: ·)

/-- What puts pieces together. -/
def separator : List Char := [',', ' ']

/-- A character is no separator if no space follows it. -/
theorem pieces_cons
    {first : Char}
    {rest : List Char}
    (follows : forall others, rest ≠ ' ' :: others) :
    pieces (first :: rest) = (pieces rest).modifyHead (first :: ·) := by
  rw [pieces]
  intro others _ spaced
  exact follows others spaced

theorem pieces_of_no_space
    {piece : List Char}
    (noSpace : ' ' ∉ piece) :
    pieces piece = [piece] := by
  induction piece with
  | nil => rfl
  | cons first rest hypothesis =>
      have restNoSpace : ' ' ∉ rest := List.not_mem_of_not_mem_cons noSpace
      rw [pieces_cons, hypothesis restNoSpace, List.modifyHead_cons]
      rintro others rfl
      exact restNoSpace List.mem_cons_self

/-- A piece without spaces ends at the first separator behind it. -/
theorem pieces_append
    {piece : List Char}
    (noSpace : ' ' ∉ piece)
    (rest : List Char) :
    pieces (piece ++ separator ++ rest) = piece :: pieces rest := by
  induction piece with
  | nil => rfl
  | cons first others hypothesis =>
      have othersNoSpace : ' ' ∉ others := List.not_mem_of_not_mem_cons noSpace
      rw [List.cons_append, List.cons_append, pieces_cons, hypothesis othersNoSpace,
        List.modifyHead_cons]
      rintro more spaced
      cases others with
      | nil => exact absurd (List.cons.inj spaced).1 (by decide)
      | cons second _ =>
          obtain ⟨rfl, _⟩ := List.cons.inj spaced
          exact othersNoSpace List.mem_cons_self

/-- Pieces without spaces that are put together are the pieces of the whole. -/
theorem pieces_intercalate
    {parts : List (List Char)}
    (nonempty : parts ≠ [])
    (noSpace : forall part, part ∈ parts -> ' ' ∉ part) :
    pieces (separator.intercalate parts) = parts := by
  induction parts with
  | nil => exact absurd rfl nonempty
  | cons first rest hypothesis =>
      obtain ⟨firstNoSpace, restNoSpace⟩ := List.forall_mem_cons.mp noSpace
      cases rest with
      | nil => rw [List.intercalate_singleton, pieces_of_no_space firstNoSpace]
      | cons second others =>
          rw [List.intercalate_cons_cons, pieces_append firstNoSpace,
            hypothesis (List.cons_ne_nil _ _) restNoSpace]

/-- Pieces without spaces, each with a separator behind it, are the first pieces of a text. -/
theorem pieces_terminated
    {parts : List (List Char)}
    (noSpace : forall part, part ∈ parts -> ' ' ∉ part)
    (rest : List Char) :
    pieces (parts.flatMap (· ++ separator) ++ rest) = parts ++ pieces rest := by
  induction parts with
  | nil => rfl
  | cons first others hypothesis =>
      obtain ⟨firstNoSpace, othersNoSpace⟩ := List.forall_mem_cons.mp noSpace
      rw [List.flatMap_cons, List.append_assoc, pieces_append firstNoSpace,
        hypothesis othersNoSpace, List.cons_append]

/-- Nothing comes in between pieces but separators. -/
theorem not_mem_intercalate
    {character : Char}
    {parts : List (List Char)}
    (other : character ∉ separator)
    (absent : forall part, part ∈ parts -> character ∉ part) :
    character ∉ separator.intercalate parts := by
  induction parts with
  | nil => simp
  | cons first rest hypothesis =>
      obtain ⟨absentFirst, absentRest⟩ := List.forall_mem_cons.mp absent
      cases rest with
      | nil => rwa [List.intercalate_singleton]
      | cons second others =>
          rw [List.intercalate_cons_cons]
          simp [absentFirst, other, hypothesis absentRest]

/-! ## Named values -/

/-- What stands before the first equals sign of a piece and what stands behind it. -/
def divide (piece : List Char) : List Char × List Char :=
  (piece.takeWhile (· != '='), (piece.dropWhile (· != '=')).tail)

/-- A name without an equals sign ends at the first one. -/
theorem divide_append
    {name : List Char}
    (noSign : '=' ∉ name)
    (value : List Char) :
    divide (name ++ '=' :: value) = (name, value) := by
  have other : forall character, character ∈ name -> (character != '=') = true := by
    intro character member
    rw [bne_iff_ne]
    rintro rfl
    exact noSign member
  rw [divide, List.takeWhile_append_of_pos other, List.dropWhile_append_of_pos other]
  simp

end Text
end LatencyMeter

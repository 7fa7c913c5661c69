import LatencyMeter.Text.Blank
import Mathlib.Data.List.DropRight
import Mathlib.Data.List.TakeWhile

/-!
# Trimming texts

Trimming takes the longest run of blanks off each end of a text. Blanks that are added at the
ends change nothing, a text without blanks is left alone, and the two ends are trimmed
independently: what stands before a solid character is trimmed at its front only, and what
stands behind it at its back only.
-/

namespace LatencyMeter
namespace Text

/-- A text that consists of blanks. -/
def AllBlank (text : List Char) : Prop :=
  forall character, character ∈ text -> isBlank character = true

/-- A text without blanks. -/
def NoBlank (text : List Char) : Prop :=
  forall character, character ∈ text -> isBlank character = false

variable {front text back : List Char}

theorem allBlank_nil : AllBlank [] := List.forall_mem_nil _

@[simp] theorem noBlank_nil : NoBlank [] := List.forall_mem_nil _

@[simp] theorem noBlank_cons (first : Char) (rest : List Char) :
    NoBlank (first :: rest) ↔ isBlank first = false ∧ NoBlank rest :=
  List.forall_mem_cons

@[simp] theorem noBlank_append (front back : List Char) :
    NoBlank (front ++ back) ↔ NoBlank front ∧ NoBlank back :=
  List.forall_mem_append

theorem trimStart_append_of_allBlank (blank : AllBlank front) (text : List Char) :
    trimStart (front ++ text) = trimStart text :=
  List.dropWhile_append_of_pos blank

theorem trimEnd_append_of_allBlank (blank : AllBlank back) (text : List Char) :
    trimEnd (text ++ back) = trimEnd text := by
  unfold trimEnd
  rw [List.reverse_append, List.dropWhile_append_of_pos fun character member =>
    blank character (List.mem_reverse.mp member)]

theorem trimStart_eq_nil (blank : AllBlank text) : trimStart text = [] := by
  simpa using trimStart_append_of_allBlank blank []

/-- A solid character ends the trimming of the front. -/
theorem trimStart_append_cons
    {solid : Char}
    (notBlank : isBlank solid = false)
    (before behind : List Char) :
    trimStart (before ++ solid :: behind) = trimStart before ++ solid :: behind := by
  induction before with
  | nil => exact trimStart_cons_of_not_blank notBlank
  | cons first rest hypothesis =>
      rw [List.cons_append]
      cases blank : isBlank first with
      | true =>
          rw [trimStart_cons_of_blank blank, trimStart_cons_of_blank blank, hypothesis]
      | false =>
          rw [trimStart_cons_of_not_blank blank, trimStart_cons_of_not_blank blank,
            List.cons_append]

/-- A solid character ends the trimming of the back. -/
theorem trimEnd_append_cons
    {solid : Char}
    (notBlank : isBlank solid = false)
    (before behind : List Char) :
    trimEnd (before ++ solid :: behind) = before ++ solid :: trimEnd behind := by
  have mirrored := trimStart_append_cons notBlank behind.reverse before.reverse
  unfold trimEnd
  unfold trimStart at mirrored
  rw [List.reverse_append, List.reverse_cons, List.append_assoc, List.singleton_append,
    mirrored]
  simp

/-- A text is blanks and nothing else, or a solid character comes first behind its blanks. -/
theorem allBlank_or_exists_solid (text : List Char) :
    AllBlank text ∨
      exists front solid rest,
        text = front ++ solid :: rest ∧ AllBlank front ∧ isBlank solid = false := by
  induction text with
  | nil => exact .inl fun character member => absurd member List.not_mem_nil
  | cons first rest hypothesis =>
      cases blank : isBlank first with
      | false => exact .inr ⟨[], first, rest, rfl, allBlank_nil, blank⟩
      | true =>
          rcases hypothesis with all | ⟨front, solid, more, rfl, all, notBlank⟩
          · exact .inl (List.forall_mem_cons.mpr ⟨blank, all⟩)
          · exact .inr ⟨first :: front, solid, more, rfl,
              List.forall_mem_cons.mpr ⟨blank, all⟩, notBlank⟩

/-- The two ends are trimmed in any order. -/
theorem trimStart_trimEnd (text : List Char) :
    trimStart (trimEnd text) = trimEnd (trimStart text) := by
  rcases allBlank_or_exists_solid text with blank | ⟨front, solid, rest, rfl, blank, notBlank⟩
  · have nothing : trimEnd text = [] := trimEnd_append_of_allBlank blank []
    rw [nothing, trimStart_eq_nil blank]
    rfl
  · rw [trimEnd_append_cons notBlank, trimStart_append_of_allBlank blank,
      trimStart_append_of_allBlank blank, trimStart_cons_of_not_blank notBlank,
      trimStart_cons_of_not_blank notBlank]
    exact (trimEnd_append_cons notBlank [] rest).symm

@[simp] theorem trim_trimStart (text : List Char) : trim (trimStart text) = trim text := by
  unfold trim trimStart
  rw [List.dropWhile_idempotent]

@[simp] theorem trim_trimEnd (text : List Char) : trim (trimEnd text) = trim text := by
  unfold trim
  rw [trimStart_trimEnd]
  exact List.rdropWhile_idempotent isBlank (trimStart text)

/-- Blanks around a text change nothing. -/
theorem trim_between
    (blankFront : AllBlank front)
    (blankBack : AllBlank back)
    (text : List Char) :
    trim (front ++ text ++ back) = trim text := by
  rw [← trim_trimEnd, trimEnd_append_of_allBlank blankBack, trim_trimEnd]
  unfold trim
  rw [trimStart_append_of_allBlank blankFront]

theorem trim_eq_self (solid : NoBlank text) : trim text = text := by
  have front : trimStart text = text := by
    unfold trimStart
    rw [List.dropWhile_eq_self_iff]
    intro nonempty
    simp [solid _ (List.getElem_mem nonempty)]
  unfold trim
  rw [front]
  refine (List.rdropWhile_eq_self_iff).mpr fun nonempty => ?_
  simp [solid _ (List.getLast_mem nonempty)]

/-- A text with solid characters at both ends is left alone. -/
theorem trim_between_solids
    {first last : Char}
    (solidFirst : isBlank first = false)
    (solidLast : isBlank last = false)
    (middle : List Char) :
    trim (first :: middle ++ [last]) = first :: middle ++ [last] := by
  unfold trim
  rw [List.cons_append, trimStart_cons_of_not_blank solidFirst, ← List.cons_append]
  exact trimEnd_append_cons solidLast (first :: middle) []

/-- Nothing is left of a text exactly if it is blanks and nothing else. -/
theorem trim_eq_nil_iff (text : List Char) : trim text = [] ↔ AllBlank text := by
  constructor
  · intro nothing
    rcases allBlank_or_exists_solid text with blank | ⟨front, solid, rest, rfl, blank, notBlank⟩
    · exact blank
    · unfold trim at nothing
      rw [trimStart_append_of_allBlank blank, trimStart_cons_of_not_blank notBlank] at nothing
      have kept : trimEnd (solid :: rest) = solid :: trimEnd rest :=
        trimEnd_append_cons notBlank [] rest
      rw [kept] at nothing
      contradiction
  · intro blank
    unfold trim
    rw [trimStart_eq_nil blank]
    rfl

/-- A text is its trimmed form with blanks around it. -/
theorem exists_trim (text : List Char) :
    exists front back,
      text = front ++ trim text ++ back ∧ AllBlank front ∧ AllBlank back := by
  refine ⟨text.takeWhile isBlank, (trimStart text).rtakeWhile isBlank, ?_, ?_, ?_⟩
  · have back : trim text ++ (trimStart text).rtakeWhile isBlank = trimStart text :=
      List.rdropWhile_append_rtakeWhile
    rw [List.append_assoc, back]
    exact List.takeWhile_append_dropWhile.symm
  · exact fun character member => List.mem_takeWhile_imp member
  · exact fun character member => List.mem_rtakeWhile_imp member

end Text
end LatencyMeter

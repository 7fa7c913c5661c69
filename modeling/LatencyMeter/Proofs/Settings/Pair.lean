import LatencyMeter.Settings.Pair
import LatencyMeter.Proofs.Decimal.Natural
import LatencyMeter.Proofs.Text.Blank
import LatencyMeter.Proofs.Text.Respelling

/-!
# Which texts spell a pair of numbers

A histogram geometry and a warmup have one grammar: two words with a comma between them, each
with an optional plus sign and with blanks around it. Both readers accept exactly the texts of
this grammar, with the pair that the text spells, and refuse every other text with that text in
the fault. What is written for a pair is one of its spellings.
-/

namespace LatencyMeter
namespace Pair

/-- The spelling of one word: digits that denote it, with an optional plus sign in front of
them and with blanks around. -/
inductive SpellsWord (text : List Char) (word : UInt64) : Prop
  | intro
      (front sign digits back : List Char)
      (text_eq : text = front ++ (sign ++ digits) ++ back)
      (blankFront : Text.AllBlank front)
      (signed : sign = [] ∨ sign = ['+'])
      (denotes : Decimal.Denotes digits word.toNat)
      (blankBack : Text.AllBlank back)

/-- The spelling of a pair: the spellings of its words with a comma between them. -/
inductive Spells (text : List Char) (pair : UInt64 × UInt64) : Prop
  | intro
      (before behind : List Char)
      (text_eq : text = before ++ ',' :: behind)
      (first : SpellsWord before pair.1)
      (second : SpellsWord behind pair.2)

/-! ## Words -/

/-- A sign and digits have no blanks among them, and no comma. -/
theorem solid_of_denotes
    {sign digits : List Char}
    {value : Nat}
    (signed : sign = [] ∨ sign = ['+'])
    (denotes : Decimal.Denotes digits value) :
    forall character, character ∈ sign ++ digits ->
      Text.isBlank character = false ∧ character ≠ ',' := by
  intro character member
  rcases List.mem_append.mp member with inSign | inDigits
  · rcases signed with rfl | rfl
    · exact absurd inSign List.not_mem_nil
    · obtain rfl := List.mem_singleton.mp inSign
      decide
  · have isDigit := denotes.isDigit character inDigits
    rw [Char.isDigit_iff_toNat] at isDigit
    obtain ⟨least, greatest⟩ := isDigit
    have zero : '0'.toNat = 48 := rfl
    have nine : '9'.toNat = 57 := rfl
    constructor
    · simp only [Text.isBlank, Bool.or_eq_false_iff, Bool.and_eq_false_iff, beq_eq_false_iff_ne,
        decide_eq_false_iff_not]
      omega
    · rintro rfl
      revert least
      decide

/-- No word is spelled with a comma. -/
theorem SpellsWord.no_comma
    {text : List Char}
    {word : UInt64}
    (spells : SpellsWord text word) :
    ',' ∉ text := by
  obtain ⟨front, sign, digits, back, rfl, blankFront, signed, denotes, blankBack⟩ := spells
  have solid : Text.isBlank ',' = false := by decide
  intro member
  rw [List.mem_append, List.mem_append] at member
  rcases member with (inFront | inside) | inBack
  · exact absurd (blankFront _ inFront) (by simp [solid])
  · exact (solid_of_denotes signed denotes _ inside).2 rfl
  · exact absurd (blankBack _ inBack) (by simp [solid])

/-- A word is read exactly from its spellings. -/
theorem word?_eq_some_iff (text : List Char) (word : UInt64) :
    word? text = some word ↔ SpellsWord text word := by
  have trimmed : word? text = some word ↔
      Decimal.natural? Word.limit (Text.trim text) = .ok word.toNat := by
    unfold word?
    split
    · next value read =>
      have within := ((Decimal.natural?_eq_ok_iff _ _ _).mp read).1
      rw [read, Option.some.injEq, Except.ok.injEq]
      constructor
      · rintro rfl
        exact (UInt64.toNat_ofNat_of_lt' (Nat.lt_succ_of_le within)).symm
      · rintro rfl
        exact UInt64.ofNat_toNat
    · next fault read => simp [read]
  rw [trimmed, Decimal.natural?_eq_ok_iff]
  constructor
  · rintro ⟨_, sign, digits, same, signed, denotes⟩
    obtain ⟨front, back, around, blankFront, blankBack⟩ := Text.exists_trim text
    rw [same] at around
    exact ⟨front, sign, digits, back, around, blankFront, signed, denotes, blankBack⟩
  · rintro ⟨front, sign, digits, back, rfl, blankFront, signed, denotes, blankBack⟩
    refine ⟨Nat.le_of_lt_succ word.toNat_lt, sign, digits, ?_, signed, denotes⟩
    rw [Text.trim_between blankFront blankBack]
    exact Text.trim_eq_self fun character member =>
      (solid_of_denotes signed denotes character member).1

/-- Only the trimmed form of a text matters when a word is read. -/
theorem word?_congr
    {text other : List Char}
    (same : Text.trim text = Text.trim other) :
    word? text = word? other := by
  unfold word?
  rw [same]

/-! ## Commas -/

/-- A text is divided at its first comma. -/
theorem splitComma_eq_some_iff (text before behind : List Char) :
    splitComma text = some (before, behind) ↔
      text = before ++ ',' :: behind ∧ ',' ∉ before := by
  induction text generalizing before with
  | nil => simp [splitComma]
  | cons first rest hypothesis =>
      by_cases comma : first = ','
      · subst comma
        rw [splitComma, Option.some.injEq, Prod.mk.injEq]
        constructor
        · rintro ⟨rfl, rfl⟩
          exact ⟨rfl, List.not_mem_nil⟩
        · rintro ⟨same, none⟩
          cases before with
          | nil => exact ⟨rfl, (List.cons.inj same).2⟩
          | cons head tail => exact absurd (List.cons.inj same).1 (by rintro rfl; simp at none)
      · rw [splitComma.eq_3 _ _ comma, Option.map_eq_some_iff]
        constructor
        · rintro ⟨⟨head, tail⟩, divided, same⟩
          obtain ⟨rfl, rfl⟩ := Prod.mk.inj same
          obtain ⟨rfl, none⟩ := (hypothesis head).mp divided
          exact ⟨rfl, by simp [Ne.symm comma, none]⟩
        · rintro ⟨same, none⟩
          cases before with
          | nil => exact absurd (List.cons.inj same).1 comma
          | cons head tail =>
              obtain ⟨rfl, rfl⟩ := List.cons.inj same
              exact ⟨(tail, behind),
                (hypothesis tail).mpr ⟨rfl, fun member => none (List.mem_cons_of_mem _ member)⟩,
                rfl⟩

/-! ## Pairs -/

/-- A pair is read exactly from its spellings. Trimming it as a whole changes nothing, because
its words are trimmed anyway. -/
theorem parse?_eq_some_iff (text : List Char) (pair : UInt64 × UInt64) :
    parse? text = some pair ↔ Spells text pair := by
  have solid : Text.isBlank ',' = false := by decide
  have divided : parse? text = some pair ↔
      exists before behind,
        splitComma (Text.trim text) = some (before, behind) ∧
          word? before = some pair.1 ∧ word? behind = some pair.2 := by
    simp [parse?, Option.bind_eq_some_iff, Prod.ext_iff]
  rw [divided]
  constructor
  · rintro ⟨before, behind, split, first, second⟩
    obtain ⟨front, back, around, blankFront, blankBack⟩ := Text.exists_trim text
    obtain ⟨same, _⟩ := (splitComma_eq_some_iff _ _ _).mp split
    refine ⟨front ++ before, behind ++ back, ?_, ?_, ?_⟩
    · rw [around, same]
      simp
    · rw [← word?_eq_some_iff, ← first]
      refine word?_congr ?_
      simpa using Text.trim_between blankFront Text.allBlank_nil before
    · rw [← word?_eq_some_iff, ← second]
      refine word?_congr ?_
      simpa using Text.trim_between Text.allBlank_nil blankBack behind
  · rintro ⟨before, behind, rfl, first, second⟩
    have trimmed : Text.trim (before ++ ',' :: behind) =
        Text.trimStart before ++ ',' :: Text.trimEnd behind := by
      rw [Text.trim, Text.trimStart_append_cons solid, Text.trimEnd_append_cons solid]
    have noComma : ',' ∉ Text.trimStart before := fun member =>
      first.no_comma ((List.dropWhile_suffix _).mem member)
    refine ⟨Text.trimStart before, Text.trimEnd behind, ?_, ?_, ?_⟩
    · rw [trimmed]
      exact (splitComma_eq_some_iff _ _ _).mpr ⟨rfl, noComma⟩
    · rw [word?_congr (Text.trim_trimStart before)]
      exact (word?_eq_some_iff _ _).mpr first
    · rw [word?_congr (Text.trim_trimEnd behind)]
      exact (word?_eq_some_iff _ _).mpr second

/-- The digits of a word spell it. -/
theorem spellsWord_text (word : UInt64) : SpellsWord (wordText word).toList word := by
  refine ⟨[], [], Nat.toDigits 10 word.toNat, [], ?_, by simp [Text.AllBlank], .inl rfl,
    Decimal.denotes_toDigits _, by simp [Text.AllBlank]⟩
  simp [wordText]

/-- Two words written in decimal with a comma between them spell the pair of them. -/
theorem spells_text (first second : UInt64) :
    Spells (wordText first ++ "," ++ wordText second).toList (first, second) := by
  refine ⟨(wordText first).toList, (wordText second).toList, ?_, spellsWord_text first,
    spellsWord_text second⟩
  simp

theorem parse?_eq_none_iff (text : List Char) :
    parse? text = none ↔ forall pair, ¬ Spells text pair := by
  rw [Option.eq_none_iff_forall_ne_some]
  simp only [ne_eq, parse?_eq_some_iff]

/-! ## The two readers -/

section Readers

variable (text : String) (first second : UInt64)

theorem geometry_parse_eq_ok_iff :
    Geometry.parse text = .ok ⟨first, second⟩ ↔ Spells text.toList (first, second) := by
  rw [← parse?_eq_some_iff, Geometry.parse]
  cases parse? text.toList <;> simp [Prod.ext_iff]

theorem geometry_parse_eq_error_iff :
    Geometry.parse text = .error (.malformed text "num_buckets,ns_per_bucket") ↔
      forall pair, ¬ Spells text.toList pair := by
  rw [← parse?_eq_none_iff, Geometry.parse]
  cases parse? text.toList <;> simp

theorem warmup_parse_eq_ok_iff :
    Warmup.parse text = .ok ⟨first, second⟩ ↔ Spells text.toList (first, second) := by
  rw [← parse?_eq_some_iff, Warmup.parse]
  cases parse? text.toList <;> simp [Prod.ext_iff]

theorem warmup_parse_eq_error_iff :
    Warmup.parse text = .error (.malformed text "loops,rate") ↔
      forall pair, ¬ Spells text.toList pair := by
  rw [← parse?_eq_none_iff, Warmup.parse]
  cases parse? text.toList <;> simp

theorem restores_geometry : Restores Geometry.parse Geometry.text := fun _ =>
  (geometry_parse_eq_ok_iff _ _ _).mpr (spells_text _ _)

theorem restores_warmup : Restores Warmup.parse Warmup.text := fun _ =>
  (warmup_parse_eq_ok_iff _ _ _).mpr (spells_text _ _)

/-- The reader of geometries and the reader of warmups accept the same texts, those that spell
a pair of words, and each yields the pair that is spelled. Any other text is refused with the
text itself in the fault. What is written for a pair is read as that pair, so writing what was
read and reading it again changes nothing. -/
theorem readers_share_one_grammar :
    (Geometry.parse text = .ok ⟨first, second⟩ ↔ Spells text.toList (first, second)) ∧
      (Warmup.parse text = .ok ⟨first, second⟩ ↔ Spells text.toList (first, second)) ∧
      (Geometry.parse text = .error (.malformed text "num_buckets,ns_per_bucket") ↔
        forall pair, ¬ Spells text.toList pair) ∧
      (Warmup.parse text = .error (.malformed text "loops,rate") ↔
        forall pair, ¬ Spells text.toList pair) ∧
      Geometry.parse (Geometry.text ⟨first, second⟩) = .ok ⟨first, second⟩ ∧
      Warmup.parse (Warmup.text ⟨first, second⟩) = .ok ⟨first, second⟩ ∧
      (respell Geometry.parse Geometry.text text >>= Geometry.parse) = Geometry.parse text ∧
      (respell Warmup.parse Warmup.text text >>= Warmup.parse) = Warmup.parse text :=
  ⟨geometry_parse_eq_ok_iff text first second, warmup_parse_eq_ok_iff text first second,
    geometry_parse_eq_error_iff text, warmup_parse_eq_error_iff text,
    restores_geometry _, restores_warmup _,
    restores_geometry.read_respell text, restores_warmup.read_respell text⟩

/-- Blanks of any kind, a plus sign and zeros in front do not matter, a third number does. -/
example : Spells "\u3000+007 ,\t0\n".toList (7, 0) := by
  refine (parse?_eq_some_iff _ _).mp ?_
  decide +kernel

example (pair : UInt64 × UInt64) : ¬ Spells "1,2,3".toList pair := by
  refine (parse?_eq_none_iff _).mp ?_ pair
  decide +kernel

end Readers
end Pair
end LatencyMeter

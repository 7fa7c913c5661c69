import LatencyMeter.Proofs.Settings.Pair
import LatencyMeter.Proofs.Text.Pieces
import LatencyMeter.Report

/-!
# Reading named values from a line

A line of named values is read without knowing what is in it: it is taken apart into pieces, and
each piece into a name and a value. This gives back the named values that were written, because
there are no blanks in them and no equals signs in the names. A value that may be unavailable is
a word or the text that stands for none, which no word has.
-/

namespace LatencyMeter
namespace Report

/-- The named values of a line. -/
def fields (line : List Char) : List Field :=
  (Text.pieces line).map fun piece =>
    (String.ofList (Text.divide piece).1, String.ofList (Text.divide piece).2)

/-- The text of a named value. -/
def spelled (field : Field) : List Char := field.1.toList ++ '=' :: field.2.toList

/-- The text of a line of named values. -/
def spelledAll (given : List Field) : List Char :=
  Text.separator.intercalate (given.map spelled)

/-- A name without blanks and equals signs. -/
def isName (name : String) : Bool :=
  name.toList.all fun character => !Text.isBlank character && character != '='

/-- A named value that can be told from others on its line. -/
structure Clean (field : Field) : Prop where
  name : isName field.1 = true
  value : Text.NoBlank field.2.toList

/-! ## Lines of named values -/

theorem clean
    {name value : String}
    (named : isName name = true)
    (noBlank : Text.NoBlank value.toList) :
    Clean (name, value) :=
  ⟨named, noBlank⟩

theorem noBlank_of_isName
    {name : String}
    (named : isName name = true) :
    Text.NoBlank name.toList ∧ '=' ∉ name.toList := by
  simp only [isName, List.all_eq_true, Bool.and_eq_true, Bool.not_eq_true', bne_iff_ne] at named
  exact ⟨fun character member => (named character member).1,
    fun member => (named '=' member).2 rfl⟩

/-- There is no blank in a named value. -/
theorem Clean.noBlank
    {field : Field}
    (clean : Clean field) :
    Text.NoBlank (spelled field) := by
  rw [spelled, Text.noBlank_append, Text.noBlank_cons]
  exact ⟨(noBlank_of_isName clean.name).1, by decide, clean.value⟩

theorem not_mem_of_noBlank
    {text : List Char}
    {character : Char}
    (noBlank : Text.NoBlank text)
    (blank : Text.isBlank character = true) :
    character ∉ text := by
  intro member
  rw [noBlank character member] at blank
  contradiction

/-- The text of a clean named value is divided where its name ends. -/
theorem Clean.divide
    {field : Field}
    (clean : Clean field) :
    Text.divide (spelled field) = (field.1.toList, field.2.toList) :=
  Text.divide_append (noBlank_of_isName clean.name).2 _

/-- Named values are read back from their texts, if the texts are divided in the right place. -/
theorem map_divide_spelled
    {given : List Field}
    (divided : forall field, field ∈ given ->
      Text.divide (spelled field) = (field.1.toList, field.2.toList)) :
    (given.map spelled).map
        (fun piece =>
          (String.ofList (Text.divide piece).1, String.ofList (Text.divide piece).2)) =
      given := by
  rw [List.map_map]
  refine (List.map_congr_left ?_).trans (List.map_id given)
  intro field member
  rw [Function.comp_apply, divided field member]
  simp

/-- The named values that a line was written with are read from it. -/
theorem fields_spelledAll
    {given : List Field}
    (nonempty : given ≠ [])
    (clean : forall field, field ∈ given -> Clean field) :
    fields (spelledAll given) = given := by
  have pieces : Text.pieces (spelledAll given) = given.map spelled := by
    refine Text.pieces_intercalate (by simpa using nonempty) ?_
    intro piece member
    obtain ⟨field, listed, rfl⟩ := List.mem_map.mp member
    exact not_mem_of_noBlank (clean field listed).noBlank (by decide)
  rw [fields, pieces]
  exact map_divide_spelled fun field member => (clean field member).divide

/-- A line of named values is one line. -/
theorem newline_not_mem_spelledAll
    {given : List Field}
    (clean : forall field, field ∈ given -> Clean field) :
    '\n' ∉ spelledAll given := by
  refine Text.not_mem_intercalate (by decide) ?_
  intro piece member
  obtain ⟨field, listed, rfl⟩ := List.mem_map.mp member
  exact not_mem_of_noBlank (clean field listed).noBlank (by decide)

/-! ## Values -/

/-- A value that is a word. -/
def word? (value : String) : Option UInt64 := Pair.word? value.toList

/-- A value that is a word or unavailable. -/
def optional? (value : String) : Option (Option UInt64) :=
  if value = "-1" then some none else (word? value).map some

@[simp] theorem word?_wordText (word : UInt64) : word? (wordText word) = some word :=
  (Pair.word?_eq_some_iff _ _).mpr (Pair.spellsWord_text word)

theorem wordText_ne_unavailable (word : UInt64) : wordText word ≠ "-1" := by
  intro same
  have read := word?_wordText word
  rw [same] at read
  revert read
  have unread : word? "-1" = none := by decide +kernel
  simp [unread]

/-- Only a value that is unavailable has the text that stands for it. -/
theorem orUnavailable_eq_iff (value : Option UInt64) :
    orUnavailable value = "-1" ↔ value = none := by
  cases value with
  | none => simp [orUnavailable]
  | some word => simp [orUnavailable, wordText_ne_unavailable]

@[simp] theorem optional?_orUnavailable (value : Option UInt64) :
    optional? (orUnavailable value) = some value := by
  unfold optional?
  cases value with
  | none => rfl
  | some word =>
      rw [orUnavailable, if_neg (wordText_ne_unavailable word), word?_wordText, Option.map_some]

theorem noBlank_wordText (word : UInt64) : Text.NoBlank (wordText word).toList := by
  rw [wordText, String.toList_ofList]
  exact fun character member =>
    (Pair.solid_of_denotes (.inl rfl) (Decimal.denotes_toDigits word.toNat) character member).1

theorem noBlank_orUnavailable (value : Option UInt64) :
    Text.NoBlank (orUnavailable value).toList := by
  cases value with
  | none => exact (noBlank_of_isName (by decide)).1
  | some word => exact noBlank_wordText word

theorem noBlank_geometry (geometry : Geometry) : Text.NoBlank geometry.text.toList := by
  rw [Geometry.text, String.toList_append, String.toList_append]
  rw [Text.noBlank_append, Text.noBlank_append]
  exact ⟨⟨noBlank_wordText _, (noBlank_of_isName (by decide)).1⟩, noBlank_wordText _⟩

end Report
end LatencyMeter

import LatencyMeter.Proofs.Histogram.Samples
import LatencyMeter.Proofs.Report.Fields

/-!
# Reading the report of a histogram

The report of a histogram has one line for each bucket and three lines of named values. A reader
that knows nothing but the labels gets from it every figure that was written: the bucket counts
by the places of their lines, all others by their labels. So the report of a histogram says
exactly what its figures are, and it is as consistent as the histogram is.
-/

namespace LatencyMeter
namespace Report

/-- The labels of the percentiles. -/
def percentLabels : List String := ["90", "99", "99.9", "99.99", "99.999"]

/-- The figures that a report gives of a histogram. -/
structure Figures where
  counts : List UInt64
  geometry : Geometry
  overflows : UInt64
  least : Option UInt64
  greatest : Option UInt64
  count : UInt64
  mean : Option UInt64
  percentiles : List (Option UInt64)
  deriving DecidableEq

namespace Figures

/-- The figures of a histogram. -/
def of (histogram : Histogram) : Figures where
  counts := histogram.buckets.toList
  geometry := histogram.geometry
  overflows := histogram.summary.overflows
  least := histogram.summary.least
  greatest := histogram.summary.greatest
  count := histogram.summary.count
  mean := histogram.summary.mean
  percentiles := histogram.summary.percentiles.map Percentile.value

/-- The figures that may be unavailable, with their labels. -/
def optionals (figures : Figures) : List (String × Option UInt64) :=
  [ ("hist_min_sample", figures.least),
    ("hist_max_sample", figures.greatest),
    ("average_sample", figures.mean) ] ++ percentLabels.zip figures.percentiles

/-! ## Writing -/

/-- The named values on the whole histogram. -/
def wholeFields (figures : Figures) : List Field :=
  [ ("o_histogram", figures.geometry.text),
    ("hist_overflows", wordText figures.overflows),
    ("hist_min_sample", orUnavailable figures.least),
    ("hist_max_sample", orUnavailable figures.greatest) ]

/-- The named values on the samples. -/
def sampleFields (figures : Figures) : List Field :=
  [ ("hist_num_samples", wordText figures.count),
    ("average_sample", orUnavailable figures.mean) ]

/-- The percentiles as named values. -/
def percentileFields (figures : Figures) : List Field :=
  percentLabels.zip (figures.percentiles.map orUnavailable)

/-- What stands before the percentiles on their line. -/
def heading : List Char := "Percentiles: ".toList

/-- The lines of a report with some figures. -/
def lines (figures : Figures) : List (List Char) :=
  figures.counts.map (fun count => (wordText count).toList) ++
    [ spelledAll figures.wholeFields ++ [','],
      spelledAll figures.sampleFields ++ [','],
      heading ++ spelledAll figures.percentileFields ]

theorem map_percentText : Histogram.reportPercents.map percentText = percentLabels := by
  decide +kernel

theorem percentileFields_of (histogram : Histogram) :
    (of histogram).percentileFields =
      histogram.summary.percentiles.map fun percentile =>
        (percentText percentile.percent, orUnavailable percentile.value) := by
  rw [percentileFields, ← map_percentText]
  simp only [of, Histogram.summary, List.map_map]
  exact List.zip_map' ..

theorem wholeLine_eq (histogram : Histogram) :
    ("o_histogram=" ++ histogram.geometry.text ++
      ", hist_overflows=" ++ wordText histogram.summary.overflows ++
      ", hist_min_sample=" ++ orUnavailable histogram.summary.least ++
      ", hist_max_sample=" ++ orUnavailable histogram.summary.greatest ++ ",\n").toList =
      spelledAll (of histogram).wholeFields ++ [','] ++ ['\n'] := by
  simp [spelledAll, spelled, wholeFields, of, Text.separator]

theorem sampleLine_eq (histogram : Histogram) :
    ("hist_num_samples=" ++ wordText histogram.summary.count ++
      ", average_sample=" ++ orUnavailable histogram.summary.mean ++ ",\n").toList =
      spelledAll (of histogram).sampleFields ++ [','] ++ ['\n'] := by
  simp [spelledAll, spelled, sampleFields, of, Text.separator]

theorem percentileLine_eq (histogram : Histogram) :
    ("Percentiles: " ++
      String.intercalate ", "
        (histogram.summary.percentiles.map fun percentile =>
          percentText percentile.percent ++ "=" ++ orUnavailable percentile.value) ++
      "\n").toList =
      heading ++ spelledAll (of histogram).percentileFields ++ ['\n'] := by
  have parts : histogram.summary.percentiles.map (String.toList ∘ fun percentile =>
      percentText percentile.percent ++ "=" ++ orUnavailable percentile.value) =
      (of histogram).percentileFields.map spelled := by
    rw [percentileFields_of, List.map_map]
    apply List.map_congr_left
    intro percentile _
    simp [spelled]
  rw [String.toList_append, String.toList_append, String.toList_intercalate, List.map_map, parts]
  rfl

/-- The report of a histogram has the lines of its figures. -/
theorem toList_histogram (histogram : Histogram) :
    (Report.histogram histogram).toList = (of histogram).lines.flatMap (· ++ ['\n']) := by
  have counts : (bucketLines histogram).flatMap String.toList =
      ((of histogram).counts.map fun count => (wordText count).toList).flatMap
        (· ++ ['\n']) := by
    simp [bucketLines, of, List.flatMap_map]
  rw [Report.histogram, String.toList_join, List.flatMap_append, counts, lines,
    List.flatMap_append, summaryLines]
  simp only [List.flatMap_cons, List.flatMap_nil, wholeLine_eq, sampleLine_eq,
    percentileLine_eq]

/-! ## Lines that can be taken apart -/

section Lines

variable (figures : Figures)

theorem clean_wholeFields : forall field, field ∈ figures.wholeFields -> Clean field := by
  simp only [wholeFields, List.forall_mem_cons, List.not_mem_nil, false_implies, implies_true,
    and_true]
  exact ⟨clean (by decide) (noBlank_geometry _), clean (by decide) (noBlank_wordText _),
    clean (by decide) (noBlank_orUnavailable _), clean (by decide) (noBlank_orUnavailable _)⟩

theorem clean_sampleFields : forall field, field ∈ figures.sampleFields -> Clean field := by
  simp only [sampleFields, List.forall_mem_cons, List.not_mem_nil, false_implies, implies_true,
    and_true]
  exact ⟨clean (by decide) (noBlank_wordText _), clean (by decide) (noBlank_orUnavailable _)⟩

theorem clean_percentileFields :
    forall field, field ∈ figures.percentileFields -> Clean field := by
  intro field member
  obtain ⟨label, value⟩ := List.of_mem_zip member
  have names : percentLabels.all isName = true := by decide
  obtain ⟨percentile, _, same⟩ := List.mem_map.mp value
  exact ⟨List.all_eq_true.mp names _ label, same ▸ noBlank_orUnavailable percentile⟩

/-- There are no newlines but those at the ends of lines. -/
theorem newline_not_mem_lines : forall line, line ∈ figures.lines -> '\n' ∉ line := by
  refine List.forall_mem_append.mpr ⟨?_, ?_⟩
  · intro line member
    obtain ⟨count, _, rfl⟩ := List.mem_map.mp member
    exact not_mem_of_noBlank (noBlank_wordText count) (by decide)
  · simp only [List.forall_mem_cons, List.not_mem_nil, false_implies, implies_true, and_true,
      List.mem_append, not_or]
    exact ⟨⟨newline_not_mem_spelledAll figures.clean_wholeFields, by decide⟩,
      ⟨newline_not_mem_spelledAll figures.clean_sampleFields, by decide⟩,
      ⟨by decide, newline_not_mem_spelledAll figures.clean_percentileFields⟩⟩

end Lines

end Figures

/-! ## Reading -/

/-- The lines of a report with bucket counts on them. -/
def countLines (text : List Char) : List (List Char) :=
  (Text.lines text).take ((Text.lines text).length - 3)

/-- The lines of a report with named values on them. -/
def fieldLines (text : List Char) : List (List Char) :=
  (Text.lines text).drop ((Text.lines text).length - 3)

/-- The named values of a report. The first two lines of them end in a comma, and the third
one has a heading. -/
def summaryFields (text : List Char) : List Field :=
  match fieldLines text with
  | [whole, samples, percentiles] =>
      fields whole.dropLast ++ fields samples.dropLast ++
        fields (percentiles.drop Figures.heading.length)
  | _ => []

/-- The value behind a label of a report. -/
def value? (text : List Char) (label : String) : Option String :=
  (summaryFields text).lookup label

/-- The figures that can be read from a report. -/
def read? (text : List Char) : Option Figures := do
  let counts <- (countLines text).mapM Pair.word?
  let geometry <- value? text "o_histogram"
  let (bucketCount, width) <- Pair.parse? geometry.toList
  let overflows <- value? text "hist_overflows" >>= word?
  let least <- value? text "hist_min_sample" >>= optional?
  let greatest <- value? text "hist_max_sample" >>= optional?
  let count <- value? text "hist_num_samples" >>= word?
  let mean <- value? text "average_sample" >>= optional?
  let percentiles <- percentLabels.mapM fun label => value? text label >>= optional?
  return ⟨counts, ⟨bucketCount, width⟩, overflows, least, greatest, count, mean, percentiles⟩

section Reading

variable (histogram : Histogram)

/-- The lines of a report are those that were written. -/
theorem lines_histogram :
    Text.lines (Report.histogram histogram).toList = (Figures.of histogram).lines := by
  rw [Figures.toList_histogram,
    Text.lines_terminated (Figures.of histogram).newline_not_mem_lines]

theorem countLines_histogram :
    countLines (Report.histogram histogram).toList =
      histogram.buckets.toList.map fun count => (wordText count).toList := by
  rw [countLines, lines_histogram]
  exact List.take_left' (by simp [Figures.lines, Figures.of])

theorem fieldLines_histogram :
    fieldLines (Report.histogram histogram).toList =
      [ spelledAll (Figures.of histogram).wholeFields ++ [','],
        spelledAll (Figures.of histogram).sampleFields ++ [','],
        Figures.heading ++ spelledAll (Figures.of histogram).percentileFields ] := by
  rw [fieldLines, lines_histogram]
  exact List.drop_left' (by simp [Figures.lines])

/-- The named values of a report are those that were written. -/
theorem summaryFields_histogram :
    summaryFields (Report.histogram histogram).toList =
      (Figures.of histogram).wholeFields ++ (Figures.of histogram).sampleFields ++
        (Figures.of histogram).percentileFields := by
  have whole : (Figures.of histogram).wholeFields ≠ [] := List.cons_ne_nil _ _
  have samples : (Figures.of histogram).sampleFields ≠ [] := List.cons_ne_nil _ _
  have percentiles : (Figures.of histogram).percentileFields ≠ [] := List.cons_ne_nil _ _
  rw [summaryFields, fieldLines_histogram]
  dsimp only
  rw [List.dropLast_concat, List.dropLast_concat, List.drop_left,
    fields_spelledAll whole (Figures.clean_wholeFields _),
    fields_spelledAll samples (Figures.clean_sampleFields _),
    fields_spelledAll percentiles (Figures.clean_percentileFields _)]

theorem mapM_word?_countLines :
    (countLines (Report.histogram histogram).toList).mapM Pair.word? =
      some histogram.buckets.toList := by
  rw [countLines_histogram]
  induction histogram.buckets.toList with
  | nil => rfl
  | cons count counts hypothesis =>
      have read : Pair.word? (wordText count).toList = some count := word?_wordText count
      rw [List.map_cons, List.mapM_cons, read, hypothesis]
      rfl

theorem mapM_optional?
    {value? : String -> Option String}
    {labels : List String}
    {values : List (Option UInt64)}
    (found : labels.map value? = values.map fun value => some (orUnavailable value)) :
    (labels.mapM fun label => (value? label).bind optional?) = some values := by
  induction labels generalizing values with
  | nil =>
      obtain rfl := List.map_eq_nil_iff.mp found.symm
      rfl
  | cons label labels hypothesis =>
      cases values with
      | nil => contradiction
      | cons value values =>
          obtain ⟨first, rest⟩ := List.cons.inj found
          rw [List.mapM_cons, first, hypothesis rest, Option.bind_some, optional?_orUnavailable]
          rfl

/-- Each figure stands behind its label. -/
theorem value?_histogram :
    let value := value? (Report.histogram histogram).toList
    let figures := Figures.of histogram
    value "o_histogram" = some figures.geometry.text ∧
      value "hist_overflows" = some (wordText figures.overflows) ∧
      value "hist_min_sample" = some (orUnavailable figures.least) ∧
      value "hist_max_sample" = some (orUnavailable figures.greatest) ∧
      value "hist_num_samples" = some (wordText figures.count) ∧
      value "average_sample" = some (orUnavailable figures.mean) ∧
      percentLabels.map value =
        figures.percentiles.map fun percentile => some (orUnavailable percentile) := by
  intro value figures
  have found (label : String) : value label =
      (figures.wholeFields ++ figures.sampleFields ++ figures.percentileFields).lookup label :=
    congrArg (List.lookup label) (summaryFields_histogram histogram)
  rw [funext found]
  exact ⟨rfl, rfl, rfl, rfl, rfl, rfl, rfl⟩

/-- All figures of a histogram are read from its report. -/
theorem read?_histogram :
    read? (Report.histogram histogram).toList = some (Figures.of histogram) := by
  obtain ⟨geometry, overflows, least, greatest, count, mean, percentiles⟩ :=
    value?_histogram histogram
  have pair : Pair.parse? (Figures.of histogram).geometry.text.toList =
      some (histogram.geometry.bucketCount, histogram.geometry.bucketWidth) :=
    (Pair.parse?_eq_some_iff _ _).mpr (Pair.spells_text _ _)
  have each := mapM_optional? percentiles
  simp only [read?, mapM_word?_countLines, geometry, overflows, least, greatest, count, mean,
    pair, each, Option.bind_eq_bind, Option.bind_some, word?_wordText, optional?_orUnavailable]
  rfl

end Reading

/-! ## What a report says -/

theorem geometryText_ne_unavailable (geometry : Geometry) : geometry.text ≠ "-1" := by
  intro same
  have pair : Pair.parse? geometry.text.toList =
      some (geometry.bucketCount, geometry.bucketWidth) :=
    (Pair.parse?_eq_some_iff _ _).mpr (Pair.spells_text _ _)
  have unread : Pair.parse? "-1".toList = none := by decide +kernel
  rw [same, unread] at pair
  contradiction

/-- The text for what is unavailable stands behind the labels of the figures that are, and
behind no other label. -/
theorem unavailable_iff
    (histogram : Histogram) :
    forall field, field ∈ summaryFields (Report.histogram histogram).toList ->
      (field.2 = "-1" ↔ (field.1, none) ∈ (Figures.of histogram).optionals) := by
  obtain ⟨first, second, third, fourth, fifth, five⟩ :
      exists first second third fourth fifth,
        (Figures.of histogram).percentiles = [first, second, third, fourth, fifth] :=
    ⟨_, _, _, _, _, rfl⟩
  rw [summaryFields_histogram]
  simp [Figures.wholeFields, Figures.sampleFields, Figures.percentileFields, Figures.optionals,
    percentLabels, five, orUnavailable_eq_iff, wordText_ne_unavailable,
    geometryText_ne_unavailable, @eq_comm (Option UInt64) none]

/-- A figure on the samples is unavailable exactly if no sample is counted. -/
theorem unavailable_iff_count_eq_zero (histogram : Histogram) :
    let figures := Figures.of histogram
    (figures.least = none ↔ figures.count = 0) ∧ (figures.greatest = none ↔ figures.count = 0) ∧
      (figures.mean = none ↔ figures.count = 0) := by
  have sampled (value : UInt64) : histogram.whenSampled value = none ↔ histogram.count = 0 := by
    unfold Histogram.whenSampled
    by_cases zero : histogram.count = 0
    · simp [zero]
    · simp [zero, UInt64.pos_iff_ne_zero.mpr zero]
  exact ⟨sampled _, sampled _, sampled _⟩

theorem wordText_eq_zero_iff (word : UInt64) : wordText word = "0" ↔ word = 0 := by
  constructor
  · intro same
    have read := word?_wordText word
    rw [same, show word? "0" = some 0 by decide +kernel] at read
    exact (Option.some.inj read).symm
  · rintro rfl
    decide +kernel

/-- The report of a histogram says what its figures are. Whatever a histogram has been asked to
do, its report has one line for each bucket, with the counts in their order, and three more. A
reader gets all figures from it by the places of the first lines and by the labels on the last
ones; the text for what is unavailable stands where a figure is unavailable and nowhere else.
The counts and the overflows add up to the number of samples, as words do and, while a word can
count the samples, as numbers do. The least and the greatest sample and the mean are unavailable
exactly if no sample is counted. A histogram with other figures has another report. -/
theorem histogram_report_is_faithful
    {bucketCount width : UInt64}
    {empty : Histogram}
    (created : Histogram.create ⟨bucketCount, width⟩ = .ok empty)
    (calls : List Histogram.Call) :
    let histogram := empty.performAll calls
    let text := (Report.histogram histogram).toList
    let figures := Figures.of histogram
    text = (Text.lines text).flatMap (· ++ ['\n']) ∧
      (Text.lines text).length = bucketCount.toNat + 3 ∧
      ((Text.lines text).take bucketCount.toNat).map Pair.word? =
        histogram.buckets.toList.map some ∧
      read? text = some figures ∧
      figures.geometry = ⟨bucketCount, width⟩ ∧
      (forall field, field ∈ summaryFields text ->
        (field.2 = "-1" ↔ (field.1, none) ∈ figures.optionals)) ∧
      figures.counts.sum + figures.overflows = figures.count ∧
      ((Histogram.Call.accepted calls).length < 2 ^ 64 ->
        (figures.counts.map UInt64.toNat).sum + figures.overflows.toNat =
          figures.count.toNat) ∧
      (forall label, label ∈ ["hist_min_sample", "hist_max_sample", "average_sample"] ->
        (value? text label = some "-1" ↔ value? text "hist_num_samples" = some "0")) ∧
      forall other, Figures.of other ≠ figures -> (Report.histogram other).toList ≠ text := by
  intro histogram text figures
  obtain ⟨hasWidth, rfl⟩ := Histogram.of_create created
  have stands : histogram =
      Histogram.ofSamples bucketCount.toNat width (Histogram.Call.accepted calls) :=
    Histogram.performAll_fresh hasWidth bucketCount.toNat calls
  have size : histogram.buckets.size = bucketCount.toNat := by
    rw [stands]
    exact Histogram.size_bucketsOf bucketCount.toNat width _
  have written : Text.lines text = figures.lines := lines_histogram histogram
  have length : (Text.lines text).length = bucketCount.toNat + 3 := by
    rw [written]
    simp [Figures.lines, figures, Figures.of, size]
  refine ⟨?_, length, ?_, read?_histogram histogram, ?_, unavailable_iff histogram, ?_, ?_, ?_,
    fun other differs same => ?_⟩
  · rw [written]
    exact Figures.toList_histogram histogram
  · have counts := countLines_histogram histogram
    rw [countLines, length, Nat.add_sub_cancel] at counts
    have read (count : UInt64) : Pair.word? (wordText count).toList = some count :=
      word?_wordText count
    rw [counts, List.map_map]
    apply List.map_congr_left
    intro count _
    rw [Function.comp_apply, read]
  · have widthOf : histogram.width = width := by rw [stands, Histogram.ofSamples]
    have geometry : histogram.geometry = ⟨UInt64.ofNat histogram.buckets.size, histogram.width⟩ :=
      rfl
    rw [size, widthOf, UInt64.ofNat_toNat] at geometry
    exact geometry
  · change histogram.buckets.toList.sum + histogram.overflows = histogram.count
    rw [stands]
    exact Histogram.sum_buckets_ofSamples bucketCount.toNat width _
  · intro few
    have counted : histogram.count.toNat = (Histogram.Call.accepted calls).length := by
      rw [stands]
      exact UInt64.toNat_ofNat_of_lt' few
    change (histogram.buckets.toList.map UInt64.toNat).sum + histogram.overflows.toNat =
      histogram.count.toNat
    rw [counted, stands]
    exact Histogram.sum_bucketsOf_add_overflows few bucketCount.toNat width
  · obtain ⟨_, _, least, greatest, count, mean, _⟩ := value?_histogram histogram
    obtain ⟨noLeast, noGreatest, noMean⟩ := unavailable_iff_count_eq_zero histogram
    simp only [List.forall_mem_cons, List.not_mem_nil, false_implies, implies_true, and_true,
      text, least, greatest, count, mean, Option.some.injEq, orUnavailable_eq_iff,
      wordText_eq_zero_iff]
    exact ⟨noLeast, noGreatest, noMean⟩
  · have read := read?_histogram other
    rw [same, read?_histogram histogram] at read
    exact differs (Option.some.inj read).symm

/-- A sample is forgotten by a reset. Of the eleven samples behind it one is an overflow, and the
percentiles from the second on lie there. -/
theorem report_of_two_buckets :
    let calls : List Histogram.Call :=
      .record 3 :: .reset :: .recordInterval 5 30 :: List.replicate 10 (.record 7)
    let text := (Report.histogram ((Histogram.fresh 2 10).performAll calls)).toList
    Histogram.create ⟨2, 10⟩ = .ok (Histogram.fresh 2 10) ∧
      (Text.lines text).length = 5 ∧
      read? text =
        some ⟨[10, 0], ⟨2, 10⟩, 1, some 7, some 25, 11, some 8,
          [some 10, none, none, none, none]⟩ := by
  intro calls text
  have created : Histogram.create ⟨2, 10⟩ = .ok (Histogram.fresh 2 10) := rfl
  obtain ⟨_, length, _, read, _⟩ := histogram_report_is_faithful created calls
  refine ⟨created, length, read.trans (congrArg some ?_)⟩
  decide +kernel

end Report
end LatencyMeter

import LatencyMeter.Proofs.Address.Number

/-!
# Addresses of eight segments

An address of eight segments is written in one of three ways: as an address of four bytes
behind a fixed beginning, with a gap in place of its longest run of zeros, or with all its
segments. Each is read back. In the second and third way no point occurs, so the reader never
takes segments for an address of four bytes; and the gap is filled with as many zeros as were
left out, because the segments on both sides of it are known.
-/

namespace LatencyMeter
namespace Ipv6

/-! ## Runs of zeros -/

/-- A run of zeros stands in some segments. -/
def ZeroRun.Within (run : ZeroRun) (segments : List UInt16) : Prop :=
  exists before behind,
    segments = before ++ List.replicate run.length 0 ++ behind ∧ before.length = run.start

/-- Some segments end in a run of zeros. -/
def ZeroRun.Ends (run : ZeroRun) (segments : List UInt16) : Prop :=
  exists before,
    segments = before ++ List.replicate run.length 0 ∧
      (run.length = 0 ∨ before.length = run.start)

theorem ZeroRun.Within.append
    {run : ZeroRun}
    {segments : List UInt16}
    (within : run.Within segments)
    (more : List UInt16) :
    run.Within (segments ++ more) := by
  obtain ⟨before, behind, rfl, start⟩ := within
  exact ⟨before, behind ++ more, by simp, start⟩

/-- The longest run of zeros stands in the segments that were gone through. -/
theorem within_longestFrom
    {done : List UInt16}
    {current longest : ZeroRun}
    (ends : current.Ends done)
    (within : longest.Within done)
    (rest : List UInt16) :
    (longestFrom done.length current longest rest).Within (done ++ rest) := by
  induction rest generalizing done current longest with
  | nil => simpa [longestFrom] using within
  | cons segment rest hypothesis =>
      have count : done.length + 1 = (done ++ [segment]).length := by simp
      rw [longestFrom, List.append_cons, count]
      split
      · next zero =>
        subst zero
        extract_lets grown
        obtain ⟨before, rfl, start⟩ := ends
        -- The run that ends here is one zero longer, and begins here if there was none.
        have same : before ++ List.replicate current.length 0 ++ [0] =
            before ++ List.replicate grown.length 0 := by
          rw [List.append_assoc, List.replicate_succ']
        have place : before.length = grown.start := by
          rcases start with none | start
          · simp [grown, none]
          · by_cases none : current.length = 0 <;> simp [grown, none, start]
        refine hypothesis ⟨before, same, .inr place⟩ ?_
        split
        · exact ⟨before, [], by simpa using same, place⟩
        · exact within.append _
      · exact hypothesis ⟨done ++ [segment], by simp, .inl rfl⟩ (within.append _)

/-! ## Segments -/

/-- What is written behind a segment for the segments that follow it. -/
def sequel : List UInt16 -> List Char
  | [] => []
  | segments => ':' :: segmentChars segments

theorem segmentChars_cons (segment : UInt16) (rest : List UInt16) :
    segmentChars (segment :: rest) = Nat.toDigits 16 segment.toNat ++ sequel rest := by
  cases rest <;> simp [segmentChars, sequel]

/-- No point is written among segments. -/
theorem point_not_mem_segmentChars (segments : List UInt16) : '.' ∉ segmentChars segments := by
  have digits (segment : UInt16) : '.' ∉ Nat.toDigits 16 segment.toNat := by
    intro member
    obtain ⟨digit, small, same⟩ := Decimal.exists_of_mem_toDigits (by decide) member
    have table : forall digit, digit < 16 -> '.' ≠ digit.digitChar := by decide
    exact table digit small same
  induction segments with
  | nil => simp [segmentChars]
  | cons segment rest hypothesis =>
      rw [segmentChars_cons, List.mem_append]
      rintro (member | member)
      · exact digits segment member
      · cases rest with
        | nil => simp [sequel] at member
        | cons second others =>
            rcases List.mem_cons.mp member with impossible | member
            · exact absurd impossible (by decide)
            · exact hypothesis member

end Ipv6

namespace Address

open Ipv6

variable {text rest : List Char}

/-- Where no point is no address of four bytes stands in place of segments. -/
theorem unembedded (pointless : '.' ∉ text) (first : Bool) :
    atPosition first ipv4 text = none := by
  cases first with
  | true => exact ipv4_eq_none pointless
  | false =>
      cases text with
      | nil => rfl
      | cons character behind =>
          unfold atPosition
          simp only [Bool.false_eq_true, if_false]
          split
          · next rest same =>
            obtain ⟨_, rfl⟩ := List.cons.inj same
            exact ipv4_eq_none fun member => pointless (List.mem_cons_of_mem _ member)
          · rfl

/-- Where no segment stands none is read. -/
theorem segments_eq_nil
    {first : Bool}
    (unembedded : atPosition first ipv4 text = none)
    (unread : atPosition first (number segmentRule) text = none)
    (room : Nat) :
    segments room first text = ⟨[], false, text⟩ := by
  cases room with
  | zero => rfl
  | succ room => simp only [segments, unembedded, ite_self, unread]

/-- A segment is read, and what follows it after it. -/
theorem segments_cons
    {first : Bool}
    (unembedded : atPosition first ipv4 text = none)
    {segment : UInt16}
    (read : atPosition first (number segmentRule) text = some (segment.toNat, rest))
    (room : Nat) :
    segments (room + 1) first text =
      { segments room false rest with
        values := segment :: (segments room false rest).values } := by
  simp only [segments, unembedded, ite_self, read, UInt16.ofNat_toNat]

/-- Segments end where there is no room for more or no other one stands. -/
structure EndsSegments (room : Nat) (rest : List Char) : Prop where
  pointless : '.' ∉ rest
  stops : NoDigitFirst 16 rest
  last : room = 0 ∨ atPosition false (number segmentRule) rest = none

/-- What follows a segment is no digit of it. -/
theorem noDigitFirst_sequel
    (stops : NoDigitFirst 16 rest)
    (values : List UInt16) :
    NoDigitFirst 16 (sequel values ++ rest) := by
  cases values with
  | nil => exact stops
  | cons first others => exact (noDigitFirst_cons _ _ _).mpr (by decide)

/-- The first of some segments is read. -/
theorem number_segmentChars
    (stops : NoDigitFirst 16 rest)
    (segment : UInt16)
    (behind : List UInt16) :
    number segmentRule (segmentChars (segment :: behind) ++ rest) =
      some (segment.toNat, sequel behind ++ rest) := by
  rw [segmentChars_cons, List.append_assoc]
  exact number_toDigits (segmentRule_allows segment) (noDigitFirst_sequel stops behind)

/-- The segments that follow a segment are read. -/
theorem segments_sequel
    (values : List UInt16)
    {room : Nat}
    (ends : EndsSegments room rest) :
    segments (values.length + room) false (sequel values ++ rest) = ⟨values, false, rest⟩ := by
  induction values with
  | nil =>
      rw [List.length_nil, Nat.zero_add]
      rcases ends.last with rfl | unread
      · rfl
      · exact segments_eq_nil (unembedded ends.pointless false) unread room
  | cons segment behind hypothesis =>
      have pointless : '.' ∉ sequel (segment :: behind) ++ rest := by
        simpa [sequel, ends.pointless] using point_not_mem_segmentChars (segment :: behind)
      have read := number_segmentChars ends.stops segment behind
      rw [List.length_cons, Nat.add_right_comm,
        segments_cons (unembedded pointless false) read, hypothesis]

/-- Segments are read from the front of a text. -/
theorem segments_segmentChars
    (values : List UInt16)
    {room : Nat}
    (ends : EndsSegments room rest) :
    segments (values.length + room) true (segmentChars values ++ rest) =
      ⟨values, false, rest⟩ := by
  cases values with
  | nil =>
      have unread : atPosition true (number segmentRule) rest = none := number_eq_none ends.stops
      exact segments_eq_nil (unembedded ends.pointless true) unread _
  | cons segment behind =>
      have pointless : '.' ∉ segmentChars (segment :: behind) ++ rest := by
        simpa [ends.pointless] using point_not_mem_segmentChars (segment :: behind)
      have read := number_segmentChars ends.stops segment behind
      rw [List.length_cons, Nat.add_right_comm,
        segments_cons (unembedded pointless true) read, segments_sequel behind ends]

/-! ## Addresses -/

/-- Zeros between two groups of segments are restored from the groups. -/
theorem joined_eq_some
    {address : Ipv6}
    {front back : List UInt16}
    {count : Nat}
    (same : address.segments = front ++ List.replicate count 0 ++ back) :
    joined front back = some address := by
  have whole := address.length_segments
  rw [same] at whole
  have missing : 8 - (front.length + back.length) = count := by
    simp only [List.length_append, List.length_replicate] at whole
    omega
  unfold joined
  dsimp only
  rw [missing, dif_pos whole]
  exact congrArg some (by cases address; simpa using same.symm)

/-- What may stand behind an address of eight segments: a scope or the end of the address. -/
structure EndsAddress (rest : List Char) : Prop where
  pointless : '.' ∉ rest
  marked : exists mark more, rest = mark :: more ∧ (mark = '%' ∨ mark = ']')

theorem EndsAddress.noDigitFirst
    (ends : EndsAddress rest) :
    NoDigitFirst 10 rest ∧ NoDigitFirst 16 rest := by
  obtain ⟨mark, more, rfl, rfl | rfl⟩ := ends.marked <;>
    exact ⟨(noDigitFirst_cons _ _ _).mpr (by decide), (noDigitFirst_cons _ _ _).mpr (by decide)⟩

theorem EndsAddress.endsSegments
    (ends : EndsAddress rest)
    (room : Nat) :
    EndsSegments room rest where
  pointless := ends.pointless
  stops := ends.noDigitFirst.2
  last := by
    obtain ⟨mark, more, rfl, rfl | rfl⟩ := ends.marked <;> exact .inr rfl

/-- A segment consists of its two bytes. -/
theorem ofNat_bytes (segment : UInt16) :
    UInt16.ofNat ((segment / 256).toUInt8.toNat * 256 + (segment % 256).toUInt8.toNat) =
      segment := by
  refine UInt16.toNat_inj.mp ?_
  have bound := segment.toNat_lt
  simp only [UInt16.toNat_ofNat', UInt16.toNat_toUInt8, UInt16.toNat_div, UInt16.toNat_mod]
  change (segment.toNat / 256 % 256 * 256 + segment.toNat % 256 % 256) % 2 ^ 16 = segment.toNat
  omega

/-- No digit of any base is a colon. -/
theorem noDigitFirst_colon (base : Nat) (text : List Char) : NoDigitFirst base (':' :: text) := by
  rw [noDigitFirst_cons]
  simp [digit?]

/-- The address of four bytes that two segments stand for. -/
def ofSegments (high low : UInt16) : Ipv4 :=
  ⟨(high / 256).toUInt8, (high % 256).toUInt8, (low / 256).toUInt8, (low % 256).toUInt8⟩

/-- The address of four bytes at the end of an address is read as its last two segments. -/
theorem segments_ipv4 (high low : UInt16) (ends : EndsAddress rest) :
    segments 6 false (':' :: ((ofSegments high low).chars ++ rest)) =
      ⟨[high, low], true, rest⟩ := by
  have embedded : atPosition false ipv4 (':' :: ((ofSegments high low).chars ++ rest)) =
      some (ofSegments high low, rest) := ipv4_chars _ ends.noDigitFirst.1
  rw [segments]
  simp only [Nat.zero_lt_succ, if_true, embedded]
  simp only [ofSegments, ofNat_bytes]

/-- Behind the gap of its fixed beginning an address of four bytes is read as three segments. -/
theorem segments_mapped (high low : UInt16) (ends : EndsAddress rest) :
    segments 7 true ("ffff:".toList ++ ((ofSegments high low).chars ++ rest)) =
      ⟨[0xffff, high, low], true, rest⟩ := by
  have unembedded :
      atPosition true ipv4 ("ffff:".toList ++ ((ofSegments high low).chars ++ rest)) = none :=
    ipv4_eq_none_of_noDigitFirst ((noDigitFirst_cons _ _ _).mpr (by decide))
  have marker : number segmentRule ("ffff:".toList ++ ((ofSegments high low).chars ++ rest)) =
      some ((0xffff : UInt16).toNat, ':' :: ((ofSegments high low).chars ++ rest)) :=
    number_toDigits (segmentRule_allows 0xffff) (noDigitFirst_colon 16 _)
  rw [segments_cons unembedded marker 6, segments_ipv4 high low ends]

/-- An address that begins with its gap is read from what stands behind the gap. -/
theorem ipv6_gap_in_front (text : List Char) :
    ipv6 (':' :: ':' :: text) =
      (joined [] (segments 7 true text).values).map (·, (segments 7 true text).rest) := by
  have nothing : segments 8 true (':' :: ':' :: text) = ⟨[], false, ':' :: ':' :: text⟩ := by
    refine segments_eq_nil ?_ ?_ 8
    · exact ipv4_eq_none_of_noDigitFirst (noDigitFirst_colon 10 _)
    · change number segmentRule (':' :: ':' :: text) = none
      exact number_eq_none (noDigitFirst_colon 16 _)
  unfold ipv6
  rw [nothing]
  rfl

/-- What is written for an address of four bytes behind its fixed beginning is read. -/
theorem ipv6_mapped
    {address : Ipv6}
    {inner : Ipv4}
    (mapped : address.mapped? = some inner)
    (ends : EndsAddress rest) :
    ipv6 ("::ffff:".toList ++ inner.chars ++ rest) = some (address, rest) := by
  unfold Ipv6.mapped? at mapped
  split at mapped
  · next high low same =>
    obtain rfl : ofSegments high low = inner := Option.some.inj mapped
    have gap : address.segments = [] ++ List.replicate 5 0 ++ [0xffff, high, low] := same
    rw [List.append_assoc]
    refine (ipv6_gap_in_front ("ffff:".toList ++ ((ofSegments high low).chars ++ rest))).trans ?_
    rw [segments_mapped high low ends, joined_eq_some gap]
    rfl
  · contradiction

/-- An address with a gap is read. -/
theorem ipv6_gap
    {address : Ipv6}
    {front back : List UInt16}
    {count : Nat}
    (several : 1 < count)
    (same : address.segments = front ++ List.replicate count 0 ++ back)
    (ends : EndsAddress rest) :
    ipv6 (segmentChars front ++ ':' :: ':' :: (segmentChars back ++ rest)) =
      some (address, rest) := by
  have whole := address.length_segments
  simp only [same, List.length_append, List.length_replicate] at whole
  have gap : EndsSegments (8 - front.length) (':' :: ':' :: (segmentChars back ++ rest)) := by
    refine ⟨?_, (noDigitFirst_cons _ _ _).mpr (by decide), .inr rfl⟩
    simpa [ends.pointless] using point_not_mem_segmentChars back
  have reads := segments_segmentChars front gap
  have continues := segments_segmentChars back
    (ends.endsSegments (8 - (front.length + 1) - back.length))
  rw [show front.length + (8 - front.length) = 8 by omega] at reads
  rw [show back.length + (8 - (front.length + 1) - back.length) = 8 - (front.length + 1) by
    omega] at continues
  have cut : front.length ≠ 8 := by omega
  simp only [ipv6, reads, cut, if_false, Bool.false_eq_true, continues, joined_eq_some same,
    Option.map_some]

/-- An address without a gap is read. -/
theorem ipv6_whole
    (address : Ipv6)
    (ends : EndsAddress rest) :
    ipv6 (segmentChars address.segments ++ rest) = some (address, rest) := by
  have reads := segments_segmentChars address.segments (ends.endsSegments 0)
  rw [address.length_segments] at reads
  have same : address.segments = address.segments ++ List.replicate 0 0 ++ [] := by simp
  simp only [ipv6, reads, address.length_segments, if_true, joined_eq_some same, Option.map_some]

/-- An address of eight segments is read back up to its scope or its end. -/
theorem ipv6_chars
    (address : Ipv6)
    (ends : EndsAddress rest) :
    ipv6 (address.chars ++ rest) = some (address, rest) := by
  unfold Ipv6.chars
  split
  · next inner mapped => exact ipv6_mapped mapped ends
  · extract_lets run
    have noRun : (⟨0, 0⟩ : ZeroRun).Ends [] := ⟨[], rfl, .inl rfl⟩
    have nowhere : (⟨0, 0⟩ : ZeroRun).Within [] := ⟨[], [], rfl, rfl⟩
    have within : run.Within address.segments := within_longestFrom noRun nowhere address.segments
    obtain ⟨before, behind, same, start⟩ := within
    split
    · next long =>
      have front : address.segments.take run.start = before := by
        rw [same, ← start, List.append_assoc, List.take_left]
      have back : address.segments.drop (run.start + run.length) = behind := by
        rw [same, ← start, List.drop_left' (by simp)]
      rw [front, back, List.append_assoc]
      exact ipv6_gap long same ends
    · exact ipv6_whole address ends

end Address
end LatencyMeter

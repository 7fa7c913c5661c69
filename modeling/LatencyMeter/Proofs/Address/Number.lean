import LatencyMeter.Address.Parser
import LatencyMeter.Proofs.Decimal.Digits

/-!
# Numbers of addresses and addresses of four bytes

A number of an address is read back from its digits if it is within the limits of its rule and
no digit stands behind it. So is an address of four bytes, which is four numbers with points
between them; and where no point is there is no such address.
-/

namespace LatencyMeter
namespace Address

variable {rule : NumberRule} {base number : Nat} {text rest : List Char}

/-- No digit of a base stands in front of a text. -/
def NoDigitFirst (base : Nat) (text : List Char) : Prop :=
  forall character, text.head? = some character -> digit? base character = none

@[simp] theorem noDigitFirst_nil (base : Nat) : NoDigitFirst base [] := by
  simp [NoDigitFirst]

@[simp] theorem noDigitFirst_cons (base : Nat) (character : Char) (text : List Char) :
    NoDigitFirst base (character :: text) ↔ digit? base character = none := by
  simp [NoDigitFirst]

/-! ## Numbers -/

/-- A number may be written as a rule has it. -/
structure NumberRule.Allows (rule : NumberRule) (number : Nat) : Prop where
  base : rule.base = 10 ∨ rule.base = 16
  within : number ≤ rule.limit
  narrow : forall width, rule.width = some width ->
    (Nat.toDigits rule.base number).length ≤ width

theorem NumberRule.Allows.several (allowed : rule.Allows number) : 1 < rule.base := by
  have known := allowed.base
  omega

theorem digit?_digitChar
    {digit : Nat}
    (known : base = 10 ∨ base = 16)
    (small : digit < base) :
    digit? base digit.digitChar = some digit := by
  have ten : forall digit, digit < 10 -> digit? 10 digit.digitChar = some digit := by decide
  have sixteen : forall digit, digit < 16 -> digit? 16 digit.digitChar = some digit := by decide
  rcases known with rfl | rfl
  · exact ten digit small
  · exact sixteen digit small

/-- The digits of an allowed number are read up to what is no digit. -/
theorem digits_toDigits
    (allowed : rule.Allows number)
    (stops : NoDigitFirst rule.base rest) :
    digits rule 0 0 (Nat.toDigits rule.base number ++ rest) = some (number, rest) := by
  rw [Decimal.reads_toDigits allowed.several (digits rule) ?_ allowed.within (Nat.le_refl _)]
  · have nonzero : (Nat.toDigits rule.base number).length ≠ 0 := Nat.length_toDigits_pos.ne'
    cases rest with
    | nil => simp [digits, nonzero]
    | cons character rest =>
        rw [noDigitFirst_cons] at stops
        simp [digits, nonzero, stops]
  · intro count value digit more short small within
    have passes : ¬ (rule.limit < value * rule.base + digit ∨
        rule.width.any (· < count + 1) = true) := by
      rintro (large | wide)
      · exact absurd within (Nat.not_le.mpr large)
      · obtain ⟨width, present, exceeded⟩ := (Option.any_eq_true _ _).mp wide
        have narrow := allowed.narrow width present
        have exceeds : width < count + 1 := of_decide_eq_true exceeded
        omega
    rw [digits, digit?_digitChar allowed.base small]
    simp only [passes, if_false]

/-- An allowed number is read back. That no zero may stand in front of it does not matter. -/
theorem number_toDigits
    (allowed : rule.Allows number)
    (stops : NoDigitFirst rule.base rest) :
    Address.number rule (Nat.toDigits rule.base number ++ rest) = some (number, rest) := by
  have read := digits_toDigits allowed stops
  unfold Address.number
  split
  · next next behind begins =>
    obtain ⟨first, others, same⟩ := Decimal.exists_cons_toDigits rule.base number
    rw [same, List.cons_append] at begins
    obtain ⟨rfl, follows⟩ := List.cons.inj begins
    obtain ⟨rfl, rfl⟩ := Decimal.zero_of_toDigits allowed.several same
    obtain rfl : rest = next :: behind := follows
    rw [noDigitFirst_cons] at stops
    simp only [stops, Option.isSome_none, Bool.and_false, Bool.false_eq_true, if_false]
    exact read
  · exact read

/-- No number is read where no digit stands. -/
theorem number_eq_none (stops : NoDigitFirst rule.base text) : Address.number rule text = none := by
  unfold Address.number
  split
  · next next behind =>
    rw [noDigitFirst_cons] at stops
    simp [digits, stops]
  · cases text with
    | nil => rfl
    | cons character rest =>
        rw [noDigitFirst_cons] at stops
        simp [digits, stops]

/-- What is left behind digits is an end of the text. -/
theorem suffix_of_digits
    {count value result : Nat}
    (read : digits rule count value text = some (result, rest)) :
    rest <:+ text := by
  induction text generalizing count value with
  | nil =>
      rw [digits] at read
      split at read
      · contradiction
      · obtain ⟨_, rfl⟩ := Prod.mk.inj (Option.some.inj read)
        exact List.suffix_refl _
  | cons character behind hypothesis =>
      rw [digits] at read
      split at read
      · split at read
        · contradiction
        · obtain ⟨_, rfl⟩ := Prod.mk.inj (Option.some.inj read)
          exact List.suffix_refl _
      · dsimp only at read
        split at read
        · contradiction
        · exact (hypothesis read).trans (List.suffix_cons _ _)

/-- What is left behind a number is an end of the text. -/
theorem suffix_of_number
    {result : Nat}
    (read : Address.number rule text = some (result, rest)) :
    rest <:+ text := by
  unfold Address.number at read
  split at read
  · split at read
    · contradiction
    · exact suffix_of_digits read
  · exact suffix_of_digits read

/-! ## Bytes, segments, ports and scopes -/

theorem byteRule_allows (byte : UInt8) : byteRule.Allows byte.toNat where
  base := .inl rfl
  within := Nat.le_of_lt_succ byte.toNat_lt
  narrow := by
    rintro width ⟨rfl⟩
    refine (Nat.length_toDigits_le_iff (by decide) (by decide)).mpr ?_
    exact Nat.lt_of_lt_of_le byte.toNat_lt (by decide)

theorem segmentRule_allows (segment : UInt16) : segmentRule.Allows segment.toNat where
  base := .inr rfl
  within := Nat.le_of_lt_succ segment.toNat_lt
  narrow := by
    rintro width ⟨rfl⟩
    exact (Nat.length_toDigits_le_iff (by decide) (by decide)).mpr segment.toNat_lt

theorem portRule_allows (port : UInt16) : portRule.Allows port.toNat where
  base := .inl rfl
  within := Nat.le_of_lt_succ port.toNat_lt
  narrow := by
    rintro width ⟨⟩

theorem scopeRule_allows (scope : UInt32) : scopeRule.Allows scope.toNat where
  base := .inl rfl
  within := Nat.le_of_lt_succ scope.toNat_lt
  narrow := by
    rintro width ⟨⟩

/-! ## Addresses of four bytes -/

/-- An address of four bytes is read back up to what is no digit. -/
theorem ipv4_chars (address : Ipv4) (stops : NoDigitFirst 10 rest) :
    ipv4 (address.chars ++ rest) = some (address, rest) := by
  have point (rest : List Char) : NoDigitFirst 10 ('.' :: rest) :=
    (noDigitFirst_cons _ _ _).mpr (by decide)
  have byte (byte : UInt8) {rest : List Char} (stops : NoDigitFirst 10 rest) :
      Address.number byteRule (Nat.toDigits 10 byte.toNat ++ rest) = some (byte.toNat, rest) :=
    number_toDigits (byteRule_allows byte) stops
  unfold ipv4 Ipv4.chars
  simp only [List.append_assoc, List.cons_append]
  rw [byte _ (point _)]
  simp only [Option.bind_eq_bind, Option.bind_some, given, if_true]
  rw [byte _ (point _)]
  simp only [Option.bind_some, if_true]
  rw [byte _ (point _)]
  simp only [Option.bind_some, if_true]
  rw [byte _ stops]
  simp

/-- Without a point there is no address of four bytes. -/
theorem ipv4_eq_none (pointless : '.' ∉ text) : ipv4 text = none := by
  cases read : Address.number byteRule text with
  | none => simp [ipv4, read]
  | some result =>
      obtain ⟨value, rest⟩ := result
      have absent : given '.' rest = none := by
        cases rest with
        | nil => rfl
        | cons character behind =>
            refine if_neg ?_
            rintro rfl
            exact pointless ((suffix_of_number read).mem List.mem_cons_self)
      simp [ipv4, read, absent]

theorem ipv4_eq_none_of_noDigitFirst (stops : NoDigitFirst 10 text) : ipv4 text = none := by
  have unread : Address.number byteRule text = none := number_eq_none stops
  simp [ipv4, unread]

end Address

/-- What is written for an address of four bytes is read as that address. -/
theorem Ipv4.parse?_chars (address : Ipv4) : Ipv4.parse? address.chars = some address := by
  have read := Address.ipv4_chars address (Address.noDigitFirst_nil 10)
  rw [List.append_nil] at read
  simp [parse?, Address.whole, read]

end LatencyMeter

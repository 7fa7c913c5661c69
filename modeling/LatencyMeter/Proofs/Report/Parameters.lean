import LatencyMeter.Proofs.Address.Socket
import LatencyMeter.Proofs.Report.Fields
import LatencyMeter.Proofs.Settings.Acceptance
import LatencyMeter.Settings.Pong

/-!
# Reading the parameter line

A parameter line has a separator behind each of its named values and ends with a newline. Its
reader knows neither the values nor what may stand in them: it splits the line at the separators
and each piece at its first equals sign. Values are made of digits, hexadecimal digits, a few
words and the marks in between, and some of these marks are commas; but no blank is among them,
so no value contains a separator. A core that is not given is written as `-1`, which is the text
of no core that settings may have.
-/

namespace LatencyMeter
namespace Report

/-- The named values of a parameter line are found by splitting it: the pieces are their texts
in order and, at last, the newline, and each text is divided into the name and the value. -/
structure Scraped (line : List Char) (given : List Field) : Prop where
  pieces : Text.pieces line = given.map spelled ++ [['\n']]
  divided : forall field, field ∈ given ->
    Text.divide (spelled field) = (field.1.toList, field.2.toList)

/-! ## Lines -/

/-- A parameter line is made of its named values with separators behind them. -/
theorem toList_parameters (given : List Field) :
    (parameters given).toList =
      (given.map spelled).flatMap (· ++ Text.separator) ++ ['\n'] := by
  have field (field : Field) :
      (field.1 ++ "=" ++ field.2 ++ ", ").toList = spelled field ++ Text.separator := by
    simp [spelled, Text.separator]
  rw [parameters, String.toList_append, String.toList_join, List.flatMap_map, List.flatMap_map]
  simp only [field]
  rfl

/-- The named values of a parameter line are found if there are no blanks in them. -/
theorem scraped_parameters
    {given : List Field}
    (clean : forall field, field ∈ given -> Clean field) :
    Scraped (parameters given).toList given where
  pieces := by
    rw [toList_parameters, Text.pieces_terminated]
    · rfl
    · intro piece member
      obtain ⟨field, listed, rfl⟩ := List.mem_map.mp member
      exact not_mem_of_noBlank (clean field listed).noBlank (by decide)
  divided := fun field member => (clean field member).divide

/-- A reader of named values finds those of a parameter line, and the newline as a name. -/
theorem Scraped.fields_eq
    {line : List Char}
    {given : List Field}
    (scraped : Scraped line given) :
    fields line = given ++ [("\n", "")] := by
  rw [fields, scraped.pieces, List.map_append, map_divide_spelled scraped.divided]
  rfl

/-! ## Values -/

theorem noBlank_signedText (word : Int64) : Text.NoBlank (signedText word).toList := by
  have minus : Text.isBlank '-' = false := by decide
  rw [signedText, String.toList_ofList]
  split <;> simp [minus]

theorem noBlank_optionalCpu (cpu : Option UInt64) : Text.NoBlank (optionalCpu cpu).toList := by
  cases cpu with
  | none => exact (noBlank_of_isName (by decide)).1
  | some cpu => exact noBlank_signedText _

theorem noBlank_warmup (warmup : Warmup) : Text.NoBlank warmup.text.toList :=
  noBlank_geometry ⟨warmup.loops, warmup.rate⟩

theorem noBlank_address (address : SocketAddress) : Text.NoBlank address.text.toList := by
  rw [SocketAddress.text, String.toList_ofList]
  exact address.noBlank_chars

theorem noBlank_path (path : PingPath) : Text.NoBlank path.text.toList := by
  cases path with
  | datagrams endpoint =>
      rw [PingPath.text, String.toList_append, Text.noBlank_append]
      exact ⟨(noBlank_of_isName (by decide)).1, noBlank_address endpoint.dest⟩
  | loopback => exact (noBlank_of_isName (by decide)).1

/-- A core that settings may have is written like any word. -/
theorem optionalCpu_some {cpu : UInt64} (admitted : cpu < 1024) :
    optionalCpu (some cpu) = wordText cpu := by
  have small : cpu.toNat < 1024 := UInt64.lt_iff_toNat_lt.mp admitted
  have value : cpu.toInt64.toInt = cpu.toNat :=
    BitVec.toInt_eq_toNat_of_lt (show 2 * cpu.toNat < 2 ^ 64 by omega)
  rw [optionalCpu, signedText, value, wordText]
  simp

/-- Of the cores that settings may have none is written like an absent one. -/
theorem optionalCpu_eq_unavailable_iff
    {cpu : Option UInt64}
    (admitted : forall core, cpu = some core -> core < 1024) :
    optionalCpu cpu = "-1" ↔ cpu = none := by
  cases cpu with
  | none => simp [optionalCpu]
  | some core => simp [optionalCpu_some (admitted core rfl), wordText_ne_unavailable]

end Report

/-! ## Settings -/

open Report

theorem PingSettings.clean_fields (settings : PingSettings) :
    forall field, field ∈ settings.fields -> Clean field := by
  have linger : Text.NoBlank
      (String.ofList (Nat.toDigits 10 settings.linger.toMillis)).toList := by
    rw [String.toList_ofList]
    exact Address.noBlank_decimal _
  simp only [fields, List.forall_mem_cons, List.not_mem_nil, false_implies, implies_true,
    and_true]
  exact ⟨clean (by decide) (noBlank_optionalCpu _), clean (by decide) (noBlank_optionalCpu _),
    clean (by decide) (noBlank_geometry _), clean (by decide) linger,
    clean (by decide) (noBlank_wordText _), clean (by decide) (noBlank_wordText _),
    clean (by decide) (noBlank_wordText _), clean (by decide) (noBlank_warmup _),
    clean (by decide) (noBlank_path _)⟩

theorem PongSettings.clean_fields (settings : PongSettings) :
    forall field, field ∈ settings.fields -> Clean field := by
  have exits : Text.NoBlank (if settings.exitOnEnd then "1" else "0").toList := by
    cases settings.exitOnEnd <;> exact (noBlank_of_isName (by decide)).1
  simp only [fields, List.forall_mem_cons, List.not_mem_nil, false_implies, implies_true,
    and_true]
  exact ⟨clean (by decide) (noBlank_optionalCpu _), clean (by decide) exits,
    clean (by decide) (noBlank_address _), clean (by decide) (noBlank_address _)⟩

/-- The core of a reflector is checked like any other. -/
theorem PongOptions.settings_eq_ok_iff {options : PongOptions} {settings : PongSettings} :
    options.settings = .ok settings ↔
      (forall core, options.receiverCpu = some core -> core < 1024) ∧
        settings =
          ⟨⟨options.bind, options.dest, options.interface, options.join, Endpoint.defaultTtl⟩,
            options.receiverCpu, options.exitOnEnd⟩ := by
  unfold PongOptions.settings
  rw [PingOptions.optionalCpu_eq_check, Requirement.check, ← PingOptions.met_coreRequirement_iff]
  cases (PingOptions.coreRequirement options.receiverCpu).met with
  | true =>
      change Except.ok _ = Except.ok settings ↔ _
      rw [Except.ok.injEq, eq_comm, eq_self_iff_true, true_and]
  | false =>
      change Except.error _ = Except.ok settings ↔ _
      simp

/-- The parameter line of settings that options were accepted for is taken apart by a reader that
splits it at the separators: there is one piece for each named value, in order, and a last one
that is the newline, and each piece is divided at its first equals sign into name and value. The
values are the texts of what the options ask for, and a core reads as `-1` exactly if the options
ask for none. -/
theorem parameter_lines_give_back_options :
    (forall (options : PingOptions) (settings : PingSettings), options.settings = .ok settings ->
      let line := settings.parameters.toList
      Scraped line settings.fields ∧
        fields line =
          [ ("o_affinity_src", optionalCpu options.senderCpu),
            ("o_affinity_rcv", optionalCpu options.receiverCpu),
            ("o_histogram", options.geometry.text),
            ("o_linger_ms", wordText options.lingerMillis),
            ("o_msg_len", wordText options.length),
            ("o_num_msgs", wordText options.count),
            ("o_rate", wordText options.rate),
            ("o_warmup", options.warmup.text),
            ("o_transport", options.path.text),
            ("\n", "") ] ∧
        ((fields line).lookup "o_affinity_src" = some "-1" ↔ options.senderCpu = none) ∧
        ((fields line).lookup "o_affinity_rcv" = some "-1" ↔ options.receiverCpu = none)) ∧
      forall (options : PongOptions) (settings : PongSettings), options.settings = .ok settings ->
        let line := settings.parameters.toList
        Scraped line settings.fields ∧
          fields line =
            [ ("o_affinity_rcv", optionalCpu options.receiverCpu),
              ("o_exit_on_eos", if options.exitOnEnd then "1" else "0"),
              ("o_bind", options.bind.text),
              ("o_dest", options.dest.text),
              ("\n", "") ] ∧
          ((fields line).lookup "o_affinity_rcv" = some "-1" ↔ options.receiverCpu = none) := by
  constructor
  · intro options settings accepted line
    obtain ⟨acceptable, rfl⟩ := PingOptions.settings_eq_ok_iff.mp accepted
    have scraped : Scraped line options.chosen.fields :=
      scraped_parameters options.chosen.clean_fields
    have found := scraped.fields_eq
    have linger : String.ofList (Nat.toDigits 10 options.chosen.linger.toMillis) =
        wordText options.lingerMillis := by
      rw [PingOptions.chosen, Duration.toMillis_ofMillis, wordText]
    rw [PingSettings.fields, linger] at found
    refine ⟨scraped, found, ?_, ?_⟩
    · rw [found]
      exact Option.some_inj.trans (optionalCpu_eq_unavailable_iff acceptable.senderCpu)
    · rw [found]
      exact Option.some_inj.trans (optionalCpu_eq_unavailable_iff acceptable.receiverCpu)
  · intro options settings accepted line
    obtain ⟨admitted, rfl⟩ := PongOptions.settings_eq_ok_iff.mp accepted
    have scraped : Scraped line _ := scraped_parameters (PongSettings.clean_fields _)
    have found := scraped.fields_eq
    refine ⟨scraped, found, ?_⟩
    rw [found]
    exact Option.some_inj.trans (optionalCpu_eq_unavailable_iff admitted)

/-- There are commas, colons and a scope in the values. -/
theorem parameter_lines_of_scoped_addresses :
    let address := SocketAddress.v6 ⟨[0xfe80, 0, 0, 0, 0, 0, 0, 1], rfl⟩ 12000 3
    let ping : PingOptions :=
      { rate := 1000, count := 5, length := 20, geometry := ⟨10, 100⟩, warmup := ⟨2, 1⟩,
        delay := none, senderCpu := some 1023, receiverCpu := none, lingerMillis := 1500,
        pause := Duration.ofNanos 0, dest := address, bind := address, interface := none,
        join := none, loopback := false, outputFile := none }
    let pong : PongOptions := ⟨address, .v4 Ipv4.unspecified 9, none, none, some 0, true⟩
    (exists settings, ping.settings = .ok settings ∧
      fields settings.parameters.toList =
        [ ("o_affinity_src", "1023"), ("o_affinity_rcv", "-1"), ("o_histogram", "10,100"),
          ("o_linger_ms", "1500"), ("o_msg_len", "20"), ("o_num_msgs", "5"), ("o_rate", "1000"),
          ("o_warmup", "2,1"), ("o_transport", "udp:[fe80::1%3]:12000"), ("\n", "") ]) ∧
      exists settings, pong.settings = .ok settings ∧
        fields settings.parameters.toList =
          [ ("o_affinity_rcv", "0"), ("o_exit_on_eos", "1"), ("o_bind", "[fe80::1%3]:12000"),
            ("o_dest", "0.0.0.0:9"), ("\n", "") ] := by
  intro address ping pong
  obtain ⟨pings, pongs⟩ := parameter_lines_give_back_options
  have acceptable : ping.Acceptable := (PingOptions.acceptable_iff ping).mpr (by decide)
  have pinging : ping.settings = .ok ping.chosen :=
    PingOptions.settings_eq_ok_iff.mpr ⟨acceptable, rfl⟩
  have ponging : pong.settings = .ok _ :=
    PongOptions.settings_eq_ok_iff.mpr ⟨by rintro core ⟨rfl⟩; decide, rfl⟩
  obtain ⟨_, pinged, _⟩ := pings ping _ pinging
  obtain ⟨_, ponged, _⟩ := pongs pong _ ponging
  exact ⟨⟨_, pinging, pinged.trans (by decide +kernel)⟩,
    ⟨_, ponging, ponged.trans (by decide +kernel)⟩⟩

end LatencyMeter

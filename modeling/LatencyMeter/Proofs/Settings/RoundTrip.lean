import LatencyMeter.Proofs.Address.Socket
import LatencyMeter.Proofs.Document.Record
import LatencyMeter.Proofs.Text.Respelling

/-!
# Settings are restored from their documents

The document of any settings is read back, part by part: each part is restored by its reader,
and its document stands for it. Settings are therefore read from their own text, and whatever
other text they are read from may be replaced by it.
-/

namespace LatencyMeter

open Document

/-! ## What documents stand for -/

namespace Document

@[simp] theorem word?_word (value : UInt64) : (word value).word? = some value := by
  simp [word, word?]

/-- A value that may be absent is found if it is when it is there. -/
theorem optional?_ofOption
    {inner? : Document -> Option α}
    {inner : α -> Document}
    (stands : forall value, inner? (inner value) = some value)
    (present : forall value, Present (inner value))
    (value : Option α) :
    optional? inner? (ofOption inner value) = some value := by
  cases value with
  | none => rfl
  | some value =>
      have nonnull : inner value ≠ .null := by
        intro null
        obtain ⟨first, others, same, _, other⟩ := present value
        rw [null] at same
        exact other (List.cons.inj same).1.symm
      have found := stands value
      unfold ofOption
      dsimp only
      unfold optional?
      split
      · next null => exact absurd null nonnull
      · rw [found]
        rfl

end Document

/-! ## Addresses -/

namespace SocketAddress

theorem restored (address : SocketAddress) :
    Restored SocketAddress.reader 0 address.document := by
  refine restored_string ?_
  rw [text, String.toList_ofList, parse?_chars]
  rfl

theorem ofDocument?_document (address : SocketAddress) :
    SocketAddress.ofDocument? address.document = some address := by
  simp [ofDocument?, document, string?, text, parse?_chars]

end SocketAddress

namespace Ipv4

theorem restored (address : Ipv4) : Restored Ipv4.reader 0 address.document := by
  refine restored_string ?_
  rw [text, String.toList_ofList, parse?_chars]
  rfl

theorem present (address : Ipv4) : Present address.document := present_string _

theorem ofDocument?_document (address : Ipv4) :
    Ipv4.ofDocument? address.document = some address := by
  simp [ofDocument?, document, string?, text, parse?_chars]

end Ipv4

/-! ## Records of words -/

/-- A number of half a word is read back. -/
theorem restored_halfWord (value : UInt32) :
    Restored (integerReader 0 4294967295) 0 (.integer value.toNat) :=
  restored_integer (Nat.le_trans (Nat.le_of_lt value.toNat_lt) (by decide))
    (Int.natCast_nonneg _) (Int.ofNat_le.mpr (Nat.le_of_lt_succ value.toNat_lt))

namespace Geometry

theorem restored (geometry : Geometry) : Restored Geometry.reader 1 geometry.document := by
  have members : AllRestored 0
      [.required "num_buckets" wordReader, .required "ns_per_bucket" wordReader]
      [.word geometry.bucketCount, .word geometry.bucketWidth] :=
    .cons (restored_word _) (.cons (restored_word _) .nil)
  have read := restored_plain members (by decide)
  exact read

theorem ofDocument?_document (geometry : Geometry) :
    Geometry.ofDocument? geometry.document = some geometry := by
  simp [ofDocument?, document, values]

end Geometry

namespace Warmup

theorem restored (warmup : Warmup) : Restored Warmup.reader 1 warmup.document := by
  have members : AllRestored 0
      [.required "loops" wordReader, .required "rate" wordReader]
      [.word warmup.loops, .word warmup.rate] :=
    .cons (restored_word _) (.cons (restored_word _) .nil)
  have read := restored_plain members (by decide)
  exact read

theorem ofDocument?_document (warmup : Warmup) :
    Warmup.ofDocument? warmup.document = some warmup := by
  simp [ofDocument?, document, values]

end Warmup

namespace Duration

/-- There is nothing to carry from the nanoseconds of a duration. -/
theorem settle_document (duration : Duration) :
    settle [.word duration.seconds, .integer duration.nanoseconds.toNat] =
      some [.word duration.seconds, .integer duration.nanoseconds.toNat] := by
  have short := duration.nanoseconds_lt
  have word := duration.seconds.toNat_lt
  have none : (duration.nanoseconds.toNat : Int) / nanosPerSecond = 0 :=
    Int.ediv_eq_zero_of_lt (Int.natCast_nonneg _) (Int.ofNat_lt.mpr short)
  have all : (duration.nanoseconds.toNat : Int) % nanosPerSecond = duration.nanoseconds.toNat :=
    Int.emod_eq_of_lt (Int.natCast_nonneg _) (Int.ofNat_lt.mpr short)
  have fits : (duration.seconds.toNat : Int) ≤ Word.limit :=
    Int.ofNat_le.mpr (Nat.le_of_lt_succ word)
  unfold Document.word settle
  simp only [none, all, Int.add_zero, fits, if_true]

theorem restored (duration : Duration) : Restored Duration.reader 1 duration.document := by
  let shape : Shape :=
    ⟨[.required "secs" wordReader, .required "nanos" (integerReader 0 4294967295)], true, settle⟩
  have members : AllRestored 0 shape.members
      [.word duration.seconds, .integer duration.nanoseconds.toNat] :=
    .cons (restored_word _) (.cons (restored_halfWord _) .nil)
  have distinct : (shape.members.map Member.name).Nodup := by decide
  have read := restored_record distinct members duration.settle_document
  exact read

theorem present (duration : Duration) : Present duration.document := present_object _

theorem ofDocument?_document (duration : Duration) :
    Duration.ofDocument? duration.document = some duration := by
  have short := duration.nanoseconds_lt
  simp [ofDocument?, document, values, short]

end Duration

/-! ## Paths -/

/-- An address that may be absent is read back. -/
theorem Ipv4.restored_option (address : Option Ipv4) :
    Restored (optionReader Ipv4.reader) 0 (ofOption Ipv4.document address) :=
  Document.restored_option address Ipv4.restored Ipv4.present

/-- A core that may be absent is read back. -/
theorem restored_core (core : Option UInt64) :
    Restored (optionReader wordReader) 0 (ofOption Document.word core) :=
  restored_option core restored_word fun core => present_natural core.toNat

theorem optional?_core (core : Option UInt64) :
    optional? word? (ofOption Document.word core) = some core :=
  optional?_ofOption word?_word (fun core => present_natural core.toNat) core

theorem Ipv4.optional?_document (address : Option Ipv4) :
    optional? Ipv4.ofDocument? (ofOption Ipv4.document address) = some address :=
  optional?_ofOption Ipv4.ofDocument?_document Ipv4.present address

namespace Endpoint

theorem restored (endpoint : Endpoint) : Restored Endpoint.reader 1 endpoint.document := by
  have members : AllRestored 0
      [ .required "bind" SocketAddress.reader,
        .required "dest" SocketAddress.reader,
        .nullable "interface" Ipv4.reader,
        .nullable "join_group" Ipv4.reader,
        .required "multicast_ttl" (integerReader 0 4294967295) ]
      [ endpoint.bind.document, endpoint.dest.document,
        ofOption Ipv4.document endpoint.interface, ofOption Ipv4.document endpoint.joinGroup,
        .integer endpoint.multicastTtl.toNat ] :=
    .cons endpoint.bind.restored (.cons endpoint.dest.restored
      (.cons (Ipv4.restored_option _) (.cons (Ipv4.restored_option _)
        (.cons (restored_halfWord _) .nil))))
  have read := restored_plain members (by decide)
  exact read

theorem ofDocument?_document (endpoint : Endpoint) :
    Endpoint.ofDocument? endpoint.document = some endpoint := by
  simp [ofDocument?, document, values, SocketAddress.ofDocument?_document,
    Ipv4.optional?_document]

end Endpoint

namespace PingPath

theorem restored (path : PingPath) : Restored PingPath.reader 2 path.document := by
  cases path with
  | datagrams endpoint =>
      have chosen : Chosen [⟨"Udp", some Endpoint.reader⟩, ⟨"Loopback", none⟩]
          ⟨"Udp", some Endpoint.reader⟩ := rfl
      exact restored_content chosen endpoint.restored
  | loopback =>
      have chosen : Chosen [⟨"Udp", some Endpoint.reader⟩, ⟨"Loopback", none⟩]
          ⟨"Loopback", none⟩ := rfl
      exact (restored_bare chosen).mono (Nat.zero_le _)

theorem ofDocument?_document (path : PingPath) :
    PingPath.ofDocument? path.document = some path := by
  cases path with
  | datagrams endpoint => simp [ofDocument?, document, Endpoint.ofDocument?_document]
  | loopback => rfl

end PingPath

/-! ## Settings -/

/-- A delay that may be absent is read back. -/
theorem Duration.restored_option (duration : Option Duration) :
    Restored (optionReader Duration.reader) 1 (ofOption Duration.document duration) :=
  Document.restored_option duration Duration.restored Duration.present

theorem Duration.optional?_document (duration : Option Duration) :
    optional? Duration.ofDocument? (ofOption Duration.document duration) = some duration :=
  optional?_ofOption Duration.ofDocument?_document Duration.present duration

namespace PingSettings

theorem restored (settings : PingSettings) :
    Restored PingSettings.reader 3 settings.document := by
  have word (value : UInt64) : Restored wordReader 2 (.word value) :=
    (restored_word value).mono (Nat.zero_le _)
  have core (core : Option UInt64) :
      Restored (optionReader wordReader) 2 (ofOption Document.word core) :=
    (restored_core core).mono (Nat.zero_le _)
  have duration (duration : Duration) : Restored Duration.reader 2 duration.document :=
    duration.restored.mono (Nat.le_succ _)
  have members : AllRestored 2
      [ .required "rate" wordReader,
        .required "num_msgs" wordReader,
        .required "msg_len" wordReader,
        .required "histogram" Geometry.reader,
        .required "warmup" Warmup.reader,
        .nullable "affinity_src" wordReader,
        .nullable "affinity_rcv" wordReader,
        .required "linger" Duration.reader,
        .required "resolution_pause" Duration.reader,
        .nullable "send_delay" Duration.reader,
        .required "transport" PingPath.reader ]
      [ .word settings.rate, .word settings.count, .word settings.length,
        settings.geometry.document, settings.warmup.document,
        ofOption Document.word settings.senderCpu, ofOption Document.word settings.receiverCpu,
        settings.linger.document, settings.pause.document,
        ofOption Duration.document settings.delay, settings.path.document ] :=
    .cons (word _) (.cons (word _) (.cons (word _)
      (.cons (settings.geometry.restored.mono (Nat.le_succ _))
        (.cons (settings.warmup.restored.mono (Nat.le_succ _))
          (.cons (core _) (.cons (core _) (.cons (duration _) (.cons (duration _)
            (.cons ((Duration.restored_option _).mono (Nat.le_succ _))
              (.cons settings.path.restored .nil))))))))))
  have read := restored_plain members (by decide)
  exact read

theorem ofDocument?_document (settings : PingSettings) :
    PingSettings.ofDocument? settings.document = some settings := by
  simp [ofDocument?, document, values, Geometry.ofDocument?_document,
    Warmup.ofDocument?_document, optional?_core, Duration.ofDocument?_document,
    Duration.optional?_document, PingPath.ofDocument?_document]

/-- The settings of a measurement are read from the text of their document. -/
theorem restores : Restores PingSettings.read (·.document.text) :=
  fun settings => readAs_text settings.restored (by decide) settings.ofDocument?_document

end PingSettings

namespace PongSettings

theorem restored (settings : PongSettings) :
    Restored PongSettings.reader 2 settings.document := by
  have members : AllRestored 1
      [ .required "transport" Endpoint.reader,
        .nullable "affinity_rcv" wordReader,
        .required "exit_on_eos" boolReader ]
      [ settings.endpoint.document, ofOption Document.word settings.receiverCpu,
        .bool settings.exitOnEnd ] :=
    .cons settings.endpoint.restored
      (.cons ((restored_core _).mono (Nat.zero_le _))
        (.cons ((restored_bool _).mono (Nat.zero_le _)) .nil))
  have read := restored_plain members (by decide)
  exact read

theorem ofDocument?_document (settings : PongSettings) :
    PongSettings.ofDocument? settings.document = some settings := by
  simp [ofDocument?, document, values, Endpoint.ofDocument?_document, optional?_core, bool?]

/-- The settings of a reflector are read from the text of their document. -/
theorem restores : Restores PongSettings.read (·.document.text) :=
  fun settings => readAs_text settings.restored (by decide) settings.ofDocument?_document

end PongSettings

namespace JitterSettings

theorem restored (settings : JitterSettings) :
    Restored JitterSettings.reader 2 settings.document := by
  have members : AllRestored 1
      [ .required "histogram" Geometry.reader,
        .nullable "affinity_cpu" wordReader,
        .required "group" SocketAddress.reader,
        .nullable "interface" Ipv4.reader,
        .required "duration" Duration.reader,
        .required "probe_warmup" Duration.reader,
        .required "probe_window" Duration.reader ]
      [ settings.geometry.document, ofOption Document.word settings.cpu,
        settings.group.document, ofOption Ipv4.document settings.interface,
        settings.duration.document, settings.probeWarmup.document,
        settings.probeWindow.document ] :=
    .cons settings.geometry.restored
      (.cons ((restored_core _).mono (Nat.zero_le _))
        (.cons (settings.group.restored.mono (Nat.zero_le _))
          (.cons ((Ipv4.restored_option _).mono (Nat.zero_le _))
            (.cons settings.duration.restored (.cons settings.probeWarmup.restored
              (.cons settings.probeWindow.restored .nil))))))
  have read := restored_plain members (by decide)
  exact read

theorem ofDocument?_document (settings : JitterSettings) :
    JitterSettings.ofDocument? settings.document = some settings := by
  simp [ofDocument?, document, values, Geometry.ofDocument?_document, optional?_core,
    SocketAddress.ofDocument?_document, Ipv4.optional?_document, Duration.ofDocument?_document]

/-- The settings of a jitter run are read from the text of their document. -/
theorem restores : Restores JitterSettings.read (·.document.text) :=
  fun settings => readAs_text settings.restored (by decide) settings.ofDocument?_document

end JitterSettings

/-- The settings of every kind of run are read back from the text of their document. Whatever
text settings are read from, the text that is written for them is read as the same settings,
and written once more it stays as it is. -/
theorem documents_restore_settings :
    Restores PingSettings.read (·.document.text) ∧
      Restores PongSettings.read (·.document.text) ∧
      Restores JitterSettings.read (·.document.text) ∧
      forall text,
        ((respell PingSettings.read (·.document.text) text >>= PingSettings.read) =
            PingSettings.read text ∧
          (respell PingSettings.read (·.document.text) text >>=
              respell PingSettings.read (·.document.text)) =
            respell PingSettings.read (·.document.text) text) ∧
        ((respell PongSettings.read (·.document.text) text >>= PongSettings.read) =
            PongSettings.read text ∧
          (respell PongSettings.read (·.document.text) text >>=
              respell PongSettings.read (·.document.text)) =
            respell PongSettings.read (·.document.text) text) ∧
        ((respell JitterSettings.read (·.document.text) text >>= JitterSettings.read) =
            JitterSettings.read text ∧
          (respell JitterSettings.read (·.document.text) text >>=
              respell JitterSettings.read (·.document.text)) =
            respell JitterSettings.read (·.document.text) text) := by
  refine ⟨PingSettings.restores, PongSettings.restores, JitterSettings.restores, fun text => ?_⟩
  refine ⟨⟨?_, ?_⟩, ⟨?_, ?_⟩, ⟨?_, ?_⟩⟩
  · exact PingSettings.restores.read_respell text
  · exact PingSettings.restores.respell_respell text
  · exact PongSettings.restores.read_respell text
  · exact PongSettings.restores.respell_respell text
  · exact JitterSettings.restores.read_respell text
  · exact JitterSettings.restores.respell_respell text

/-- Members in another order, a member that is not known, blanks, a list in place of an object, a
member left out and other spellings of addresses: all of it is gone from what is written. -/
example :
    let spelled := "\x7b \"exit_on_eos\" : true, \"colour\": [1, \x7b\"a\": null\x7d],\n" ++
      "\"transport\": [\"[0:0:1::%07]:080\", \"1.2.3.4:5\", null, \"239.0.0.1\", 15] \x7d"
    let written := "\x7b\"transport\":\x7b\"bind\":\"[0:0:1::%7]:80\",\"dest\":\"1.2.3.4:5\"," ++
      "\"interface\":null,\"join_group\":\"239.0.0.1\",\"multicast_ttl\":15\x7d," ++
      "\"affinity_rcv\":null,\"exit_on_eos\":true\x7d"
    (respell PongSettings.read (·.document.text) spelled).toOption = some written := by
  decide +kernel

end LatencyMeter

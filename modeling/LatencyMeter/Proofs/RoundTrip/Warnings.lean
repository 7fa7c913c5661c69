import LatencyMeter.Proofs.RoundTrip.StreamCounts
import Mathlib.Data.Nat.Log
import Mathlib.Data.Nat.Size

/-!
# Warnings about ignored echoes

An echo that confirms no message is ignored, and a warning about it is logged if the
count of ignored echoes has become a power of two. So the log of a stream has a warning
for the first, the second, the fourth, the eighth ignored echo and so on, and nothing
else that a stream brings adds such a warning or puts one off.

What is ignored is read off the judgements on the messages of the stream, and what is
warned about off the log, where warnings about ignored echoes are told from all other
diagnostics by their message.
-/

namespace LatencyMeter

/-! ## Powers of two -/

theorem RoundTrip.isPowerOfTwo_iff (number : UInt64) :
    isPowerOfTwo number = true ↔ exists power, number.toNat = 2 ^ power := by
  have same : isPowerOfTwo number = true ↔
      number.toNat ≠ 0 ∧ number.toNat &&& (number.toNat - 1) = 0 := by
    by_cases zero : number = 0
    · simp [isPowerOfTwo, zero]
    · have nonzero : number.toNat ≠ 0 := fun none => zero (UInt64.toNat_inj.mp none)
      have positive : (1 : UInt64) ≤ number := by
        rw [UInt64.le_iff_toNat_le]
        exact Nat.pos_of_ne_zero nonzero
      have less : (number - 1).toNat = number.toNat - 1 := UInt64.toNat_sub_of_le _ _ positive
      simp [isPowerOfTwo, zero, nonzero, ← UInt64.toNat_inj, less]
  exact same.trans Nat.ne_zero_and_sub_one_eq_zero_iff_isPowerOfTwo

/-! ## What is warned about -/

namespace Judgement

/-- The warning about an ignored echo, given the count of ignored echoes up to it. -/
def warning (judgement : Judgement) (total : UInt64) : Log.Entry :=
  (RoundTrip.Notice.ignored judgement.echo.header.number judgement.verdict total).entry

/-- The warnings about some ignored echoes: those whose place, as a word holds it, is a
power of two. -/
def warnings (ignored : List Judgement) : List Log.Entry :=
  (ignored.zipIdx 1).filterMap fun (judgement, place) =>
    if RoundTrip.isPowerOfTwo (UInt64.ofNat place) then
      some (judgement.warning (UInt64.ofNat place))
    else
      none

theorem warnings_append_singleton (earlier : List Judgement) (latest : Judgement) :
    warnings (earlier ++ [latest]) =
      warnings earlier ++
        (if RoundTrip.isPowerOfTwo (UInt64.ofNat (earlier.length + 1)) then
          [latest.warning (UInt64.ofNat (earlier.length + 1))]
        else
          []) := by
  unfold warnings
  rw [List.zipIdx_append, List.filterMap_append, Nat.add_comm 1]
  congr 1
  change List.filterMap _ [(latest, earlier.length + 1)] = _
  split
  · next power => simp only [List.filterMap_cons, List.filterMap_nil, if_pos power]
  · next other => simp only [List.filterMap_cons, List.filterMap_nil, if_neg other]

/-- The warnings are about the ignored echoes whose places are the powers of two. -/
def WarnedAtPowers (ignored : List Judgement) (warned : List Log.Entry) : Prop :=
  forall power, warned[power]? =
    ignored[2 ^ power - 1]?.map fun judgement => judgement.warning (UInt64.ofNat (2 ^ power))

namespace WarnedAtPowers

variable {ignored : List Judgement} {warned : List Log.Entry}

theorem lt_length_iff (powers : WarnedAtPowers ignored warned) (power : Nat) :
    power < warned.length ↔ 2 ^ power ≤ ignored.length := by
  have positive := Nat.two_pow_pos power
  have missing : warned.length ≤ power ↔ ignored.length ≤ 2 ^ power - 1 := by
    rw [← List.getElem?_eq_none_iff, powers power, Option.map_eq_none_iff,
      List.getElem?_eq_none_iff]
  omega

/-- There are as many warnings as powers of two up to the number of ignored echoes. -/
theorem length_eq (powers : WarnedAtPowers ignored warned) :
    warned.length = if ignored.length = 0 then 0 else Nat.log 2 ignored.length + 1 := by
  split
  · next none =>
    have first := powers.lt_length_iff 0
    omega
  · next some =>
    have same (power : Nat) : power < warned.length ↔ power < Nat.log 2 ignored.length + 1 := by
      rw [powers.lt_length_iff, Nat.lt_succ_iff, Nat.le_log_iff_pow_le (by decide) some]
    have below := same warned.length
    have above := same (Nat.log 2 ignored.length + 1)
    omega

/-- One more ignored echo is warned about, if its place is a power of two. -/
theorem concat
    (powers : WarnedAtPowers ignored warned)
    {latest : Judgement}
    {exponent : Nat}
    (place : ignored.length + 1 = 2 ^ exponent) :
    WarnedAtPowers (ignored ++ [latest])
      (warned ++ [latest.warning (UInt64.ofNat (ignored.length + 1))]) := by
  have places := powers.lt_length_iff
  have smaller {power : Nat} (below : power < exponent) : 2 ^ power ≤ ignored.length := by
    have less : 2 ^ power < 2 ^ exponent := Nat.pow_lt_pow_right (by decide) below
    omega
  have length : warned.length = exponent := by
    have notAbove := places exponent
    by_contra other
    have fewer : warned.length < exponent := by omega
    exact Nat.lt_irrefl _ ((places _).mpr (smaller fewer))
  intro power
  rcases Nat.lt_trichotomy power exponent with below | rfl | above
  · have known := smaller below
    have positive := Nat.two_pow_pos power
    rw [List.getElem?_append_left (by omega), List.getElem?_append_left (by omega), powers power]
  · have last : 2 ^ power - 1 = ignored.length := by omega
    rw [last, ← length, List.getElem?_concat_length, List.getElem?_concat_length, length, place]
    rfl
  · have more : 2 ^ exponent < 2 ^ power := Nat.pow_lt_pow_right (by decide) above
    rw [List.getElem?_eq_none, List.getElem?_eq_none]
    · rfl
    · rw [List.length_append, List.length_singleton]
      omega
    · rw [List.length_append, List.length_singleton]
      omega

/-- One more ignored echo is passed over, if its place is no power of two. -/
theorem pass
    (powers : WarnedAtPowers ignored warned)
    {latest : Judgement}
    (place : forall exponent, ignored.length + 1 ≠ 2 ^ exponent) :
    WarnedAtPowers (ignored ++ [latest]) warned := by
  intro power
  have positive := Nat.two_pow_pos power
  have other := place power
  rw [powers power]
  by_cases known : 2 ^ power - 1 < ignored.length
  · rw [List.getElem?_append_left known]
  · rw [List.getElem?_eq_none, List.getElem?_eq_none]
    · rw [List.length_append, List.length_singleton]
      omega
    · omega

end WarnedAtPowers

/-- As long as a word holds the count of ignored echoes, the warnings are about those whose
places are the powers of two. -/
theorem warnedAtPowers_warnings (ignored : List Judgement) (few : ignored.length < 2 ^ 64) :
    WarnedAtPowers ignored (warnings ignored) := by
  induction ignored using List.reverseRecOn with
  | nil =>
      intro power
      rfl
  | append_singleton earlier latest hypothesis =>
      rw [List.length_append, List.length_singleton] at few
      have powers := hypothesis (by omega)
      have total : (UInt64.ofNat (earlier.length + 1)).toNat = earlier.length + 1 :=
        UInt64.toNat_ofNat_of_lt' few
      have decides := RoundTrip.isPowerOfTwo_iff (UInt64.ofNat (earlier.length + 1))
      rw [total] at decides
      rw [warnings_append_singleton]
      split
      · next warns =>
        obtain ⟨exponent, place⟩ := decides.mp warns
        exact powers.concat place
      · next silent =>
        rw [List.append_nil]
        exact powers.pass fun exponent place => silent (decides.mpr ⟨exponent, place⟩)

end Judgement

/-! ## Logs -/

/-- Whether a diagnostic is a warning about an ignored echo. -/
def Log.Entry.isAboutIgnored (entry : Log.Entry) : Bool :=
  entry.message = "ignoring echo that matches no outstanding message"

namespace Reporter

variable (reporter : Reporter)

/-- The warnings about ignored echoes that were logged. -/
def warnings : List Log.Entry := reporter.log.toList.filter Log.Entry.isAboutIgnored

theorem warnings_note (entry : Log.Entry) :
    (reporter.note entry).warnings =
      reporter.warnings ++ [entry].filter Log.Entry.isAboutIgnored := by
  unfold warnings note
  rw [Array.toList_push, List.filter_append]

theorem warnings_bindThread : reporter.bindThread.warnings = reporter.warnings := by
  unfold bindThread
  split
  · rfl
  · dsimp only
    split
    · rfl
    · rw [warnings_note]
      exact List.append_nil _

theorem warnings_writeLine
    {complaint : String}
    (other : complaint ≠ "ignoring echo that matches no outstanding message")
    (line : String) :
    (reporter.writeLine complaint line).warnings = reporter.warnings := by
  unfold writeLine
  split
  · rfl
  · rw [warnings_note, List.filter_cons_of_neg (by simpa [Log.Entry.isAboutIgnored] using other)]
    exact List.append_nil _

/-- Attending to a stream is no reason for a warning about an ignored echo. -/
theorem warnings_attend (counts : ReceiveCounts) (event : StreamEvent) :
    (reporter.attend counts event).warnings = reporter.warnings := by
  cases event with
  | beginOfStream source =>
      exact (reporter.bindThread.warnings_writeLine (by decide) _).trans
        reporter.warnings_bindThread
  | endOfStream source => exact reporter.warnings_writeLine (by decide) _
  | data payload receivedAt source retransmit => rfl
  | loss => rfl

end Reporter

namespace RoundTrip

variable {state : RoundTrip} {header : Header} {payload : Payload} {receivedAt : UInt64}
  {source : Option SocketAddress} {retransmit : Bool}

theorem notice_ignore (state : RoundTrip) (number : UInt64) (verdict : EchoVerdict) :
    (state.ignore number verdict).notice =
      if isPowerOfTwo (state.counts.ignored + 1) then
        some (.ignored number verdict (state.counts.ignored + 1))
      else
        none := rfl

/-- A step that counts no ignored echo and warns about none. -/
structure Step.IgnoresNone (step : Step) (before : RoundTrip) : Prop where
  counts : step.state.counts.ignored = before.counts.ignored
  notice : forall notice, step.notice = some notice -> notice.entry.isAboutIgnored = false

theorem ignoresNone_sample : (state.sample header receivedAt).IgnoresNone state := by
  unfold sample
  split
  · split
    · exact ⟨rfl, nofun⟩
    · refine ⟨rfl, ?_⟩
      intro notice noticed
      cases noticed
      rfl
  · exact ⟨rfl, nofun⟩

theorem ignoresNone_accept :
    (state.accept header receivedAt retransmit).IgnoresNone state := by
  unfold accept
  dsimp only
  split
  · exact ⟨rfl, nofun⟩
  · exact ⟨ignoresNone_sample.counts, ignoresNone_sample.notice⟩

/-- A message without a header and a fresh echo are not ignored. -/
theorem ignoresNone_onData
    (accepted : forall header, Header.decode payload = .ok header ->
      (state.judge ⟨header, receivedAt, retransmit⟩).accepted = true) :
    (state.onData payload receivedAt retransmit).IgnoresNone state := by
  cases decoded : Header.decode payload with
  | error fault =>
      rw [onData_foreign decoded]
      refine ⟨rfl, ?_⟩
      intro notice noticed
      cases noticed
      rfl
  | ok header =>
      rw [onData_fresh decoded (of_decide_eq_true (accepted header decoded))]
      exact ⟨ignoresNone_accept.counts, ignoresNone_accept.notice⟩

end RoundTrip

namespace Listener

variable {listener : Listener} {event : StreamEvent}

theorem warnings_deliver (listener : Listener) (event : StreamEvent) :
    (listener.deliver event).2.reporter.warnings =
      listener.reporter.warnings ++
        ((listener.roundTrip.deliver event).notice.toList.map RoundTrip.Notice.entry).filter
          Log.Entry.isAboutIgnored := by
  have attended := listener.reporter.warnings_attend listener.roundTrip.counts event
  unfold deliver
  dsimp only
  split
  · next none =>
    rw [none, attended]
    exact (List.append_nil _).symm
  · next notice noticed =>
    rw [noticed, Reporter.warnings_note, attended]
    rfl

theorem warnings_deliver_of_ignoresNone
    (none : (listener.roundTrip.deliver event).IgnoresNone listener.roundTrip) :
    (listener.deliver event).2.reporter.warnings = listener.reporter.warnings := by
  rw [warnings_deliver]
  cases noticed : (listener.roundTrip.deliver event).notice with
  | none => exact List.append_nil _
  | some notice =>
      have other := none.notice notice noticed
      simp [other]

end Listener

/-! ## Streams -/

namespace Account

variable {account : Account} {item : Traffic}

/-- The warnings about ignored echoes that were logged. -/
def warnings (account : Account) : List Log.Entry := account.listener.reporter.warnings

/-- The judgements on the messages of some traffic that were ignored. -/
def ignored (account : Account) (traffic : List Traffic) : List Judgement :=
  (account.judgements traffic).filter fun judgement => !judgement.accepted

theorem ignored_concat_of_ignored
    {earlier : List Traffic}
    {judgement : Judgement}
    (judged : (earlier.foldl step account).judging? item = some judgement)
    (known : judgement.accepted = false) :
    account.ignored (earlier ++ [item]) = account.ignored earlier ++ [judgement] := by
  rw [ignored, judgements_append_singleton, judged, List.filter_append]
  exact congrArg _ (List.filter_cons_of_pos (by simp [known]))

theorem ignored_concat_of_not_ignored
    {earlier : List Traffic}
    (accepted : forall judgement,
      (earlier.foldl step account).judging? item = some judgement -> judgement.accepted = true) :
    account.ignored (earlier ++ [item]) = account.ignored earlier := by
  have none : ((earlier.foldl step account).judging? item).toList.filter
      (fun judgement => !judgement.accepted) = [] := by
    apply List.filter_eq_nil_iff.mpr
    intro judgement judged
    simp [accepted judgement (Option.mem_toList.mp judged)]
  rw [ignored, judgements_append_singleton, List.filter_append, none, List.append_nil]
  rfl

/-- An ignored echo is counted, and warned about if the count is a power of two. -/
theorem step_of_ignored
    {judgement : Judgement}
    (judged : account.judging? item = some judgement)
    (known : judgement.accepted = false) :
    let total := account.listener.roundTrip.counts.ignored + 1
    (account.step item).listener.roundTrip.counts.ignored = total ∧
      (account.step item).warnings =
        account.warnings ++
          if RoundTrip.isPowerOfTwo total then [judgement.warning total] else [] := by
  intro total
  obtain ⟨echo, echoes, rfl⟩ := Option.map_eq_some_iff.mp judged
  unfold Traffic.echo? at echoes
  split at echoes
  · next payload receivedAt source retransmit =>
    split at echoes
    · next header decoded =>
      cases echoes
      let state := account.listener.roundTrip
      have handled : state.deliver (.data payload receivedAt source retransmit) =
          state.ignore header.number (state.judge ⟨header, receivedAt, retransmit⟩).verdict :=
        RoundTrip.onData_known decoded (of_decide_eq_false known)
      constructor
      · rw [roundTrip_step_delivered, handled]
        rfl
      · refine (account.listener.warnings_deliver _).trans (congrArg _ ?_)
        rw [handled, RoundTrip.notice_ignore]
        split
        · rfl
        · rfl
    · cases echoes
  · cases echoes

/-- Whatever is neither the beginning of a stream nor an ignored echo adds no warning about
an ignored echo and leaves their count alone. -/
theorem step_of_not_ignored
    (goesOn : item.beginsStream = false)
    (accepted : forall judgement, account.judging? item = some judgement ->
      judgement.accepted = true) :
    (account.step item).listener.roundTrip.counts.ignored =
        account.listener.roundTrip.counts.ignored ∧
      (account.step item).warnings = account.warnings := by
  have delivered {event : StreamEvent}
      (none : (account.listener.roundTrip.deliver event).IgnoresNone account.listener.roundTrip) :
      (account.step (.delivered event)).listener.roundTrip.counts.ignored =
          account.listener.roundTrip.counts.ignored ∧
        (account.step (.delivered event)).warnings = account.warnings :=
    ⟨none.counts, Listener.warnings_deliver_of_ignoresNone none⟩
  cases item with
  | sent => exact ⟨rfl, rfl⟩
  | delivered event =>
      cases event with
      | beginOfStream source => cases goesOn
      | loss => exact delivered ⟨rfl, nofun⟩
      | endOfStream source => exact delivered ⟨rfl, nofun⟩
      | data payload receivedAt source retransmit =>
          apply delivered
          apply RoundTrip.ignoresNone_onData
          intro header decoded
          apply accepted
          simp [judging?, Traffic.echo?, decoded]

/-- The count of ignored echoes and the warnings about them, from the beginning of a stream
on. -/
theorem warnings_foldl
    (blank : account.listener.roundTrip.counts = ReceiveCounts.zero)
    {stream : List Traffic}
    (undivided : forall item, item ∈ stream -> item.beginsStream = false) :
    (stream.foldl step account).listener.roundTrip.counts.ignored =
        UInt64.ofNat (account.ignored stream).length ∧
      (stream.foldl step account).warnings =
        account.warnings ++ Judgement.warnings (account.ignored stream) := by
  induction stream using List.reverseRecOn with
  | nil =>
      constructor
      · rw [List.foldl_nil, blank]
        rfl
      · exact (List.append_nil _).symm
  | append_singleton earlier latest hypothesis =>
      obtain ⟨count, logged⟩ := hypothesis
        fun item member => undivided item (List.mem_append_left _ member)
      have goesOn : latest.beginsStream = false := undivided latest (by simp)
      rw [List.foldl_append, List.foldl_cons, List.foldl_nil]
      by_cases accepted : forall judgement,
          (earlier.foldl step account).judging? latest = some judgement ->
            judgement.accepted = true
      · obtain ⟨same, quiet⟩ := step_of_not_ignored goesOn accepted
        rw [ignored_concat_of_not_ignored accepted, same, quiet]
        exact ⟨count, logged⟩
      · obtain ⟨judgement, ignores⟩ := not_forall.mp accepted
        obtain ⟨judged, refused⟩ := Classical.not_imp.mp ignores
        have known : judgement.accepted = false := Bool.eq_false_iff.mpr refused
        obtain ⟨counted, warned⟩ := step_of_ignored judged known
        have total := UInt64.ofNat_add (account.ignored earlier).length 1
        rw [ignored_concat_of_ignored judged known, Judgement.warnings_append_singleton,
          List.length_append, List.length_singleton, total, counted, warned, count, logged,
          List.append_assoc]
        exact ⟨rfl, rfl⟩

/-- Since a stream began, the warnings that were logged about ignored echoes are those about
the first, the second, the fourth ignored echo and so on, as long as a word holds their
count. Each bears the number of the echo, the verdict on it and the count up to it. Nothing
else adds such a warning, or changes which of the ignored echoes are warned about. -/
theorem ignored_echoes_are_warned_about_at_powers
    (histogram : Histogram)
    (reporter : Reporter)
    (traffic : List Traffic) :
    let opening := ofTraffic histogram reporter (Traffic.beforeStream traffic)
    let stream := Traffic.sinceStream traffic
    let account := ofTraffic histogram reporter traffic
    let ignored := opening.ignored stream
    let warned := Judgement.warnings ignored
    account.warnings = opening.warnings ++ warned ∧
      account.listener.roundTrip.counts.ignored = UInt64.ofNat ignored.length ∧
      (ignored.length < 2 ^ 64 ->
        warned.length = (if ignored.length = 0 then 0 else Nat.log 2 ignored.length + 1) ∧
          forall power, warned[power]? =
            ignored[2 ^ power - 1]?.map fun judgement =>
              judgement.warning (UInt64.ofNat (2 ^ power))) ∧
      (opening.judgements stream).map Judgement.echo = stream.filterMap Traffic.echo? ∧
      forall item, item.beginsStream = false ->
        (forall judgement, account.judging? item = some judgement ->
          judgement.accepted = true) ->
          (account.step item).warnings = account.warnings ∧
            opening.ignored (stream ++ [item]) = ignored := by
  intro opening stream account ignored warned
  have split : account = stream.foldl step opening := by
    change List.foldl step _ traffic = List.foldl step (List.foldl step _ _) _
    rw [← List.foldl_append, Traffic.beforeStream_append_sinceStream]
  obtain ⟨count, logged⟩ := warnings_foldl (counts_beforeStream histogram reporter traffic)
    (fun item => Traffic.not_beginsStream_of_mem)
  change (stream.foldl step opening).listener.roundTrip.counts.ignored = _ at count
  change (stream.foldl step opening).warnings = _ at logged
  rw [← split] at count logged
  refine ⟨logged, count, ?_, map_echo_judgements opening stream, ?_⟩
  · intro few
    have powers := Judgement.warnedAtPowers_warnings ignored few
    exact ⟨powers.length_eq, powers⟩
  · intro item goesOn accepted
    refine ⟨(step_of_not_ignored goesOn accepted).2, ?_⟩
    apply ignored_concat_of_not_ignored
    rwa [← split]

/-- Five echoes are ignored, between two fresh ones and a payload without a header. -/
theorem three_warnings_about_five_ignored_echoes :
    let echo (number : UInt64) : Traffic :=
      .delivered (.data (Header.atFront ⟨number, 0, 0⟩ (List.replicate 24 0)) 7 none false)
    let traffic := [.sent, .sent, echo 5, .delivered (.beginOfStream none), echo 0, echo 0,
      .delivered (.data [1, 2, 3] 7 none false), echo 9, echo 1, echo 0, echo 1, echo 0]
    let reporter : Reporter := ⟨none, ⟨fun _ _ => true, []⟩, .willing, #[]⟩
    let opening := ofTraffic default reporter (Traffic.beforeStream traffic)
    let warned := Judgement.warnings (opening.ignored (Traffic.sinceStream traffic))
    (opening.ignored (Traffic.sinceStream traffic)).length = 5 ∧
      warned.length = Nat.log 2 5 + 1 ∧
      (ofTraffic default reporter traffic).warnings = opening.warnings ++ warned ∧
      warned.map Log.Entry.fields =
        [[("msg_num", "0"), ("reason", "Duplicate"), ("ignored", "1")],
          [("msg_num", "9"), ("reason", "Unsent"), ("ignored", "2")],
          [("msg_num", "1"), ("reason", "Duplicate"), ("ignored", "4")]] := by
  intro echo traffic reporter opening warned
  have five : (opening.ignored (Traffic.sinceStream traffic)).length = 5 := by decide +kernel
  obtain ⟨logged, _, powers, _⟩ :=
    ignored_echoes_are_warned_about_at_powers default reporter traffic
  have few : (opening.ignored (Traffic.sinceStream traffic)).length < 2 ^ 64 := by
    rw [five]
    decide
  have count : warned.length = Nat.log 2 5 + 1 := (powers few).1.trans (by rw [five]; rfl)
  refine ⟨five, count, logged, ?_⟩
  decide +kernel

end Account
end LatencyMeter

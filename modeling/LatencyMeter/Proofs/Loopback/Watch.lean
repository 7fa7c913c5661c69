import LatencyMeter.Proofs.Loopback.Answer
import LatencyMeter.Proofs.Session.Phases
import LatencyMeter.Threads

/-!
# Watching a measurement

An observer of a measurement on a loopback path keeps its course and the messages that its
measurement has heard, and steers nothing: the two threads take turns in any order, and the
observer looks on. A turn of the main thread is one request, and one of the receive thread is
one of its steps. So there may be any number of requests between a wait of the receive thread
that was in vain and its look whether it is to stop.

Every turn keeps what is known of a watched measurement: what is left of it follows its
protocol, and its host serves it. Messages are lost in one turn only, in which the receive
thread is asked to stop between such a wait and such a look.
-/

namespace LatencyMeter

/-- The messages that are lost in a turn: the main thread asks the receive thread to stop, which
has waited in vain and has not looked yet whether it is to stop, with these messages in its
queue. -/
def Threads.forsaken (threads : Threads α) (turn : Turn) : List Payload :=
  match turn, threads.main with
  | .main, .ask .stop _ => if threads.host.waitedInVain then threads.host.queue else []
  | _, _ => []

/-- What is lost in a turn is all that is in the queue, or nothing. -/
theorem Threads.forsaken_eq_nil_or_queue (threads : Threads α) (turn : Turn) :
    threads.forsaken turn = [] ∨ threads.forsaken turn = threads.host.queue := by
  unfold forsaken
  split
  · exact (ite_eq_or_eq _ _ _).symm
  · exact .inl rfl

/-- A main thread that has come to its end loses nothing. -/
theorem Threads.forsaken_of_done
    {threads : Threads α}
    {outcome : Except Failure α}
    (ended : threads.main = .done outcome)
    (turn : Turn) :
    threads.forsaken turn = [] := by
  unfold forsaken
  rw [ended]
  cases turn <;> rfl

/-- Once the receive thread was asked to stop, what was forsaken by this is lost, or what was
lost before if nothing was forsaken. -/
theorem Threads.lostAfter_stop
    {threads : Threads α}
    {next : Unit -> Program Session.Request Session.Request.Answer (Except Failure α)}
    (stops : threads.main = .ask .stop next) :
    threads.host.lostAfter .stop =
      if threads.forsaken .main = [] then threads.host.lost else threads.forsaken .main := by
  unfold forsaken
  rw [stops]
  dsimp only [Host.lostAfter]
  cases threads.host.waitedInVain with
  | false => rfl
  | true =>
      simp only [if_true]
      split
      · next empty =>
        -- From an empty queue nothing was lost before either.
        have nothing := threads.host.lost_eq_nil_or_queue
        rw [empty, or_self] at nothing
        rw [empty, nothing]
      · rfl

/-- A measurement and what an observer has seen of it. -/
structure Watch where
  threads : Threads PingResult
  course : Course
  pickups : List Pickup

namespace Watch

/-- A measurement is about to begin. -/
def start (settings : PingSettings) (steps : Nat) (host : Host) : Watch :=
  ⟨Threads.start (settings.session steps) host, Course.blank, []⟩

/-- The course after the main thread was given a turn. -/
def nextCourse (watch : Watch) : Course :=
  match watch.threads.main with
  | .ask request _ =>
      match watch.threads.host.answer? request with
      | some (given, _) => watch.course.after request given
      | none => watch.course
  | .done _ | .unfinished => watch.course

/-- A turn of one of the two threads, as the observer sees it. -/
def act (watch : Watch) (turn : Turn) : Watch where
  threads := watch.threads.step turn
  course :=
    match turn with
    | .main => watch.nextCourse
    | .receiver => watch.course
  pickups :=
    match turn with
    | .main => watch.pickups
    | .receiver => watch.pickups ++ watch.threads.host.held

/-- The measurement after some turns in the order of a schedule. -/
def after (watch : Watch) (schedule : Nat -> Turn) : Nat -> Watch
  | 0 => watch
  | moment + 1 => (watch.after schedule moment).act (schedule moment)

/-- The observer leaves the threads alone. -/
theorem threads_after (watch : Watch) (schedule : Nat -> Turn) (moment : Nat) :
    (watch.after schedule moment).threads =
      watch.threads.runTurns ((List.range moment).map schedule) := by
  induction moment with
  | zero => rfl
  | succ moment hypothesis =>
      unfold Threads.runTurns at hypothesis ⊢
      rw [List.range_succ, List.map_append, List.foldl_append, ← hypothesis]
      rfl

variable {watch : Watch} {request : Session.Request} {given : request.Answer} {later : Host}
  {next : request.Answer ->
    Program Session.Request Session.Request.Answer (Except Failure PingResult)}

/-- A request that is answered is followed by what goes on with the answer. -/
theorem act_main_of_answered
    (asks : watch.threads.main = .ask request next)
    (answered : watch.threads.host.answer? request = some (given, later)) :
    watch.act .main =
      ⟨⟨next given, later⟩, watch.course.after request given, watch.pickups⟩ := by
  unfold act Threads.step nextCourse
  rw [asks]
  dsimp only
  rw [answered]

/-- A main thread that has to wait stays where it is. -/
theorem act_main_of_waiting
    (asks : watch.threads.main = .ask request next)
    (waits : watch.threads.host.answer? request = none) :
    watch.act .main = watch := by
  unfold act Threads.step nextCourse
  rw [asks]
  dsimp only
  rw [waits]

/-- A main thread that asks nothing stays where it is. -/
theorem act_main_of_silent
    (silent : forall request next, watch.threads.main ≠ .ask request next) :
    watch.act .main = watch := by
  cases main : watch.threads.main with
  | ask request next => exact absurd main (silent request next)
  | done | unfinished =>
      unfold act Threads.step nextCourse
      rw [main]

/-- A main thread that asks nothing stays where it is, however many turns there are. -/
theorem main_after_of_silent
    {schedule : Nat -> Turn}
    {now later : Nat}
    (silent : forall request next,
      (watch.after schedule now).threads.main ≠ .ask request next)
    (ahead : now ≤ later) :
    (watch.after schedule later).threads.main = (watch.after schedule now).threads.main := by
  induction ahead with
  | refl => rfl
  | step _ hypothesis =>
      rw [after]
      cases schedule _ with
      | receiver => exact hypothesis
      | main => rwa [act_main_of_silent (hypothesis ▸ silent)]

end Watch

/-! ## What is known of a watched measurement -/

/-- A measurement inside the process whose main thread binds no core and whose messages can
be counted. -/
structure PingSettings.IsLocal (settings : PingSettings) : Prop where
  usable : settings.Usable
  path : settings.path = .loopback
  unbound : settings.senderCpu = none
  room : settings.messageCount < 2 ^ 63

/-- The buckets of a histogram that can be made have a width. -/
theorem PingSettings.Usable.bucketWidth_pos
    {settings : PingSettings}
    (usable : settings.Usable) :
    0 < settings.geometry.bucketWidth := by
  obtain ⟨histogram, created⟩ := usable.histogram
  unfold Histogram.create at created
  split at created
  · contradiction
  · next valid => exact UInt64.pos_iff_ne_zero.mpr fun zero => valid (.inr zero)

/-- What is left of a measurement follows its protocol, and its host serves it. -/
structure Watch.Sound (watch : Watch) (settings : PingSettings) : Prop where
  follows : settings.protocol.Follows
    (Protocol.Outcome (Course.Returned settings) (Course.Broken settings)) watch.course
    watch.threads.main
  cooperates : watch.threads.host.Cooperates
  fine : watch.course.trouble = false
  serves : watch.threads.host.Serves settings watch.course watch.pickups

namespace Watch.Sound

variable {watch : Watch} {settings : PingSettings} {request : Session.Request}
  {next : request.Answer ->
    Program Session.Request Session.Request.Answer (Except Failure PingResult)}

theorem start
    (isLocal : settings.IsLocal)
    (steps : Nat)
    {host : Host}
    (cooperates : host.Cooperates)
    (receiver : host.receiver = none) :
    (Watch.start settings steps host).Sound settings where
  follows := PingSettings.follows_session isLocal.usable steps
  cooperates := cooperates
  fine := rfl
  serves := .unopened receiver rfl rfl

/-- An answered request leaves everything as it should be. -/
theorem answer
    (isLocal : settings.IsLocal)
    (sound : watch.Sound settings)
    (asks : watch.threads.main = .ask request next)
    {given : request.Answer}
    {later : Host}
    (answered : watch.threads.host.answer? request = some (given, later)) :
    Watch.Sound ⟨⟨next given, later⟩, watch.course.after request given, watch.pickups⟩
      settings := by
  have follows := sound.follows
  rw [asks] at follows
  obtain ⟨mayAsk, continues⟩ := follows
  -- The protocol allows the request, the host answers it credibly, so the protocol goes on.
  obtain ⟨credible, cooperates, fine, serves⟩ := sound.serves.answer isLocal.room sound.cooperates
    isLocal.path isLocal.unbound sound.fine mayAsk answered
  exact ⟨continues given credible, cooperates, fine, serves⟩

/-- Every turn leaves everything as it should be. -/
theorem act
    (isLocal : settings.IsLocal)
    (sound : watch.Sound settings)
    (turn : Turn) :
    (watch.act turn).Sound settings := by
  cases turn with
  | receiver =>
      obtain ⟨cooperates, serves, _⟩ := sound.serves.receive isLocal.usable.bucketWidth_pos
        isLocal.room sound.cooperates
      exact ⟨sound.follows, cooperates, sound.fine, serves⟩
  | main =>
      cases main : watch.threads.main with
      | done | unfinished => rwa [act_main_of_silent (by simp [main])]
      | ask request next =>
          cases answered : watch.threads.host.answer? request with
          | none => rwa [act_main_of_waiting main answered]
          | some answer =>
              rw [act_main_of_answered main answered]
              exact sound.answer isLocal main answered

/-- In whatever order the threads take turns, everything stays as it should be. -/
theorem after
    (isLocal : settings.IsLocal)
    (sound : watch.Sound settings)
    (schedule : Nat -> Turn)
    (moment : Nat) :
    (watch.after schedule moment).Sound settings := by
  induction moment with
  | zero => exact sound
  | succ moment hypothesis => exact hypothesis.act isLocal (schedule moment)

/-! ## Lost messages -/

/-- In one turn nothing is lost but what is forsaken in it. -/
theorem lost_act (sound : watch.Sound settings) (turn : Turn) :
    (watch.act turn).threads.host.lost =
      if watch.threads.forsaken turn = [] then watch.threads.host.lost
      else watch.threads.forsaken turn := by
  cases turn with
  | receiver => exact watch.threads.host.lost_receive
  | main =>
      cases main : watch.threads.main with
      | done | unfinished =>
          unfold Threads.forsaken
          rw [act_main_of_silent (by simp [main]), main, if_pos rfl]
      | ask request next =>
          have follows := sound.follows
          rw [main] at follows
          cases answered : watch.threads.host.answer? request with
          | none =>
              unfold Threads.forsaken
              rw [act_main_of_waiting main answered, main]
              cases request with
              | stop => contradiction
              | _ => rw [if_pos rfl]
          | some answer =>
              rw [act_main_of_answered main answered]
              have lost := sound.serves.lost_answer follows.1 answered
              cases request with
              | stop => exact lost.trans (Threads.lostAfter_stop main)
              | _ =>
                  unfold Threads.forsaken
                  rw [main]
                  exact lost

/-- What is lost is all that is ever lost. -/
theorem lost_act_of_lost
    (sound : watch.Sound settings)
    (loses : watch.threads.host.lost ≠ [])
    (turn : Turn) :
    (watch.act turn).threads.host.lost = watch.threads.host.lost := by
  rw [sound.lost_act turn]
  split
  · rfl
  · next forsakes =>
    rw [(watch.threads.forsaken_eq_nil_or_queue turn).resolve_left forsakes,
      watch.threads.host.lost_eq_nil_or_queue.resolve_left loses]

/-- Nothing is lost as long as nothing is forsaken in any turn. -/
theorem lost_after_of_none
    (isLocal : settings.IsLocal)
    (sound : watch.Sound settings)
    {schedule : Nat -> Turn}
    {moment : Nat}
    (none : forall earlier, earlier < moment ->
      (watch.after schedule earlier).threads.forsaken (schedule earlier) = []) :
    (watch.after schedule moment).threads.host.lost = watch.threads.host.lost := by
  induction moment with
  | zero => rfl
  | succ moment hypothesis =>
      rw [Watch.after, (sound.after isLocal schedule moment).lost_act,
        if_pos (none moment (Nat.lt_succ_self moment))]
      exact hypothesis fun earlier before => none earlier (Nat.lt_succ_of_lt before)

/-- What was forsaken in a turn is what is lost from then on. -/
theorem lost_after_of_forsaken
    (isLocal : settings.IsLocal)
    (sound : watch.Sound settings)
    {schedule : Nat -> Turn}
    {now later : Nat}
    (forsakes : (watch.after schedule now).threads.forsaken (schedule now) ≠ [])
    (ahead : now < later) :
    (watch.after schedule later).threads.host.lost =
      (watch.after schedule now).threads.forsaken (schedule now) := by
  induction ahead with
  | refl => rw [Watch.after, (sound.after isLocal schedule now).lost_act, if_neg forsakes]
  | @step later _ hypothesis =>
      rw [Watch.after,
        (sound.after isLocal schedule later).lost_act_of_lost (hypothesis ▸ forsakes), hypothesis]

end Watch.Sound
end LatencyMeter

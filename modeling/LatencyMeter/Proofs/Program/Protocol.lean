import LatencyMeter.Program

/-!
# Protocols

A program and its surroundings talk: the program asks, the surroundings answer. A protocol
keeps a record of what was said so far, and says by this record what the program may ask,
how a request may be answered, and whether the program may be cut off.

A program follows a protocol if it asks only what it may ask, as long as its surroundings
answer as they may, and every result meets a condition on the record. This is a property of
the program alone: it holds beside any other threads, whose acts are seen in the answers.
-/

namespace LatencyMeter

/-- The rules of a dialogue of which `State` is the record. -/
structure Protocol {Request : Type} (Answer : Request -> Type) (State : Type) where
  /-- The record after one more request was answered. -/
  after : State -> (request : Request) -> Answer request -> State
  /-- What the program may ask. -/
  mayAsk : State -> Request -> Prop
  /-- How a request may be answered. -/
  mayAnswer : State -> (request : Request) -> Answer request -> Prop
  /-- Whether the program may be cut off. -/
  mayStop : State -> Prop

namespace Protocol

variable {Request : Type} {Answer : Request -> Type} {State : Type}
variable {protocol : Protocol Answer State} {state : State}

/-- A program keeps the rules as long as its surroundings do, and ends as it should. -/
def Follows (protocol : Protocol Answer State) (ends : State -> α -> Prop) :
    State -> Program Request Answer α -> Prop
  | state, .done result => ends state result
  | state, .unfinished => protocol.mayStop state
  | state, .ask request next =>
      protocol.mayAsk state request ∧
        forall answer, protocol.mayAnswer state request answer ->
          Follows protocol ends (protocol.after state request answer) (next answer)

/-- A condition on the results of a program that may fail, in two parts. -/
def Outcome (returns : State -> α -> Prop) (fails : State -> ε -> Prop) (state : State) :
    Except ε α -> Prop
  | .ok value => returns state value
  | .error failure => fails state failure

namespace Follows

variable {ends : State -> α -> Prop} {program : Program Request Answer α}

/-- A request that may be asked is followed by what goes on with its answer. -/
theorem ask
    {request : Request}
    {next : Answer request -> Program Request Answer α}
    (asks : protocol.mayAsk state request)
    (continues : forall answer, protocol.mayAnswer state request answer ->
      protocol.Follows ends (protocol.after state request answer) (next answer)) :
    protocol.Follows ends state (.ask request next) :=
  ⟨asks, continues⟩

/-- Wherever a program ends as it should, another may go on. -/
theorem bind
    {next : α -> Program Request Answer β}
    {further : State -> β -> Prop}
    (first : protocol.Follows ends state program)
    (second : forall later result, ends later result ->
      protocol.Follows further later (next result)) :
    protocol.Follows further state (program >>= next) := by
  induction program generalizing state with
  | done result => exact second state result first
  | unfinished => exact first
  | ask request rest hypothesis =>
      obtain ⟨asks, continues⟩ := first
      exact ⟨asks, fun answer credible => hypothesis answer (continues answer credible)⟩

/-- What is less than a program promises it promises too. -/
theorem weaken
    {weaker : State -> α -> Prop}
    (follows : protocol.Follows ends state program)
    (implied : forall later result, ends later result -> weaker later result) :
    protocol.Follows weaker state program := by
  have restated : protocol.Follows weaker state (program >>= .done) := follows.bind implied
  rwa [Program.bind_done] at restated

/-- A program that follows a protocol may be translated into one that follows another, if
the translation of each request does, and the new record is a view of the old one. -/
theorem translate
    {Question : Type}
    {Reply : Question -> Type}
    {View : Type}
    (outer : Protocol Reply View)
    (handler : (request : Request) -> Program Question Reply (Answer request))
    (view : State -> View)
    (follows : protocol.Follows ends state program)
    (each : forall state request, protocol.mayAsk state request ->
      outer.Follows
        (fun later answer =>
          protocol.mayAnswer state request answer ∧
            later = view (protocol.after state request answer))
        (view state) (handler request))
    (stops : forall state, protocol.mayStop state -> outer.mayStop (view state)) :
    outer.Follows (fun later result => exists inner, later = view inner ∧ ends inner result)
      (view state) (program.translate handler) := by
  induction program generalizing state with
  | done result => exact ⟨state, rfl, follows⟩
  | unfinished => exact stops state follows
  | ask request rest hypothesis =>
      obtain ⟨asks, continues⟩ := follows
      refine (each state request asks).bind ?_
      rintro later answer ⟨credible, rfl⟩
      exact hypothesis answer (continues answer credible)

section Failures

variable {returns : State -> β -> Prop} {fails : State -> ε -> Prop}

/-- Where a program that may fail succeeds another may go on, and its failure ends both. -/
theorem bindExcept
    {program : ExceptT ε (Program Request Answer) α}
    {next : α -> ExceptT ε (Program Request Answer) β}
    (middle : State -> α -> Prop)
    (first : protocol.Follows (Outcome middle fails) state program.run)
    (second : forall later value, middle later value ->
      protocol.Follows (Outcome returns fails) later (next value).run) :
    protocol.Follows (Outcome returns fails) state (program >>= next).run := by
  refine first.bind ?_
  rintro later (failure | value) reached
  · exact reached
  · exact second later value reached

/-- A program that leaves the record as it is may stand in front of another. -/
theorem bindIdle
    {program : ExceptT ε (Program Request Answer) α}
    {next : α -> ExceptT ε (Program Request Answer) β}
    (first : protocol.Follows (Outcome (fun later _ => later = state) fails) state program.run)
    (second : forall value, protocol.Follows (Outcome returns fails) state (next value).run) :
    protocol.Follows (Outcome returns fails) state (program >>= next).run := by
  refine bindExcept _ first ?_
  rintro later value rfl
  exact second value

/-- What is less than a program promises when it succeeds it promises too. -/
theorem weakenReturn
    {program : ExceptT ε (Program Request Answer) β}
    {weaker : State -> β -> Prop}
    (follows : protocol.Follows (Outcome returns fails) state program.run)
    (implied : forall later value, returns later value -> weaker later value) :
    protocol.Follows (Outcome weaker fails) state program.run := by
  refine follows.weaken ?_
  rintro later (failure | value) holds
  · exact holds
  · exact implied later value holds

/-- What is less than a program promises when it fails it promises too. -/
theorem weakenFailure
    {program : ExceptT ε (Program Request Answer) β}
    {weaker : State -> ε -> Prop}
    (follows : protocol.Follows (Outcome returns fails) state program.run)
    (implied : forall later failure, fails later failure -> weaker later failure) :
    protocol.Follows (Outcome returns weaker) state program.run := by
  refine follows.weaken ?_
  rintro later (failure | value) holds
  · exact implied later failure holds
  · exact holds

/-- The failure of a program may be handled. -/
theorem handle
    {program : ExceptT ε (Program Request Answer) β}
    {handler : ε -> ExceptT ε (Program Request Answer) β}
    {caught : State -> ε -> Prop}
    (first : protocol.Follows (Outcome returns caught) state program.run)
    (second : forall later failure, caught later failure ->
      protocol.Follows (Outcome returns fails) later (handler failure).run) :
    protocol.Follows (Outcome returns fails) state (tryCatch program handler).run := by
  refine first.bind ?_
  rintro later (failure | value) reached
  · exact second later failure reached
  · exact reached

end Failures

end Follows

/-- A dialogue leads from one record and program to another. -/
inductive Leads (protocol : Protocol Answer State) (state : State)
    (program : Program Request Answer α) : State -> Program Request Answer α -> Prop
  | refl : Leads protocol state program state program
  | answer {later : State} {request : Request} {answer : Answer request}
      {next : Answer request -> Program Request Answer α}
      (earlier : Leads protocol state program later (.ask request next))
      (credible : protocol.mayAnswer later request answer) :
      Leads protocol state program (protocol.after later request answer) (next answer)

section Dialogues

variable {ends : State -> α -> Prop} {program rest : Program Request Answer α} {later : State}

/-- Wherever a dialogue leads, the rest of the program follows the protocol. -/
theorem Follows.leads
    (follows : protocol.Follows ends state program)
    (leads : protocol.Leads state program later rest) :
    protocol.Follows ends later rest := by
  induction leads with
  | refl => exact follows
  | answer _ credible hypothesis => exact hypothesis.2 _ credible

/-- What every exchange of a dialogue keeps holds wherever the dialogue leads. -/
theorem Follows.keeps
    {kept : State -> Prop}
    (follows : protocol.Follows ends state program)
    (leads : protocol.Leads state program later rest)
    (begins : kept state)
    (each : forall state request answer, kept state -> protocol.mayAsk state request ->
      protocol.mayAnswer state request answer -> kept (protocol.after state request answer)) :
    kept later := by
  induction leads with
  | refl => exact begins
  | answer earlier credible hypothesis =>
      exact each _ _ _ hypothesis (follows.leads earlier).1 credible

/-- A dialogue may have begun one exchange earlier. -/
theorem Leads.cons
    {request : Request}
    {next : Answer request -> Program Request Answer α}
    {answer : Answer request}
    (credible : protocol.mayAnswer state request answer)
    (leads : protocol.Leads (protocol.after state request answer) (next answer) later rest) :
    protocol.Leads state (.ask request next) later rest := by
  induction leads with
  | refl => exact .answer .refl credible
  | answer _ credible hypothesis => exact .answer hypothesis credible

/-- Carry a dialogue on to its end, with answers that depend on the record alone. -/
def converse (protocol : Protocol Answer State)
    (answer : State -> (request : Request) -> Answer request) :
    State -> Program Request Answer α -> State × Program Request Answer α
  | state, .ask request next =>
      protocol.converse answer (protocol.after state request (answer state request))
        (next (answer state request))
  | state, program => (state, program)

/-- A dialogue may be carried on with answers that keep the rules. -/
theorem leads_converse
    {answer : State -> (request : Request) -> Answer request}
    (credible : forall state request, protocol.mayAnswer state request (answer state request))
    (state : State)
    (program : Program Request Answer α) :
    protocol.Leads state program (protocol.converse answer state program).1
      (protocol.converse answer state program).2 := by
  induction program generalizing state with
  | done result => exact .refl
  | unfinished => exact .refl
  | ask request next hypothesis => exact .cons (credible state request) (hypothesis _ _)

end Dialogues
end Protocol
end LatencyMeter

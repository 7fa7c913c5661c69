/-!
# Programs that ask their surroundings

A program computes a result and on the way asks its surroundings for things it
cannot know or do by itself: the time, a transmission, a shared counter. It is a
value, so the same program can be run on its own or in step with another thread,
and each way of running it is a way of answering its requests.

A loop whose end depends on the answers carries a bound on its steps. When the
bound is used up the program is `unfinished`, which is not a result.

A program that asks for large things is translated into one that asks for small
things by a program for each of its requests.
-/

namespace LatencyMeter

/-- A computation that asks requests of its surroundings and continues with the answers. -/
inductive Program (Request : Type) (Answer : Request -> Type) (Result : Type)
  | done (result : Result)
  | unfinished
  | ask (request : Request) (next : Answer request -> Program Request Answer Result)

namespace Program

variable {Request : Type} {Answer : Request -> Type}
variable {Question : Type} {Reply : Question -> Type}

/-- Ask one request and give its answer. -/
def request (request : Request) : Program Request Answer (Answer request) :=
  .ask request .done

/-- Continue with the result of a program. -/
def bind (program : Program Request Answer α) (next : α -> Program Request Answer β) :
    Program Request Answer β :=
  match program with
  | .done result => next result
  | .unfinished => .unfinished
  | .ask request rest => .ask request fun answer => (rest answer).bind next

instance : Monad (Program Request Answer) where
  pure := .done
  bind := bind

@[simp] theorem pure_bind (result : α) (next : α -> Program Request Answer β) :
    (pure result >>= next) = next result := rfl

@[simp] theorem done_bind (result : α) (next : α -> Program Request Answer β) :
    (.done result >>= next) = next result := rfl

@[simp] theorem unfinished_bind (next : α -> Program Request Answer β) :
    ((.unfinished : Program Request Answer α) >>= next) = .unfinished := rfl

@[simp] theorem ask_bind (request : Request)
    (rest : Answer request -> Program Request Answer α)
    (next : α -> Program Request Answer β) :
    (.ask request rest >>= next) = .ask request fun answer => rest answer >>= next := rfl

@[simp] theorem bind_done (program : Program Request Answer α) :
    (program >>= .done) = program := by
  induction program with
  | done result => rfl
  | unfinished => rfl
  | ask request rest hypothesis =>
      rw [ask_bind]
      exact congrArg (ask request) (funext hypothesis)

theorem bind_assoc (program : Program Request Answer α)
    (first : α -> Program Request Answer β) (second : β -> Program Request Answer γ) :
    (program >>= first >>= second) = program >>= fun result => first result >>= second := by
  induction program with
  | done result => rfl
  | unfinished => rfl
  | ask request rest hypothesis =>
      simp only [ask_bind]
      exact congrArg (ask request) (funext hypothesis)

/-- Answer each request of a program by a program that asks other things. -/
def translate (handler : (request : Request) -> Program Question Reply (Answer request)) :
    Program Request Answer α -> Program Question Reply α
  | .done result => .done result
  | .unfinished => .unfinished
  | .ask request next => (handler request).bind fun answer => (next answer).translate handler

@[simp] theorem translate_done
    (handler : (request : Request) -> Program Question Reply (Answer request)) (result : α) :
    (done result).translate handler = .done result := rfl

@[simp] theorem translate_unfinished
    (handler : (request : Request) -> Program Question Reply (Answer request)) :
    (unfinished : Program Request Answer α).translate handler = .unfinished := rfl

@[simp] theorem translate_ask
    (handler : (request : Request) -> Program Question Reply (Answer request))
    (request : Request) (next : Answer request -> Program Request Answer α) :
    (ask request next).translate handler =
      handler request >>= fun answer => (next answer).translate handler := rfl

/-- Translating two programs in a row translates each. -/
theorem translate_bind
    (handler : (request : Request) -> Program Question Reply (Answer request))
    (program : Program Request Answer α) (next : α -> Program Request Answer β) :
    (program >>= next).translate handler =
      program.translate handler >>= fun result => (next result).translate handler := by
  induction program with
  | done result => rfl
  | unfinished => rfl
  | ask request rest hypothesis =>
      rw [ask_bind, translate_ask, translate_ask, bind_assoc]
      exact congrArg (handler request >>= ·) (funext hypothesis)

/-- Run a program in surroundings that answer at once; an unfinished program has no result. -/
def run (answer : (request : Request) -> State -> Answer request × State) :
    Program Request Answer α -> State -> Option α × State
  | .done result, state => (some result, state)
  | .unfinished, state => (none, state)
  | .ask request next, state =>
      let (given, state) := answer request state
      (next given).run answer state

@[simp] theorem run_done (answer : (request : Request) -> State -> Answer request × State)
    (result : α) (state : State) :
    (done result).run answer state = (some result, state) := rfl

@[simp] theorem run_unfinished
    (answer : (request : Request) -> State -> Answer request × State) (state : State) :
    (unfinished : Program Request Answer α).run answer state = (none, state) := rfl

@[simp] theorem run_ask (answer : (request : Request) -> State -> Answer request × State)
    (request : Request) (next : Answer request -> Program Request Answer α) (state : State) :
    (ask request next).run answer state =
      (next (answer request state).1).run answer (answer request state).2 := rfl

/-- Running two programs in a row runs the second where the first ended. -/
theorem run_bind (answer : (request : Request) -> State -> Answer request × State)
    (program : Program Request Answer α) (next : α -> Program Request Answer β)
    (state : State) :
    (program >>= next).run answer state =
      match program.run answer state with
      | (some result, after) => (next result).run answer after
      | (none, after) => (none, after) := by
  induction program generalizing state with
  | done result => rfl
  | unfinished => rfl
  | ask request rest hypothesis =>
      rw [ask_bind, run_ask, run_ask]
      exact hypothesis _ _

end Program
end LatencyMeter

import LatencyMeter.Host

/-!
# Two threads

While a session runs, its main thread and its receive thread take turns. Any order of
turns is possible; a main thread that has to wait stays where it is when it is given
a turn. `Threads.runTurns` follows a given order, and `Threads.run` an order in which
every message is received at once and the main thread otherwise goes first.
-/

namespace LatencyMeter

/-- Whose turn it is. -/
inductive Turn
  | main
  | receiver
  deriving DecidableEq, Repr

/-- The main thread of a session with what it has still to do, and the host it runs on. -/
structure Threads (α : Type) where
  main : Program Session.Request Session.Request.Answer (Except Failure α)
  host : Host

namespace Threads

/-- A session about to begin. -/
def start (session : Session α) (host : Host) : Threads α := ⟨session.run, host⟩

/-- One turn. -/
def step (threads : Threads α) : Turn -> Threads α
  | .receiver => { threads with host := threads.host.receive }
  | .main =>
      match threads.main with
      | .ask request next =>
          match threads.host.answer? request with
          | some (answer, host) => ⟨next answer, host⟩
          | none => threads
      | _ => threads

/-- Several turns in a row. -/
def runTurns (turns : List Turn) (threads : Threads α) : Threads α :=
  turns.foldl step threads

/-- Whether the main thread has to wait for the receive thread. -/
def waiting (threads : Threads α) : Bool :=
  match threads.main with
  | .ask request _ => (threads.host.answer? request).isNone
  | _ => false

/-- The next turn, as long as the main thread has something left to do. -/
def next? (threads : Threads α) : Option Turn :=
  match threads.main with
  | .ask _ _ =>
      if threads.host.receiver.any Receiver.hasMessage ∨ threads.waiting then
        some .receiver
      else
        some .main
  | _ => none

/-- What the main thread has come to, if it has come to an end. -/
def result? (threads : Threads α) : Option (Except Failure α) :=
  match threads.main with
  | .done result => some result
  | _ => none

/-- Take turns until the main thread ends, or up to a number of turns. -/
def run : Nat -> Threads α -> Threads α
  | 0, threads => threads
  | turns + 1, threads =>
      match threads.next? with
      | none => threads
      | some turn => run turns (threads.step turn)

end Threads
end LatencyMeter

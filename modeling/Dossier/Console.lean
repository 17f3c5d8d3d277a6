import Dossier.Evaluator
import Dossier.Input
/-! # The console and its loops

    Lines run one after the other. Each runs in the surroundings that it finds
    when its turn comes, and what it shows is shown before the next is read.
    Where surroundings are observed and answers shown is a `Console`, in any
    monad `m`; the loops below are those of every console. A `recorder` shows
    nothing and keeps everything, and gives the loops a result without any
    effect. -/

namespace Dossier

/-- A place where lines are run. -/
structure Console (m : Type → Type) where
  /-- The surroundings of a line when its turn comes. -/
  observe : Evaluator → String → m Surroundings
  /-- Shows what goes to the terminal. -/
  present : List Output → m Unit
  /-- Asks for a line. -/
  prompt : String → m Unit
  /-- Shows what went wrong, apart from the answers. -/
  complain : List String → m Unit

/-- How far lines have been run: how many of them failed, and the session that
    they leave. -/
structure Progress where
  failures : Nat
  session : Session
  deriving DecidableEq, Repr

namespace Evaluator

variable {m : Type → Type} [Monad m]

/-- Runs a line in the surroundings that it finds, and shows what it shows. -/
def turn (ev : Evaluator) (console : Console m) (line : String) (sofar : Progress) :
    m Progress := do
  let run := ev.runLine (← console.observe ev line) line sofar.session
  console.present run.output
  return ⟨sofar.failures + run.failures, run.session⟩

/-- Runs lines in order, up to one that asks to leave. -/
def runLinesOn (ev : Evaluator) (console : Console m) (lines : List String)
    (sofar : Progress) : m Progress := do
  let mut sofar := sofar
  for line in lines do
    sofar ← ev.turn console line sofar
    if sofar.session.quitRequested then break
  return sofar

/-- Reads lines from an input and runs each before the next is read, up to one
    that asks to leave. -/
def runInput {ρ : Type} [ForIn m ρ (List UInt8)] (ev : Evaluator) (console : Console m)
    (prompts : Bool) (input : ρ) (sofar : Progress) : m Progress := do
  let mut sofar := sofar
  if prompts then console.prompt sofar.session.prompt
  for line in input do
    sofar ← ev.turn console (Input.decodeLine line) sofar
    if sofar.session.quitRequested then break
    if prompts then console.prompt sofar.session.prompt
  return sofar

end Evaluator

/-! ## Recording -/

/-- What was shown. -/
structure Transcript where
  output : List Output
  complaints : List String
  deriving DecidableEq, Repr

namespace Transcript

/-- Nothing was shown. -/
def blank : Transcript := ⟨[], []⟩

/-- Shows more on the terminal. -/
def show_ (kept : Transcript) (shown : List Output) : Transcript :=
  { kept with output := kept.output ++ shown }

/-- Complains more. -/
def complain (kept : Transcript) (complaints : List String) : Transcript :=
  { kept with complaints := kept.complaints ++ complaints }

end Transcript

/-- The console that keeps what it is to show. Prompts are not kept. -/
def Console.recorder {m : Type → Type} [Monad m] (around : m Surroundings) :
    Console (StateT Transcript m) where
  observe _ _ := StateT.lift around
  present shown := modify (·.show_ shown)
  prompt _ := return ()
  complain complaints := modify (·.complain complaints)

/-- The run that a recorder kept. -/
def Run.ofRecord (record : Progress × Transcript) : Run :=
  ⟨record.1.failures, record.1.session, record.2.output⟩

namespace Evaluator

/-- Runs lines in surroundings that stay as they are. -/
def runLines (ev : Evaluator) (around : Surroundings) (lines : List String)
    (session : Session) : Run :=
  .ofRecord (ev.runLinesOn (.recorder (m := Id) around) lines ⟨0, session⟩ .blank)

/-- Reads lines from bytes and runs them in surroundings that stay as they
    are. -/
def runBytes (ev : Evaluator) (around : Surroundings) (bytes : List UInt8)
    (session : Session) : Run :=
  .ofRecord
    (ev.runInput (.recorder (m := Id) around) false (Input.cutLines bytes) ⟨0, session⟩ .blank)

end Evaluator

end Dossier

import CharGrammar.Blueprint

/-!
Sessions: a table of named grammars and a cursor, which is the text still to be read. A step
whose grammar cannot be built changes nothing.
-/

namespace CharGrammar

/-- What reading again and again has given: the texts of the values, the result that ended it,
the calls of all readings, and the text that is left. -/
structure Repeated where
  texts : List Text
  last : Result
  calls : List Call
  cursor : Text

/-- Reads as long as a reading succeeds and leaves a shorter text. -/
def Grammar.runAll (g : Grammar) (defs : Definitions) (s : Text) : Repeated :=
  let reading := g.run defs false s
  match reading.result with
  | ⟨.ok v, rest⟩ =>
    if rest.length < s.length then
      let more := g.runAll defs rest
      { more with texts := v.text :: more.texts, calls := reading.calls ++ more.calls }
    else ⟨[], reading.result, reading.calls, s⟩
  | ⟨.error _, _⟩ => ⟨[], reading.result, reading.calls, s⟩
termination_by s.length

structure Session where
  defs : Definitions
  cursor : Text

namespace Session

def empty : Session := ⟨[], []⟩

inductive Step where
  | define (name : Text) (p : Blueprint)
  /-- Adds to the end of the cursor. -/
  | feed (text : Text)
  /-- Puts another text in the place of the cursor. -/
  | reset (text : Text)
  | next (p : Blueprint) (tracing : Bool)
  | all (p : Blueprint)

inductive Answer where
  | defined (tree : Text) (replaced : Bool)
  | moved
  | read (reading : Reading)
  | readAll (repeated : Repeated)
  | refused (e : BuildError)

/-- The watched calls of a step. -/
def Answer.calls : Answer → List Call
  | read reading => reading.calls
  | readAll repeated => repeated.calls
  | defined _ _ | moved | refused _ => []

/-- The cursor behind a reading: a failure leaves it. -/
def advance (s : Session) (r : Result) : Session :=
  match r with
  | ⟨.ok _, rest⟩ => { s with cursor := rest }
  | ⟨.error _, _⟩ => s

/-- One step, for a step that reads with the grammar built already. -/
def withGrammar (s : Session) (p : Blueprint) (next : Grammar → Answer × Session) :
    Answer × Session :=
  match p.build s.defs with
  | .error e => (.refused e, s)
  | .ok g => next g

def step (hidden : Char → Bool) (s : Session) : Step → Answer × Session
  | .define name p =>
    s.withGrammar p fun g =>
      (.defined (g.tree hidden []) (s.defs.find? name).isSome,
        { s with defs := s.defs.define name g })
  | .feed text => (.moved, { s with cursor := s.cursor ++ text })
  | .reset text => (.moved, { s with cursor := text })
  | .next p tracing =>
    s.withGrammar p fun g =>
      let reading := g.run s.defs tracing s.cursor
      (.read reading, s.advance reading.result)
  | .all p =>
    s.withGrammar p fun g =>
      let repeated := g.runAll s.defs s.cursor
      (.readAll repeated, { s with cursor := repeated.cursor })

/-- The answers to the steps, each with the cursor it leaves. -/
def run (hidden : Char → Bool) (s : Session) : List Step → List (Answer × Text)
  | [] => []
  | step :: steps =>
    let (answer, s) := s.step hidden step
    (answer, s.cursor) :: s.run hidden steps

end Session

end CharGrammar

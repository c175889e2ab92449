import CharGrammar.Definitions
import CharGrammar.Grammar.Fold

/-!
The four directions and their reading by name: the name is read with a grammar of words, and the
text of its value is then looked up. Which names are tried, and what they are looked up to, is left
to a naming.
-/

namespace CharGrammar

inductive Direction where
  | north
  | south
  | east
  | west
deriving DecidableEq

namespace Direction

def all : List Direction := [north, south, east, west]

def name : Direction → Text
  | north => "North".toList
  | south => "South".toList
  | east => "East".toList
  | west => "West".toList

def ofName? (s : Text) : Option Direction := all.find? fun d => d.name == s

/-- Why no direction was read. -/
inductive Failure where
  | fold (e : FoldError)
  | reading (e : ReadError)
  /-- The value that was read is no direction's name. -/
  | unknownName
deriving DecidableEq

/-- How directions go by names: the names in the order in which they are tried, and the direction
that a text is the name of. -/
structure Naming where
  names : List Text
  ofName? : Text → Option Direction

/-- The directions under their own names. -/
def ownNaming : Naming := ⟨all.map name, ofName?⟩

namespace Naming

variable (n : Naming)

/-- A choice of the names. -/
def grammar : Except FoldError Grammar := do
  Grammar.choice (← n.names.mapM Grammar.word)

/-- The direction that a result names, with the rest. -/
def ofResult (r : Result) : Except Failure (Direction × Text) :=
  match r.taken with
  | .error e => .error (.reading e)
  | .ok (v, rest) =>
    match n.ofName? v.text with
    | none => .error .unknownName
    | some d => .ok (d, rest)

/-- Reads a direction, and gives the records of the reading beside it. -/
def run (tracing : Bool) (s : Text) :
    Except Failure (Direction × Text) × List Trace.Record :=
  match n.grammar with
  | .error e => (.error (.fold e), [])
  | .ok g =>
    let reading := g.run [] tracing s
    (n.ofResult reading.result, reading.records)

end Naming

/-- Reads a direction by its own name. -/
def run (tracing : Bool) (s : Text) :
    Except Failure (Direction × Text) × List Trace.Record := ownNaming.run tracing s

def parse (s : Text) : Except Failure (Direction × Text) := (run false s).1

end Direction

end CharGrammar

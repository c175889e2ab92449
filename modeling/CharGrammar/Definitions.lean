import CharGrammar.Grammar.Basic

/-!
Tables of named grammars, and the readings they make possible. A grammar may call a name, its
own included; what runs under it is looked up when the call is made.
-/

namespace CharGrammar

/-- Names with the grammars defined under them, each name at most once. -/
abbrev Definitions := List (Text × Grammar)

namespace Definitions

def find? (defs : Definitions) (name : Text) : Option Grammar := defs.lookup name

/-- Defines a grammar under a name, in place of one that was there before. -/
def define (defs : Definitions) (name : Text) (g : Grammar) : Definitions :=
  (name, g) :: defs.filter fun d => d.1 != name

/-- What runs under a name, for calls nested at most `depth` deep. -/
def reader (defs : Definitions) : Nat → Text → Reader
  | 0, name => fun _ j => (.failure (.described ("endless ".toList ++ name)), j)
  | depth + 1, name =>
    match defs.find? name with
    | none => fun _ j => (.failure (.described ("undefined ".toList ++ name)), j)
    | some g => g.read (defs.reader depth)

/-- Of calls nested deeper than this, two are of one name on one text that is left of `s`, and
such calls never end. -/
def depthBound (defs : Definitions) (s : Text) : Nat := defs.length * (s.length + 1) + 1

end Definitions

/-- All that one reading shows: its result, the records of its steps and the watched calls. -/
structure Reading where
  result : Result
  records : List Trace.Record
  calls : List Call

namespace Grammar

/-- Reads `s` from a blank journal. -/
def run (g : Grammar) (defs : Definitions) (tracing : Bool) (s : Text) : Reading :=
  let (r, j) := g.read (defs.reader (defs.depthBound s)) s (.blank tracing)
  ⟨r, j.records.toList, j.calls.toList⟩

/-- The result alone, where no name is defined. -/
def parse (g : Grammar) (s : Text) : Result := (g.run [] false s).result

end Grammar

end CharGrammar

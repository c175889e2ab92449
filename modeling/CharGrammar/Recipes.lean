import CharGrammar.Definitions
import CharGrammar.Grammar.Fold
import CharGrammar.Transform

/-!
Small grammars put together from the parts of this library, as models for larger ones.
-/

namespace CharGrammar.Recipes

open Grammar

/-- A plus or a minus. -/
def sign : Grammar := alt (char '+') (char '-')

/-- A sign and a single `1`. -/
def signedUnit : Grammar := seq sign (char '1')

def boolean : Except FoldError Grammar := do
  choice [← word "true".toList, ← word "false".toList]

/-- A sign that may be missing and is then read as a plus. -/
def signOrPlus : Grammar := alt sign (closure (.success (.char '+')))

/-- Two grammars for one word: its value is the word as it is, or in uppercase. -/
structure Voices where
  quiet : Grammar
  loud : Grammar

def voices (w : Text) : Except FoldError Voices :=
  (word w).map fun quiet => ⟨quiet, map (Result.map Value.shout) quiet⟩

/-- One reading of `abc`, with the nested and with the flat value. -/
def abcBothWays (s : Text) : Except FoldError (Result × Result) :=
  (sequence ("abc".toList.map char)).map fun g => (g.parse s, (g.parse s).flatten)

end CharGrammar.Recipes

import CharGrammar.Text.Unprintable
import CharGrammar.Text.ExtendingMark
import CharGrammar.Text.DefaultIgnorable

/-!
The characters that spelled-out forms show by code point.
-/

namespace CharGrammar.Text

/-- A character is hidden if it has no printed form, would blend into the one before it, or shows
nothing. -/
def hidden (c : Char) : Bool :=
  unprintable.contains c || extendingMark.contains c || defaultIgnorable.contains c

end CharGrammar.Text

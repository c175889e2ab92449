/-!
Texts as lists of characters, with the two operations on them that the printers need beside
those of lists: replacing a pattern, and cutting behind the last separator.
-/

namespace CharGrammar

/-- A text is the list of its characters, so every count and cut is in whole characters. -/
abbrev Text := List Char

namespace Text

/-- Replaces `pat` by `rep` in what is left after the first `skip` characters, which belong to
an occurrence that has been replaced already. -/
def replaceFrom (pat rep : Text) : Nat → Text → Text
  | _, [] => []
  | skip + 1, _ :: s => replaceFrom pat rep skip s
  | 0, c :: s =>
    if pat.isPrefixOf (c :: s) then rep ++ replaceFrom pat rep (pat.length - 1) s
    else c :: replaceFrom pat rep 0 s

/-- Every occurrence of `pat`, leftmost first and without overlap, becomes `rep`. The pattern is
not empty. -/
def replaceAll (s pat rep : Text) : Text := replaceFrom pat rep 0 s

/-- What stands behind the last occurrence of `sep`, if there is one. -/
def behindLast? (sep : Text) : Text → Option Text
  | [] => none
  | c :: s =>
    (behindLast? sep s).or
      (if sep.isPrefixOf (c :: s) then some ((c :: s).drop sep.length) else none)

/-- What stands behind the last occurrence of `sep`, or the whole text if there is none. -/
def afterLast (s sep : Text) : Text := (behindLast? sep s).getD s

end Text

end CharGrammar

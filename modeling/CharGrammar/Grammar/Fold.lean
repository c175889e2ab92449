import CharGrammar.Grammar.Basic

/-!
Grammars folded from lists. Alternatives and sequences lean to the left, and neither can be
built from nothing.
-/

namespace CharGrammar.Grammar

/-- The alternatives in order; the failure reported is the last one's. -/
def choice : List Grammar → Except FoldError Grammar
  | [] => .error .emptyChoice
  | p :: ps => .ok (ps.foldl alt p)

/-- One after the other; the values nest to the left. -/
def sequence : List Grammar → Except FoldError Grammar
  | [] => .error .emptySequence
  | p :: ps => .ok (ps.foldl seq p)

/-- Any one of the characters, tried in order. -/
def oneOf (cs : Text) : Except FoldError Grammar := choice (cs.map char)

/-- Exactly the word, with the flat list of its characters as value. -/
def word (w : Text) : Except FoldError Grammar :=
  (sequence (w.map char)).map (map Result.flatten)

end CharGrammar.Grammar

import CharGrammar.Grammar.Basic

/-!
A stock of small readers beside literal characters.
-/

namespace CharGrammar.Grammar

/-- One character of any kind. -/
def any : Grammar :=
  closure fun
    | [] => .failure .emptyInput
    | c :: s => .success (.char c) s

/-- Exactly `n` characters, as a flat list. -/
def take (n : Nat) : Grammar :=
  closure fun s =>
    if s.length < n then .failure .emptyInput else .success (.ofText (s.take n)) (s.drop n)

/-- Nothing, at the end of the text only. -/
def eof : Grammar :=
  closure fun
    | [] => .success (.list []) []
    | _ :: _ => .failure (.described "expected end of input".toList)

/-- The value, whatever the text, of which nothing is read. -/
def succeed (v : Value) : Grammar := closure (.success v)

def fail (e : ReadError) : Grammar := closure fun _ => .failure e

/-- As `any`, shown by its type. -/
def anything : Grammar := custom "stock::Anything".toList any

/-- Reads with `p` and keeps nothing of its value. -/
def skip (p : Grammar) : Grammar :=
  custom "stock::Skip<grammar::Parser>".toList (map (Result.map fun _ => .list []) p)

end CharGrammar.Grammar

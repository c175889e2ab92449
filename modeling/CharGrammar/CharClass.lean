import CharGrammar.Grammar.Fold

/-!
Ready character classes: tables of characters, and grammars that read one character of a class.
-/

namespace CharGrammar

/-- The characters from `a` to `b`. -/
def Text.between (a b : Char) : Text :=
  (List.range' a.toNat (b.toNat + 1 - a.toNat)).map Char.ofNat

namespace CharClass

def digits : Text := Text.between '0' '9'

def lowercase : Text := Text.between 'a' 'z'

def uppercase : Text := Text.between 'A' 'Z'

def hexDigits : Text := Text.between '0' '9' ++ Text.between 'a' 'f' ++ Text.between 'A' 'F'

/-- The class of `c` and `cs`. It has a first character, so that building it cannot fail. -/
def ofChars (c : Char) (cs : Text) : Grammar := (cs.map .char).foldl .alt (.char c)

def digit : Grammar := ofChars '0' (Text.between '1' '9')

/-- Lowercase letters are tried first. -/
def letter : Grammar := ofChars 'a' (Text.between 'b' 'z' ++ Text.between 'A' 'Z')

def hexDigit : Grammar :=
  ofChars '0' (Text.between '1' '9' ++ Text.between 'a' 'f' ++ Text.between 'A' 'F')

end CharClass

end CharGrammar

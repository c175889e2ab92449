import CharGrammar.Text.Basic

/-!
The escape that leaves only printable ASCII: short forms for tabs, line ends, quotes and the
backslash, code points for everything beyond.
-/

namespace CharGrammar.Text

/-- The code point in lowercase hexadecimal without padding, as in `\u{e9}`. -/
def codePoint (c : Char) : Text :=
  "\\u\x7b".toList ++ Nat.toDigits 16 c.toNat ++ "\x7d".toList

/-- Leaves printable ASCII as it is, quotes and the backslash apart. -/
def escapeChar : Char → Text
  | '\t' => "\\t".toList
  | '\r' => "\\r".toList
  | '\n' => "\\n".toList
  | '\x27' => "\\'".toList
  | '\x22' => "\\\"".toList
  | '\\' => "\\\\".toList
  | c => if ' ' ≤ c ∧ c ≤ '~' then [c] else codePoint c

def escape (s : Text) : Text := s.flatMap escapeChar

@[simp] theorem escape_nil : escape [] = [] := rfl
@[simp] theorem escape_cons (c : Char) (s : Text) :
    escape (c :: s) = escapeChar c ++ escape s := rfl
@[simp] theorem escape_append (s t : Text) : escape (s ++ t) = escape s ++ escape t :=
  List.flatMap_append

end CharGrammar.Text

import CharGrammar.Text.Escape

/-!
Characters and texts between quotes, as spelled-out forms show them. Only the quote that encloses is
escaped; which other characters are shown by code point is left to the argument `hidden`.
-/

namespace CharGrammar.Text

/-- One character between quotes of the kind `quote`. -/
def quoteBody (hidden : Char → Bool) (quote : Char) : Char → Text
  | '\x00' => "\\0".toList
  | '\t' => "\\t".toList
  | '\r' => "\\r".toList
  | '\n' => "\\n".toList
  | '\\' => "\\\\".toList
  | c => if c = quote then ['\\', c] else if hidden c then codePoint c else [c]

/-- A character between single quotes. -/
def quoteChar (hidden : Char → Bool) (c : Char) : Text :=
  '\x27' :: quoteBody hidden '\x27' c ++ ['\x27']

/-- A text between double quotes. -/
def quoteText (hidden : Char → Bool) (s : Text) : Text :=
  '\x22' :: s.flatMap (quoteBody hidden '\x22') ++ ['\x22']

end CharGrammar.Text

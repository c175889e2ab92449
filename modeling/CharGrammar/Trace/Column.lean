import CharGrammar.Text.Escape

/-!
The column that shows the text being read: the first characters of the escaped text between
bars, in a fixed width. Quotes stand unescaped.
-/

namespace CharGrammar.Trace

/-- How many characters stand between the bars at most. -/
def shownWidth : Nat := 33

/-- The width of the column, bars included. -/
def columnWidth : Nat := 35

/-- Takes the escapes of quotes back, of double quotes before single ones. -/
def unescapeQuotes (s : Text) : Text :=
  (s.replaceAll "\\\"".toList ['\x22']).replaceAll "\\'".toList ['\x27']

/-- The part of the text that the column shows. -/
def shown (s : Text) : Text :=
  (unescapeQuotes (Text.escape (s.take shownWidth))).take shownWidth

def column (s : Text) : Text := ('|' :: shown s ++ ['|']).rightpad columnWidth ' '

end CharGrammar.Trace

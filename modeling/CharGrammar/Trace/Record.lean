import CharGrammar.Error
import CharGrammar.Trace.Column

/-!
Records of single steps of a reading, and the line that each is written as: the text being read,
the label in force, the operation and its outcome, in columns.
-/

namespace CharGrammar.Trace

inductive Operation where
  /-- A literal character is tried. -/
  | char (target : Char)
  /-- The first of two alternatives has failed. -/
  | fallback
  /-- A label comes into force. -/
  | label (text : Text)
deriving DecidableEq

inductive StepOutcome where
  | matched (c : Char)
  | failed (e : ReadError)
deriving DecidableEq

/-- One step over `text` under `label`. A step that only begins has no outcome. -/
structure Record where
  text : Text
  label : Text
  operation : Operation
  outcome : Option StepOutcome
deriving DecidableEq

/-- The width of the label and of the operation. -/
def labelWidth : Nat := 15

def Operation.wording (hidden : Char → Bool) : Operation → Text
  | char c => "char(".toList ++ Text.quoteChar hidden c ++ ")".toList
  | fallback => "or_else(".toList ++ Text.quoteText hidden "first".toList ++ ")".toList
  | label text => "label(".toList ++ Text.quoteText hidden text ++ ")".toList

def StepOutcome.wording (hidden : Char → Bool) : StepOutcome → Text
  | matched c => Text.quoteChar hidden c
  | failed e => e.spelled hidden

namespace Record

def message (hidden : Char → Bool) (r : Record) : Text :=
  (column r.text).rightpad columnWidth ' ' ++ ' ' :: r.label.rightpad labelWidth ' ' ++
    " : ".toList ++ (r.operation.wording hidden).rightpad labelWidth ' ' ++
    match r.outcome with
    | none => []
    | some o => " -> ".toList ++ o.wording hidden

/-- The message behind its level and its target. -/
def line (hidden : Char → Bool) (r : Record) : Text := "TRACE cc ".toList ++ r.message hidden

end Record

end CharGrammar.Trace

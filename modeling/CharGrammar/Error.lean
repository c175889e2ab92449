import CharGrammar.Text.Quoted

/-!
What can go wrong: the errors a reading ends with, and the errors of building a grammar out of
an empty list.
-/

namespace CharGrammar

/-- Why a reader failed. -/
inductive ReadError where
  /-- There was nothing left to read. -/
  | emptyInput
  | mismatch (expected found : Char)
  /-- A cause in free words. -/
  | described (text : Text)
deriving DecidableEq

namespace ReadError

/-- The error in words, with the characters of a mismatch as they are. -/
def message : ReadError → Text
  | emptyInput => "No string found to parse".toList
  | mismatch expected found =>
    "Expected \"".toList ++ expected :: "\" but got \"".toList ++ found :: "\"".toList
  | described text => text

def spelled (hidden : Char → Bool) : ReadError → Text
  | emptyInput => "EmptyInput".toList
  | mismatch expected found =>
    "Mismatch \x7b expected: ".toList ++ Text.quoteChar hidden expected ++
      ", found: ".toList ++ Text.quoteChar hidden found ++ " \x7d".toList
  | described text => "Message(".toList ++ Text.quoteText hidden text ++ ")".toList

@[simp] theorem spelled_emptyInput (hidden : Char → Bool) :
    spelled hidden emptyInput = "EmptyInput".toList := rfl
@[simp] theorem spelled_mismatch (hidden : Char → Bool) (expected found : Char) :
    spelled hidden (mismatch expected found) =
      "Mismatch \x7b expected: ".toList ++ Text.quoteChar hidden expected ++
        ", found: ".toList ++ Text.quoteChar hidden found ++ " \x7d".toList := rfl
@[simp] theorem spelled_described (hidden : Char → Bool) (text : Text) :
    spelled hidden (described text) =
      "Message(".toList ++ Text.quoteText hidden text ++ ")".toList := rfl

end ReadError

/-- Why a grammar could not be built. -/
inductive FoldError where
  | emptyChoice
  | emptySequence
deriving DecidableEq

def FoldError.message : FoldError → Text
  | emptyChoice => "choice needs at least one parser".toList
  | emptySequence => "sequence needs at least one parser".toList

end CharGrammar

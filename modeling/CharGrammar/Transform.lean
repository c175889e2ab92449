import CharGrammar.Result
import CharGrammar.Text.Uppercase

/-!
The transforms of results that grammars can name. Each is a function from results to results
and sees nothing of the text that was read.
-/

namespace CharGrammar

namespace Value

/-- The flat list of the characters of the text in uppercase. -/
def shout (v : Value) : Value := ofText (Text.upper v.text)

/-- The first item of a list that has one. -/
def firstItem : Value → Value
  | .list (v :: _) => v
  | v => v

/-- The last item of a list that has one. -/
def lastItem : Value → Value
  | .char c => .char c
  | .list vs => vs.getLast?.getD (.list vs)

/-- Turns the items of a list around, but not what is inside them. -/
def reverseItems : Value → Value
  | .char c => .char c
  | .list vs => .list vs.reverse

end Value

inductive Transform where
  | identity
  | flatten
  /-- Takes a result apart and builds it again. -/
  | rebuild
  | upper
  | wrap
  | clear
  | first
  | last
  | reverse
  | dropRest
  /-- Every success becomes a failure in these words. -/
  | reject (text : Text)
  /-- Words for the want of input. -/
  | onEmpty (text : Text)
  /-- Words in front of any error. -/
  | ahead (text : Text)
  /-- A value instead of any error. -/
  | rescue (v : Value)

namespace Transform

def apply : Transform → Result → Result
  | identity, r => r
  | flatten, r => r.flatten
  | rebuild, r => .ofTaken r.taken
  | upper, r => r.map Value.shout
  | wrap, r => r.map fun v => .list [v]
  | clear, r => r.map fun _ => .list []
  | first, r => r.map Value.firstItem
  | last, r => r.map Value.lastItem
  | reverse, r => r.map Value.reverseItems
  | dropRest, r => { r with rest := [] }
  | reject text, r =>
    match r.outcome with
    | .ok _ => .failure (.described text)
    | .error _ => r
  | onEmpty text, r =>
    match r.outcome with
    | .error .emptyInput => .failure (.described text)
    | _ => r
  | ahead text, r =>
    match r.outcome with
    | .ok _ => r
    | .error e => .failure (.described (text ++ e.message))
  | rescue v, r =>
    match r.outcome with
    | .ok _ => r
    | .error _ => .success v r.rest

/-- The results before, between and after the transforms, which apply one after the other. -/
def results : List Transform → Result → List Result
  | [], r => [r]
  | f :: fs, r => r :: results fs (f.apply r)

end Transform

end CharGrammar

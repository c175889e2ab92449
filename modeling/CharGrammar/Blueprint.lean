import CharGrammar.CharClass
import CharGrammar.Grammar.Stock
import CharGrammar.Grammar.Tree
import CharGrammar.Recipes

/-!
Blueprints describe grammars in the terms of this library and are built against a table of
definitions. Parts are built before the whole and from left to right, and the first error ends
the building.
-/

namespace CharGrammar

inductive Blueprint where
  | char (c : Char)
  | seq (a b : Blueprint)
  | alt (a b : Blueprint)
  | map (f : Transform) (p : Blueprint)
  | label (text : Text) (p : Blueprint)
  | choice (ps : List Blueprint)
  | sequence (ps : List Blueprint)
  | oneOf (cs : Text)
  | word (cs : Text)
  | digit
  | letter
  | hexDigit
  | signedUnit
  | boolean
  | signOrPlus
  /-- A word, with its value in uppercase if `loud`. -/
  | voice (w : Text) (loud : Bool)
  | any
  | take (n : Nat)
  | eof
  | succeed (v : Value)
  | fail (e : ReadError)
  /-- Whatever is defined under the name when the text is read. -/
  | call (name : Text)
  | anything
  | skip (p : Blueprint)
  | probe (id : Text) (p : Blueprint)
  /-- What is defined under the name when the grammar is built. -/
  | defined (name : Text)
  /-- The same grammar behind a handle. -/
  | handle (p : Blueprint)

/-- Why a blueprint could not be built. -/
inductive BuildError where
  | fold (e : FoldError)
  | undefinedName
deriving DecidableEq

def BuildError.message : BuildError → Text
  | fold e => e.message
  | undefinedName => "undefined parser".toList

namespace Blueprint

def ofFold (g : Except FoldError Grammar) : Except BuildError Grammar := g.mapError .fold

mutual

def build (defs : Definitions) : Blueprint → Except BuildError Grammar
  | char c => .ok (.char c)
  | seq a b => do return .seq (← a.build defs) (← b.build defs)
  | alt a b => do return .alt (← a.build defs) (← b.build defs)
  | map f p => do return .map f.apply (← p.build defs)
  | label text p => do return .label text (← p.build defs)
  | choice ps => do ofFold (Grammar.choice (← buildAll defs ps))
  | sequence ps => do ofFold (Grammar.sequence (← buildAll defs ps))
  | oneOf cs => ofFold (Grammar.oneOf cs)
  | word cs => ofFold (Grammar.word cs)
  | digit => .ok CharClass.digit
  | letter => .ok CharClass.letter
  | hexDigit => .ok CharClass.hexDigit
  | signedUnit => .ok Recipes.signedUnit
  | boolean => ofFold Recipes.boolean
  | signOrPlus => .ok Recipes.signOrPlus
  | voice w loud => ofFold ((Recipes.voices w).map fun v => if loud then v.loud else v.quiet)
  | any => .ok .any
  | take n => .ok (.take n)
  | eof => .ok .eof
  | succeed v => .ok (.succeed v)
  | fail e => .ok (.fail e)
  | call name => .ok (.call name)
  | anything => .ok .anything
  | skip p => do return .skip (← p.build defs)
  | probe id p => do return .probe id (← p.build defs)
  | defined name =>
    match defs.find? name with
    | some g => .ok g
    | none => .error .undefinedName
  | handle p => p.build defs

def buildAll (defs : Definitions) : List Blueprint → Except BuildError (List Grammar)
  | [] => .ok []
  | p :: ps => do return (← p.build defs) :: (← buildAll defs ps)

end

/-- The spelled-out form of what a blueprint builds: a bare node shows itself, and everything
else is behind a handle. -/
def spelled? (hidden : Char → Bool) : Blueprint → Grammar → Option Text
  | char _, g | seq _ _, g | alt _ _, g | map _ _, g | label _ _, g => g.spelledNode? hidden
  | _, g => some (g.spelledHandle hidden)

end Blueprint

end CharGrammar

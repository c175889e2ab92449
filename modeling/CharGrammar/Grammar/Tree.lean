import CharGrammar.Grammar.Basic

/-!
Grammars drawn as indented trees, one line a node, and the spelled-out forms built on the trees.
-/

namespace CharGrammar.Grammar

/-- The glyph in front of a child that others follow. -/
def tee : Text := "├──".toList

/-- The glyph in front of a last child. -/
def corner : Text := "└──".toList

/-- What stands below the glyphs in an indent: the line down to the next child goes on below a
`tee`, and nothing stands below a `corner`. -/
def stem (indent : Text) : Text :=
  (indent.replaceAll tee "│  ".toList).replaceAll corner "   ".toList

/-- The indent of a child, made from that of its parent. -/
def childIndent (indent : Text) (last : Bool) : Text :=
  stem indent ++ if last then corner else tee

/-- The part of a type name that a tree shows. -/
def shownType (typeName : Text) : Text := typeName.afterLast "::".toList

/-- The tree behind the indent of its root. -/
def tree (hidden : Char → Bool) : Grammar → Text → Text
  | char c, indent => indent ++ "Char(".toList ++ Text.quoteChar hidden c ++ ")".toList
  | closure _, indent => indent ++ "fn(&str) -> ParseResult".toList
  | call _, indent => indent ++ "fn(&str) -> ParseResult".toList
  | custom typeName _, indent => indent ++ shownType typeName
  | probe _ p, indent => p.tree hidden indent
  | seq a b, indent =>
    indent ++ "and_then\n".toList ++ a.tree hidden (childIndent indent false) ++ '\n' ::
      b.tree hidden (childIndent indent true)
  | alt a b, indent =>
    indent ++ "or_else\n".toList ++ a.tree hidden (childIndent indent false) ++ '\n' ::
      b.tree hidden (childIndent indent true)
  | map _ p, indent => indent ++ "map\n".toList ++ p.tree hidden (childIndent indent true)
  | label l p, indent =>
    indent ++ Text.quoteText hidden l ++ '\n' :: p.tree hidden (childIndent indent true)

/-- The form of a grammar behind a handle: its tree, set in by two spaces. -/
def spelledHandle (hidden : Char → Bool) (p : Grammar) : Text :=
  "Parser(\n".toList ++ p.tree hidden "  ".toList ++ "\n)".toList

/-- The form of a bare node, its parts behind handles. A closure in it cannot be shown. -/
def spelledNode? (hidden : Char → Bool) : Grammar → Option Text
  | char c => some ("Char \x7b target: ".toList ++ Text.quoteChar hidden c ++ " \x7d".toList)
  | seq a b => some ("AndThen \x7b first: ".toList ++ a.spelledHandle hidden ++
      ", second: ".toList ++ b.spelledHandle hidden ++ " \x7d".toList)
  | alt a b => some ("OrElse \x7b first: ".toList ++ a.spelledHandle hidden ++
      ", second: ".toList ++ b.spelledHandle hidden ++ " \x7d".toList)
  | label l p => some ("Labelled \x7b parser: ".toList ++ p.spelledHandle hidden ++
      ", label: ".toList ++ Text.quoteText hidden l ++ " \x7d".toList)
  | map _ _ | closure _ | call _ | custom _ _ | probe _ _ => none

end CharGrammar.Grammar

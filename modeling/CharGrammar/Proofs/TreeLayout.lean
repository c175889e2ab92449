import CharGrammar.Grammar.Tree
import CharGrammar.Proofs.Replacement
import CharGrammar.Text.Hidden

/-!
The layout of drawn trees. The indents are made from one another by replacements in all that stands
there already. What comes out is a row for each node that can be written down without them: only
the indent given for the root is ever changed, and that once.
-/

namespace CharGrammar.Grammar

/-! ### Rows -/

/-- What stands right in front of a node that is not the root. -/
def glyph (last : Bool) : Text := if last then corner else tee

/-- What stands in its place in the rows of the nodes below. -/
def under (last : Bool) : Text := if last then "   ".toList else "│  ".toList

/-- A node of a drawn tree: whether each step from the root down to it is to a last child, and what
the node shows of itself. -/
structure Row where
  lasts : List Bool
  own : Text

/-- The row of a child's tree, seen from the parent. -/
def Row.below (last : Bool) (r : Row) : Row := { r with lasts := last :: r.lasts }

/-- All glyphs of a row: those of the ancestors are there no longer. -/
def rails (lasts : List Bool) : Text :=
  lasts.dropLast.flatMap under ++ lasts.getLast?.elim [] glyph

/-- A row behind an indent. Below the root the indent is without its glyphs. -/
def Row.text (indent : Text) (r : Row) : Text :=
  (if r.lasts = [] then indent else stem indent) ++ rails r.lasts ++ r.own

/-- The nodes that a tree shows, each before its children. A watched reader is no node of its own,
and of a reader of its own type nothing is shown below. -/
def rows (hidden : Char → Bool) : Grammar → List Row
  | char c => [⟨[], "Char(".toList ++ Text.quoteChar hidden c ++ ")".toList⟩]
  | closure _ | call _ => [⟨[], "fn(&str) -> ParseResult".toList⟩]
  | custom typeName _ => [⟨[], shownType typeName⟩]
  | probe _ p => p.rows hidden
  | seq a b =>
    ⟨[], "and_then".toList⟩ ::
      ((a.rows hidden).map (Row.below false) ++ (b.rows hidden).map (Row.below true))
  | alt a b =>
    ⟨[], "or_else".toList⟩ ::
      ((a.rows hidden).map (Row.below false) ++ (b.rows hidden).map (Row.below true))
  | map _ p => ⟨[], "map".toList⟩ :: (p.rows hidden).map (Row.below true)
  | label l p => ⟨[], Text.quoteText hidden l⟩ :: (p.rows hidden).map (Row.below true)

lemma rows_ne_nil (hidden : Char → Bool) (g : Grammar) : g.rows hidden ≠ [] := by
  induction g with
  | probe id p ih => exact ih
  | _ => exact List.cons_ne_nil _ _

@[simp] lemma rails_nil : rails [] = [] := rfl

@[simp] lemma rails_singleton (last : Bool) : rails [last] = glyph last := rfl

@[simp] lemma rails_cons_cons (last k : Bool) (ls : List Bool) :
    rails (last :: k :: ls) = under last ++ rails (k :: ls) := by
  simp [rails]

/-! ### Indents -/

/-- Neither of the glyphs occurs. -/
def Glyphless (s : Text) : Prop := ¬tee <:+: s ∧ ¬corner <:+: s

lemma stem_of_glyphless {s : Text} (h : Glyphless s) : stem s = s := by
  rw [stem, Text.replaceAll_of_not_infix h.1, Text.replaceAll_of_not_infix h.2]

/-- What takes the places of the glyphs has nothing in common with them. -/
lemma glyphless_stem (s : Text) : Glyphless (stem s) := by
  have hbar : List.Disjoint "│  ".toList tee := by simp [tee]
  have htee : List.Disjoint "   ".toList tee := by simp [tee]
  have hcorner : List.Disjoint "   ".toList corner := by simp [corner]
  constructor
  · intro h
    -- a `tee` that came with the second replacement would have been there before it
    have hfirst : tee <:+: Text.replaceAll s tee "│  ".toList :=
      Text.infix_of_infix_replaceAll (by decide) (by decide) (by decide) htee h
    exact Text.not_infix_replaceAll (by decide) (by decide) hbar hfirst
  · exact Text.not_infix_replaceAll (by decide) (by decide) hcorner

@[simp] lemma stem_stem (s : Text) : stem (stem s) = stem s :=
  stem_of_glyphless (glyphless_stem s)

/-- No glyph begins in front of another and runs on into it. -/
lemma stem_append_glyph (s : Text) (last : Bool) :
    stem (s ++ glyph last) = stem s ++ under last := by
  have htee : ∀ c ∈ (glyph last).head?, c ∉ tee.tail := by
    cases last <;> simp [glyph, tee, corner]
  have hfirst : Text.replaceAll (glyph last) tee "│  ".toList =
      if last then corner else "│  ".toList := by
    cases last <;> decide
  have hcorner : ∀ c ∈ (Text.replaceAll (glyph last) tee "│  ".toList).head?, c ∉ corner.tail := by
    rw [hfirst]
    cases last <;> simp [corner]
  have happend : stem (s ++ glyph last) = stem s ++ stem (glyph last) := by
    unfold stem
    rw [Text.replaceAll_append (by decide) htee, Text.replaceAll_append (by decide) hcorner]
  have hunder : stem (glyph last) = under last := by cases last <;> decide
  rw [happend, hunder]

/-- However deep the node, only one glyph is replaced in what its parent was given. -/
lemma stem_childIndent (indent : Text) (last : Bool) :
    stem (childIndent indent last) = stem indent ++ under last := by
  have h : childIndent indent last = stem indent ++ glyph last := rfl
  rw [h, stem_append_glyph, stem_stem]

/-- A row of a child behind the child's indent is the row seen from the parent behind its own. -/
lemma text_below (indent : Text) (last : Bool) (r : Row) :
    (r.below last).text indent = r.text (childIndent indent last) := by
  obtain ⟨_ | ⟨k, ls⟩, own⟩ := r
  · simp [Row.text, Row.below, childIndent, glyph]
  · simp [Row.text, Row.below, stem_childIndent]

lemma map_text_below (indent : Text) (last : Bool) (rs : List Row) :
    (rs.map (Row.below last)).map (Row.text indent) =
      rs.map (Row.text (childIndent indent last)) := by
  rw [List.map_map]
  exact List.map_congr_left fun r _ => text_below indent last r

lemma Glyphless.text_eq {indent : Text} (h : Glyphless indent) (r : Row) :
    r.text indent = indent ++ r.text [] := by
  have hnil : stem [] = [] := rfl
  simp [Row.text, stem_of_glyphless h, hnil]

/-! ### Lines -/

lemma intercalate_append {sep : Text} {ls ms : List Text} (hl : ls ≠ []) (hm : ms ≠ []) :
    sep.intercalate (ls ++ ms) = sep.intercalate ls ++ sep ++ sep.intercalate ms := by
  induction ls with
  | nil => exact absurd rfl hl
  | cons l ls ih =>
    cases ls with
    | nil => simp [List.intercalate_cons_of_ne_nil hm]
    | cons k ls =>
      have hk : k :: ls ≠ [] := List.cons_ne_nil k ls
      rw [List.cons_append, List.intercalate_cons_of_ne_nil (by simp), ih hk,
        List.intercalate_cons_of_ne_nil hk]
      simp only [List.append_assoc]

/-- The rows behind an indent, one a line. -/
def lines (indent : Text) (rs : List Row) : Text := ['\n'].intercalate (rs.map (Row.text indent))

section

variable {rs rs' : List Row} (indent own : Text)

lemma lines_singleton : lines indent [⟨[], own⟩] = indent ++ own := by
  simp [lines, Row.text]

lemma lines_append (h : rs ≠ []) (h' : rs' ≠ []) :
    lines indent (rs ++ rs') = lines indent rs ++ '\n' :: lines indent rs' := by
  rw [lines, List.map_append, intercalate_append (by simpa using h) (by simpa using h'),
    List.append_assoc]
  rfl

lemma lines_below (last : Bool) :
    lines indent (rs.map (Row.below last)) = lines (childIndent indent last) rs := by
  rw [lines, map_text_below]
  rfl

/-- A node with one child, whose rows are `rs`. -/
lemma lines_stalk (h : rs ≠ []) :
    lines indent (⟨[], own⟩ :: rs.map (Row.below true)) =
      indent ++ own ++ '\n' :: lines (childIndent indent true) rs := by
  have hbelow : rs.map (Row.below true) ≠ [] := by simpa using h
  rw [← List.singleton_append, lines_append indent (List.cons_ne_nil _ _) hbelow, lines_singleton,
    lines_below]

/-- A node with two children. -/
lemma lines_fork (h : rs ≠ []) (h' : rs' ≠ []) :
    lines indent (⟨[], own⟩ :: (rs.map (Row.below false) ++ rs'.map (Row.below true))) =
      indent ++ own ++ '\n' :: lines (childIndent indent false) rs ++
        '\n' :: lines (childIndent indent true) rs' := by
  have hfirst : rs.map (Row.below false) ≠ [] := by simpa using h
  have hlast : rs'.map (Row.below true) ≠ [] := by simpa using h'
  rw [← List.singleton_append, lines_append indent (List.cons_ne_nil _ _) (by simp [h]),
    lines_append indent hfirst hlast, lines_singleton, lines_below, lines_below]
  simp only [List.append_assoc, List.cons_append]

end

lemma tree_eq_lines (hidden : Char → Bool) (g : Grammar) (indent : Text) :
    g.tree hidden indent = lines indent (g.rows hidden) := by
  induction g generalizing indent with
  | char c => rw [rows, lines_singleton, tree, List.append_assoc, List.append_assoc]; rfl
  | closure f => rw [rows, lines_singleton, tree]
  | call name => rw [rows, lines_singleton, tree]
  | custom typeName p ih => rw [rows, lines_singleton, tree]
  | probe id p ih => exact ih indent
  | seq a b iha ihb =>
    have hown : "and_then\n".toList = "and_then".toList ++ ['\n'] := rfl
    rw [rows, lines_fork indent _ (rows_ne_nil hidden a) (rows_ne_nil hidden b), tree, iha, ihb,
      hown]
    simp only [List.append_assoc, List.cons_append, List.nil_append]
  | alt a b iha ihb =>
    have hown : "or_else\n".toList = "or_else".toList ++ ['\n'] := rfl
    rw [rows, lines_fork indent _ (rows_ne_nil hidden a) (rows_ne_nil hidden b), tree, iha, ihb,
      hown]
    simp only [List.append_assoc, List.cons_append, List.nil_append]
  | map f p ih =>
    have hown : "map\n".toList = "map".toList ++ ['\n'] := rfl
    rw [rows, lines_stalk indent _ (rows_ne_nil hidden p), tree, ih, hown]
    simp only [List.append_assoc, List.cons_append, List.nil_append]
  | label l p ih => rw [rows, lines_stalk indent _ (rows_ne_nil hidden p), tree, ih]

/-- **The layout of a tree**: the rows of its nodes from the top, one a line. Where the indent has
no glyph in it, it stands in front of each row and changes nothing else. -/
theorem tree_eq_rows (hidden : Char → Bool) (g : Grammar) (indent : Text) :
    g.tree hidden indent = ['\n'].intercalate ((g.rows hidden).map (Row.text indent)) ∧
      (¬tee <:+: indent → ¬corner <:+: indent →
        ∀ r ∈ g.rows hidden, r.text indent = indent ++ r.text []) := by
  refine ⟨tree_eq_lines hidden g indent, fun htee hcorner r _ => ?_⟩
  exact Glyphless.text_eq ⟨htee, hcorner⟩ r

/-- A choice under a label, in a sequence. -/
def labelledChoice : Grammar :=
  seq (label "a or b".toList (alt (char 'a') (char 'b'))) (char 'c')

/-- Behind a quotation mark the tree is as it is without one. The glyphs of an indent stand in front
of the root only, wherever they are in it. -/
theorem tree_eq_rows_quoted :
    ¬tee <:+: "> ".toList ∧ ¬corner <:+: "> ".toList ∧
      labelledChoice.tree Text.hidden "> ".toList =
        ['\n'].intercalate ((labelledChoice.rows Text.hidden).map (Row.text "> ".toList)) ∧
      (∀ r ∈ labelledChoice.rows Text.hidden, r.text "> ".toList = "> ".toList ++ r.text []) ∧
      labelledChoice.tree Text.hidden "├──> └──".toList =
        ['\n'].intercalate
          ["├──> └──and_then".toList,
            "│  >    ├──\"a or b\"".toList,
            "│  >    │  └──or_else".toList,
            "│  >    │     ├──Char('a')".toList,
            "│  >    │     └──Char('b')".toList,
            "│  >    └──Char('c')".toList] := by
  have htee : ¬tee <:+: "> ".toList := by decide
  have hcorner : ¬corner <:+: "> ".toList := by decide
  obtain ⟨htree, hrows⟩ := tree_eq_rows Text.hidden labelledChoice "> ".toList
  obtain ⟨hglyphs, -⟩ := tree_eq_rows Text.hidden labelledChoice "├──> └──".toList
  refine ⟨htee, hcorner, htree, hrows htee hcorner, hglyphs.trans ?_⟩
  decide +kernel

end CharGrammar.Grammar

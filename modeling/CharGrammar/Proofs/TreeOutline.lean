import CharGrammar.Grammar.Stock
import CharGrammar.Grammar.Tree
import CharGrammar.Proofs.Built
import CharGrammar.Proofs.Quoting
import CharGrammar.Text.Hidden
import CharGrammar.Transform

/-!
What a drawn tree tells about its grammar. Labels can look like nodes and like indents, but they
stand in quotes, so each node shows where it ends: the kinds of the nodes, the characters and the
labels can all be read back, and nothing else has an influence on the drawing.
-/

namespace CharGrammar.Grammar

/-- The leaves that are drawn as closures. -/
inductive IsClosure : Grammar → Prop where
  | closure (read : Text → Result) : IsClosure (.closure read)
  | call (name : Text) : IsClosure (.call name)

def IsCharOrClosure (g : Grammar) : Prop := IsChar g ∨ IsClosure g

/-- Grammars over characters and closures, with any transforms. None of their nodes is of a type
of its own. -/
abbrev Plain : Grammar → Prop := Built IsCharOrClosure fun _ => True

/-- The same nodes in the same places, with the same characters and labels. What closures do and
how results are transformed is left open. -/
inductive SameOutline : Grammar → Grammar → Prop where
  | char (c : Char) : SameOutline (.char c) (.char c)
  | closure {f f' : Grammar} (h : IsClosure f) (h' : IsClosure f') : SameOutline f f'
  | seq {a a' b b' : Grammar} (ha : SameOutline a a') (hb : SameOutline b b') :
      SameOutline (.seq a b) (.seq a' b')
  | alt {a a' b b' : Grammar} (ha : SameOutline a a') (hb : SameOutline b b') :
      SameOutline (.alt a b) (.alt a' b')
  | map (f f' : Result → Result) {p p' : Grammar} (hp : SameOutline p p') :
      SameOutline (.map f p) (.map f' p')
  | label (l : Text) {p p' : Grammar} (hp : SameOutline p p') :
      SameOutline (.label l p) (.label l p')

variable {g g' : Grammar} {hidden : Char → Bool}

lemma IsClosure.tree_eq (h : IsClosure g) (hidden : Char → Bool) (indent : Text) :
    g.tree hidden indent = indent ++ "fn(&str) -> ParseResult".toList := by
  cases h <;> rfl

/-- Induction over plain grammars. -/
@[elab_as_elim]
theorem Plain.induct {P : (g : Grammar) → Plain g → Prop}
    (char : ∀ c, P (.char c) (.leaf (Or.inl ⟨c, rfl⟩)))
    (closure : ∀ f (hf : IsClosure f), P f (.leaf (Or.inr hf)))
    (seq : ∀ a b (ha : Plain a) (hb : Plain b), P a ha → P b hb → P (.seq a b) (.seq ha hb))
    (alt : ∀ a b (ha : Plain a) (hb : Plain b), P a ha → P b hb → P (.alt a b) (.alt ha hb))
    (map : ∀ f p (hp : Plain p), P p hp → P (.map f p) (.map trivial hp))
    (label : ∀ l p (hp : Plain p), P p hp → P (.label l p) (.label l hp))
    {g : Grammar} (hg : Plain g) : P g hg := by
  induction hg with
  | leaf h =>
    rcases h with ⟨c, rfl⟩ | h
    · exact char c
    · exact closure _ h
  | seq ha hb iha ihb => exact seq _ _ ha hb iha ihb
  | alt ha hb iha ihb => exact alt _ _ ha hb iha ihb
  | map hf hp ih => exact map _ _ hp ih
  | label l hp ih => exact label l _ hp ih

/-- The drawing of a plain grammar shows where it ends. The kind of a node is told by the first
character behind the indent, and the indents of the children are told by that of the node. -/
lemma Plain.sameOutline_of_tree_append (hg : Plain g) (hg' : Plain g') {indent x y : Text}
    (h : g.tree hidden indent ++ x = g'.tree hidden indent ++ y) : SameOutline g g' ∧ x = y := by
  induction hg using Plain.induct generalizing g' indent x y with
  | char c =>
    induction hg' using Plain.induct with
    | char d =>
      have hquoted : Text.quoteChar hidden c ++ ')' :: x = Text.quoteChar hidden d ++ ')' :: y := by
        simpa [tree] using h
      obtain ⟨rfl, hend⟩ := Text.selfDelimiting_quoteChar hidden c d _ _ hquoted
      exact ⟨.char c, (List.cons.inj hend).2⟩
    | closure f hf => simp [tree, hf.tree_eq] at h
    | _ => simp [tree, Text.quoteText] at h
  | closure f hf =>
    induction hg' using Plain.induct with
    | closure f' hf' =>
      rw [hf.tree_eq, hf'.tree_eq] at h
      exact ⟨.closure hf hf', List.append_cancel_left h⟩
    | _ => simp [tree, hf.tree_eq, Text.quoteText] at h
  | seq a b ha hb iha ihb =>
    induction hg' using Plain.induct with
    | seq a' b' ha' hb' =>
      simp only [tree, List.append_assoc, List.cons_append] at h
      obtain ⟨hfirst, hrest⟩ := iha ha' (List.append_cancel_left (List.append_cancel_left h))
      obtain ⟨hlast, hxy⟩ := ihb hb' (List.cons.inj hrest).2
      exact ⟨.seq hfirst hlast, hxy⟩
    | closure f hf => simp [tree, hf.tree_eq] at h
    | _ => simp [tree, Text.quoteText] at h
  | alt a b ha hb iha ihb =>
    induction hg' using Plain.induct with
    | alt a' b' ha' hb' =>
      simp only [tree, List.append_assoc, List.cons_append] at h
      obtain ⟨hfirst, hrest⟩ := iha ha' (List.append_cancel_left (List.append_cancel_left h))
      obtain ⟨hlast, hxy⟩ := ihb hb' (List.cons.inj hrest).2
      exact ⟨.alt hfirst hlast, hxy⟩
    | closure f hf => simp [tree, hf.tree_eq] at h
    | _ => simp [tree, Text.quoteText] at h
  | map f p hp ih =>
    induction hg' using Plain.induct with
    | map f' p' hp' =>
      simp only [tree, List.append_assoc] at h
      obtain ⟨hbelow, hxy⟩ := ih hp' (List.append_cancel_left (List.append_cancel_left h))
      exact ⟨.map f f' hbelow, hxy⟩
    | closure f hf => simp [tree, hf.tree_eq] at h
    | _ => simp [tree, Text.quoteText] at h
  | label l p hp ih =>
    induction hg' using Plain.induct with
    | label l' p' hp' =>
      simp only [tree, List.append_assoc, List.cons_append] at h
      obtain ⟨rfl, hrest⟩ :=
        Text.selfDelimiting_quoteText hidden l l' _ _ (List.append_cancel_left h)
      obtain ⟨hbelow, hxy⟩ := ih hp' (List.cons.inj hrest).2
      exact ⟨.label l hbelow, hxy⟩
    | closure f hf => simp [tree, hf.tree_eq, Text.quoteText] at h
    | _ => simp [tree, Text.quoteText] at h

/-- What the outline leaves open is not drawn. -/
lemma SameOutline.tree_eq (h : SameOutline g g') (hidden : Char → Bool) (indent : Text) :
    g.tree hidden indent = g'.tree hidden indent := by
  induction h generalizing indent with
  | char c => rfl
  | closure h h' => rw [h.tree_eq, h'.tree_eq]
  | seq ha hb iha ihb => simp only [tree, iha, ihb]
  | alt ha hb iha ihb => simp only [tree, iha, ihb]
  | map f f' hp ih => simp only [tree, ih]
  | label l hp ih => simp only [tree, ih]

/-- **The drawing of a grammar is unambiguous**: plain grammars are drawn alike behind an indent, of
whatever text, exactly if their nodes are of the same kinds in the same places, with the same
characters and labels. It makes no difference which characters are hidden. -/
theorem tree_eq_iff_sameOutline (hg : Plain g) (hg' : Plain g') (hidden : Char → Bool)
    (indent : Text) : g.tree hidden indent = g'.tree hidden indent ↔ SameOutline g g' := by
  constructor
  · intro h
    have happend : g.tree hidden indent ++ [] = g'.tree hidden indent ++ [] := by rw [h]
    exact (Plain.sameOutline_of_tree_append hg hg' happend).1
  · exact fun h => h.tree_eq hidden indent

/-- A label with the text of a closing quote, of a choice and of its first side. -/
def pretender (p : Grammar) : Grammar := label "\"\nor_else\n├──Char('a')".toList p

/-- Two closures under two transforms are drawn alike, behind a glyph. The label is not drawn like
the choice that it has the text of. -/
theorem tree_eq_iff_sameOutline_pretender :
    let g := pretender (map Result.flatten any)
    let g' := pretender (map (Result.map Value.reverseItems) eof)
    let meant := label [] (alt (char 'a') (char 'b'))
    Plain g ∧ Plain g' ∧ SameOutline g g' ∧
      g.tree Text.hidden "├──".toList = g'.tree Text.hidden "├──".toList ∧
      Plain (pretender (char 'b')) ∧ Plain meant ∧
      (pretender (char 'b')).tree Text.hidden "├──".toList ≠
        meant.tree Text.hidden "├──".toList := by
  have hany : IsClosure any := .closure _
  have heof : IsClosure eof := .closure _
  have hg : Plain (pretender (map Result.flatten any)) :=
    .label _ (.map trivial (.leaf (Or.inr hany)))
  have hg' : Plain (pretender (map (Result.map Value.reverseItems) eof)) :=
    .label _ (.map trivial (.leaf (Or.inr heof)))
  have hsame := SameOutline.label "\"\nor_else\n├──Char('a')".toList
    (.map Result.flatten (Result.map Value.reverseItems) (.closure hany heof))
  have hlabel : Plain (pretender (char 'b')) := .label _ (.leaf (Or.inl ⟨'b', rfl⟩))
  have hmeant : Plain (label [] (alt (char 'a') (char 'b'))) :=
    .label _ (.alt (.leaf (Or.inl ⟨'a', rfl⟩)) (.leaf (Or.inl ⟨'b', rfl⟩)))
  refine ⟨hg, hg', hsame, (tree_eq_iff_sameOutline hg hg' Text.hidden _).mpr hsame, hlabel,
    hmeant, fun h => ?_⟩
  nomatch (tree_eq_iff_sameOutline hlabel hmeant Text.hidden _).mp h

/-- The quotes of the label are closed behind it only. -/
example :
    (pretender (char 'b')).tree (fun _ => false) [] =
      "\"\\\"\\nor_else\\n├──Char('a')\"\n└──Char('b')".toList := by
  decide +kernel

end CharGrammar.Grammar

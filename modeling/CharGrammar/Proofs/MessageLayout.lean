import CharGrammar.Proofs.Rendering
import CharGrammar.Proofs.Scoping
import CharGrammar.Text.Hidden

/-!
The message of a record: one line, in columns. The text being read always has its place, and so has
what stands behind a label, or behind an operation, that is not too wide for its column. Line ends
of the text, of the grammar and of errors are written as escapes. The label in force is the only
part that is written as it is.
-/

namespace CharGrammar

/-! ### Line ends in quoted forms -/

namespace Text

variable (hidden : Char → Bool)

lemma newline_notMem_framed {front t behind : Text} (hfront : '\n' ∉ front) (h : '\n' ∉ t)
    (hbehind : '\n' ∉ behind) : '\n' ∉ front ++ t ++ behind :=
  List.not_mem_append (List.not_mem_append hfront h) hbehind

lemma newline_notMem_codePoint (c : Char) : '\n' ∉ codePoint c :=
  fun h => forall_mem_codePoint (P := (· ≠ '\n')) (by simp) (by decide) c _ h rfl

lemma newline_notMem_quoteBody (q c : Char) : '\n' ∉ quoteBody hidden q c := by
  unfold quoteBody
  split
  · decide
  · decide
  · decide
  · decide
  · decide
  · next hnewline _ =>
    have hne : '\n' ≠ c := fun h => hnewline h.symm
    split
    · simpa using hne
    · split
      · exact newline_notMem_codePoint c
      · simpa using hne

lemma newline_notMem_quoteChar (c : Char) : '\n' ∉ quoteChar hidden c := by
  simp [quoteChar, newline_notMem_quoteBody]

lemma newline_notMem_quoteText (s : Text) : '\n' ∉ quoteText hidden s := by
  simp [quoteText, newline_notMem_quoteBody]

end Text

lemma ReadError.newline_notMem_spelled (hidden : Char → Bool) (e : ReadError) :
    '\n' ∉ e.spelled hidden := by
  cases e with
  | emptyInput =>
    rw [spelled_emptyInput]
    decide
  | mismatch c d =>
    have hexpected := Text.newline_notMem_quoteChar hidden c
    have hfound := Text.newline_notMem_quoteChar hidden d
    exact Text.newline_notMem_framed
      (Text.newline_notMem_framed (by decide) hexpected (by decide)) hfound (by decide)
  | described text =>
    exact Text.newline_notMem_framed (by decide) (Text.newline_notMem_quoteText hidden text)
      (by decide)

namespace Trace

variable (hidden : Char → Bool)

lemma Operation.newline_notMem_wording (op : Operation) : '\n' ∉ op.wording hidden := by
  cases op with
  | char c =>
    exact Text.newline_notMem_framed (by decide) (Text.newline_notMem_quoteChar hidden c)
      (by decide)
  | fallback =>
    exact Text.newline_notMem_framed (by decide) (Text.newline_notMem_quoteText hidden _)
      (by decide)
  | label text =>
    exact Text.newline_notMem_framed (by decide) (Text.newline_notMem_quoteText hidden text)
      (by decide)

lemma StepOutcome.newline_notMem_wording (o : StepOutcome) : '\n' ∉ o.wording hidden := by
  cases o with
  | matched c => exact Text.newline_notMem_quoteChar hidden c
  | failed e => exact e.newline_notMem_spelled hidden

lemma newline_notMem_column (s : Text) : '\n' ∉ column s :=
  fun h => absurd (printable_column s '\n' h).1 (by decide)

/-! ### Places in a message -/

lemma length_column (s : Text) : (column s).length = 35 := by
  have hle := length_shown_le s
  rw [column, List.length_rightpad]
  simp [columnWidth]
  omega

lemma rightpad_of_le {n : ℕ} {t : Text} (h : n ≤ t.length) : t.rightpad n ' ' = t := by
  simp [List.rightpad, h]

lemma length_rightpad_of_le {n : ℕ} {t : Text} (h : t.length ≤ n) :
    (t.rightpad n ' ').length = n := by
  rw [List.length_rightpad]
  omega

/-- What stands behind the operation. -/
def Record.ending (r : Record) : Text :=
  match r.outcome with
  | none => []
  | some o => " -> ".toList ++ o.wording hidden

/-- The places of the parts of a message. A label or an operation that is wider than its column
pushes aside what stands behind it. -/
structure Record.InColumns (r : Record) : Prop where
  text : (r.message hidden).take 35 = column r.text
  gap : (r.message hidden)[35]? = some ' '
  label : r.label <+: (r.message hidden).drop 36
  colon : r.label.length ≤ 15 → ((r.message hidden).drop 51).take 3 = " : ".toList
  operation : r.label.length ≤ 15 → r.operation.wording hidden <+: (r.message hidden).drop 54
  outcome : r.label.length ≤ 15 → (r.operation.wording hidden).length ≤ 15 →
    (r.message hidden).drop 69 = r.ending hidden

/-- Behind a part of the text the next one begins. -/
lemma drop_of_append {s t u : Text} {n k : ℕ} (h : s.drop n = t ++ u) (hk : n + t.length = k) :
    s.drop k = u := by
  rw [← hk, ← List.drop_drop, h, List.drop_left]

section

variable (r : Record)

lemma Record.message_eq :
    r.message hidden =
      column r.text ++ ([' '] ++ (r.label.rightpad 15 ' ' ++ (" : ".toList ++
        ((r.operation.wording hidden).rightpad 15 ' ' ++ r.ending hidden)))) := by
  have hcolumn : (column r.text).rightpad columnWidth ' ' = column r.text :=
    rightpad_of_le (length_column r.text).ge
  rw [message, hcolumn]
  simp only [List.append_assoc, List.cons_append]
  rfl

lemma Record.inColumns : r.InColumns hidden := by
  have hgap : (r.message hidden).drop 35 =
      [' '] ++ (r.label.rightpad 15 ' ' ++ (" : ".toList ++
        ((r.operation.wording hidden).rightpad 15 ' ' ++ r.ending hidden))) := by
    rw [message_eq]
    exact List.drop_left' (length_column r.text)
  have hlabel : (r.message hidden).drop 36 = _ := drop_of_append hgap rfl
  have hcolon (h : r.label.length ≤ 15) : (r.message hidden).drop 51 = _ :=
    drop_of_append hlabel (by rw [length_rightpad_of_le h])
  have hoperation (h : r.label.length ≤ 15) : (r.message hidden).drop 54 = _ :=
    drop_of_append (hcolon h) rfl
  constructor
  case text =>
    rw [message_eq]
    exact List.take_left' (length_column r.text)
  case gap =>
    rw [← List.head?_drop, hgap]
    rfl
  case label =>
    rw [hlabel, List.rightpad, List.append_assoc]
    exact List.prefix_append _ _
  case colon =>
    intro h
    rw [hcolon h]
    rfl
  case operation =>
    intro h
    rw [hoperation h, List.rightpad, List.append_assoc]
    exact List.prefix_append _ _
  case outcome =>
    intro h hop
    exact drop_of_append (hoperation h) (by rw [length_rightpad_of_le hop])

/-- All parts but the label are written so that they have no line end. -/
lemma Record.newline_mem_message_iff : '\n' ∈ r.message hidden ↔ '\n' ∈ r.label := by
  have hcolumn := newline_notMem_column r.text
  have hoperation := r.operation.newline_notMem_wording hidden
  have hending : '\n' ∉ r.ending hidden := by
    unfold ending
    split
    · exact List.not_mem_nil
    · exact List.not_mem_append (by decide) (StepOutcome.newline_notMem_wording hidden _)
  simp [message_eq, hcolumn, hoperation, hending]

end

end Trace

namespace Grammar

/-- A label in force is the one from the start or that of a node. -/
lemma scope_eq_or (g : Grammar) (l : Text) (p : Address) :
    g.scope l p = l ∨ ∃ q, (g.node? q).bind ownLabel? = some (g.scope l p) := by
  unfold scope
  cases h : (g.labelsTo p).getLast? with
  | none => exact Or.inl rfl
  | some k =>
    obtain ⟨q, -, hq⟩ := List.mem_filterMap.mp (List.mem_of_getLast? h)
    exact Or.inr ⟨q, hq⟩

/-- **Messages are single lines in columns.** Of every record of a reading the label is the one
from the start or that of a node of the grammar, and the parts of its message stand in their
columns. The message has a line end only if the label has one, whatever stands in the text, in the
grammar and in the errors of its closures. -/
theorem message_in_columns (hidden : Char → Bool) (g : Grammar) (l s : Text) :
    ∀ r ∈ (g.runUnder l s).records,
      (r.label = l ∨ ∃ p, (g.node? p).bind ownLabel? = some r.label) ∧
        r.InColumns hidden ∧ ('\n' ∈ r.message hidden ↔ '\n' ∈ r.label) := by
  intro r hr
  rw [records_runUnder] at hr
  obtain ⟨m, -, rfl⟩ := List.mem_map.mp hr
  exact ⟨scope_eq_or g l m.node, Trace.Record.inColumns hidden _,
    Trace.Record.newline_mem_message_iff hidden _⟩

/-- Line ends come in by the text, by the error of a closure and by a literal character. -/
theorem message_in_columns_lineEnds :
    let g := label "line".toList
      (alt (closure fun _ => .failure (.described "no\nline".toList)) (char '\n'))
    let given : Trace.Record := ⟨"x\ny".toList, "line".toList, .fallback,
      some (.failed (.described "no\nline".toList))⟩
    let last : Trace.Record := ⟨"x\ny".toList, "line".toList, .char '\n',
      some (.failed (.mismatch '\n' 'x'))⟩
    given ∈ (g.runUnder [] "x\ny".toList).records ∧
      last ∈ (g.runUnder [] "x\ny".toList).records ∧
      '\n' ∉ given.message Text.hidden ∧ '\n' ∉ last.message Text.hidden ∧
      "or_else(\"first\")".toList <+: (given.message Text.hidden).drop 54 ∧
      "char('\\n')".toList <+: (last.message Text.hidden).drop 54 ∧
      (last.message Text.hidden).drop 69 = last.ending Text.hidden ∧
      last.ending Text.hidden = " -> Mismatch \x7b expected: '\\n', found: 'x' \x7d".toList := by
  intro g given last
  have hgiven : given ∈ (g.runUnder [] "x\ny".toList).records := by decide
  have hlast : last ∈ (g.runUnder [] "x\ny".toList).records := by decide
  obtain ⟨-, hcolumns, hline⟩ := message_in_columns Text.hidden g [] "x\ny".toList given hgiven
  obtain ⟨-, hcolumns', hline'⟩ := message_in_columns Text.hidden g [] "x\ny".toList last hlast
  have hgivenUp : given.operation.wording Text.hidden = "or_else(\"first\")".toList := by
    decide +kernel
  have hchar : last.operation.wording Text.hidden = "char('\\n')".toList := by decide
  refine ⟨hgiven, hlast, ?_, ?_, ?_, ?_, hcolumns'.outcome (by decide) (by decide), ?_⟩
  · rw [hline]
    decide
  · rw [hline']
    decide
  · rw [← hgivenUp]
    exact hcolumns.operation (by decide)
  · rw [← hchar]
    exact hcolumns'.operation (by decide)
  · decide +kernel

end Grammar

end CharGrammar

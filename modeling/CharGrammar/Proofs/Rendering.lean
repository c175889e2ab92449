import Mathlib.Algebra.BigOperators.Group.List.Basic
import CharGrammar.Proofs.Quoting
import CharGrammar.Proofs.Replacement
import CharGrammar.Trace.Column

/-!
The column of a record, one character of the text at a time. The escapes of quotes are taken back in
the whole escaped text, and the text is cut both before and after the escape. Each quote stands
behind a backslash of its own there, so the replacements meet no other, and each character has at
least one character of the column, so the first cut takes nothing that the second would leave.
-/

namespace CharGrammar

namespace Text

/-! ### Escapes without a quote -/

/-- The code in which `q` stands for itself. -/
def bare (q : Char) (code : Char → Text) (c : Char) : Text := if c = q then [q] else code c

variable {code : Char → Text} {q : Char}

lemma isEscape_bare (hcode : IsEscape code) (hq : IsQuote q) : IsEscape (bare q code) := by
  intro c
  by_cases h : c = q
  · subst h
    exact Or.inr (Or.inr ⟨if_pos rfl, hq.slash_ne.symm⟩)
  · rw [bare, if_neg h]
    exact hcode c

lemma quote_notMem_codePoint (hq : IsQuote q) (c : Char) : q ∉ codePoint c := by
  intro h
  rcases hq with rfl | rfl
  · exact forall_mem_codePoint (P := (· ≠ '\x27')) (by simp) (by decide) c _ h rfl
  · exact forall_mem_codePoint (P := (· ≠ '\x22')) (by simp) (by decide) c _ h rfl

/-- A quote with a backslash in front stands in the escape of the quote alone. -/
lemma not_infix_of_ne (hcode : IsEscape code) (hq : IsQuote q) {c : Char} (hne : c ≠ q) :
    ¬['\\', q] <:+: code c := by
  intro h
  rcases hcode c with ⟨e, -, hc, rfl⟩ | hc | ⟨hc, -⟩
  · rw [hc] at h
    obtain rfl : q = e := by simpa using h.eq_of_length rfl
    exact hne hq.escaped_eq
  · rw [hc] at h
    exact quote_notMem_codePoint hq c (h.subset (by simp))
  · rw [hc] at h
    exact absurd h.length_le (by simp)

/-- **One replacement takes the escapes of one quote back**, and changes nothing else. -/
lemma replaceAll_flatMap_escape (hcode : IsEscape code) (hq : IsQuote q)
    (hself : code q = ['\\', q]) (s : Text) :
    replaceAll (s.flatMap code) ['\\', q] [q] = s.flatMap (bare q code) := by
  have hpat : ['\\', q] ≠ [] := List.cons_ne_nil _ _
  have hhead : ∀ c, ∀ d ∈ (code c).head?, d ∉ ['\\', q].tail := by
    intro c d hd
    obtain ⟨e, r, hc, hne⟩ := hcode.head_ne hself hq.slash_ne c
    rw [hc] at hd
    obtain rfl : e = d := by simpa using hd
    simpa using hne
  have hword : ∀ c, replaceAll (code c) ['\\', q] [q] = bare q code c := by
    intro c
    by_cases h : c = q
    · subst h
      rw [hself, bare, if_pos rfl]
      exact replaceAll_pattern_append hpat []
    · rw [bare, if_neg h]
      exact replaceAll_of_not_infix (not_infix_of_ne hcode hq h)
  rw [replaceAll_flatMap hpat hhead]
  exact congrArg (s.flatMap ·) (funext hword)

/-! ### Cuts -/

section

variable {α : Type} {word : α → Text}

lemma length_le_length_flatMap (h : ∀ a, word a ≠ []) (as : List α) :
    as.length ≤ (as.flatMap word).length := by
  have hone : ∀ n ∈ as.map fun a => (word a).length, 1 ≤ n := by
    intro n hn
    obtain ⟨a, -, rfl⟩ := List.mem_map.mp hn
    exact List.length_pos_of_ne_nil (h a)
  simpa [List.length_flatMap] using List.length_le_sum_of_one_le _ hone

/-- As many words as there are characters to be kept are enough. -/
lemma take_flatMap_take (h : ∀ a, word a ≠ []) (as : List α) (n : ℕ) :
    ((as.take n).flatMap word).take n = (as.flatMap word).take n := by
  rcases le_total as.length n with hle | hle
  · rw [List.take_of_length_le hle]
  · have hlen : n ≤ ((as.take n).flatMap word).length := by
      have := length_le_length_flatMap h (as.take n)
      rwa [List.length_take_of_le hle] at this
    calc ((as.take n).flatMap word).take n
        = ((as.take n).flatMap word ++ (as.drop n).flatMap word).take n :=
          (List.take_append_of_le_length hlen).symm
      _ = (as.flatMap word).take n := by rw [← List.flatMap_append, List.take_append_drop]

end

end Text

namespace Trace

/-! ### Characters of the column -/

/-- How a character is shown: a quote as it is, everything else escaped. -/
def render (c : Char) : Text := if c = '\x27' ∨ c = '\x22' then [c] else Text.escapeChar c

def rendering (s : Text) : Text := s.flatMap render

lemma render_eq_bare : render = Text.bare '\x27' (Text.bare '\x22' Text.escapeChar) := by
  funext c
  unfold render Text.bare
  by_cases hsingle : c = '\x27'
  · simp [hsingle]
  · by_cases hdouble : c = '\x22' <;> simp [hsingle, hdouble]

/-- The replacement of double quotes leaves the escapes of single ones as they are. -/
lemma unescapeQuotes_escape (s : Text) : unescapeQuotes (Text.escape s) = rendering s := by
  have hdouble : Text.IsQuote '\x22' := Or.inr rfl
  have hsingle : Text.IsQuote '\x27' := Or.inl rfl
  have hescape := Text.isEscape_escapeChar
  calc unescapeQuotes (Text.escape s)
      = Text.replaceAll (Text.replaceAll (s.flatMap Text.escapeChar) ['\\', '\x22'] ['\x22'])
          ['\\', '\x27'] ['\x27'] := rfl
    _ = Text.replaceAll (s.flatMap (Text.bare '\x22' Text.escapeChar)) ['\\', '\x27'] ['\x27'] := by
        rw [Text.replaceAll_flatMap_escape hescape hdouble rfl]
    _ = s.flatMap (Text.bare '\x27' (Text.bare '\x22' Text.escapeChar)) :=
        Text.replaceAll_flatMap_escape (Text.isEscape_bare hescape hdouble) hsingle rfl s
    _ = rendering s := by rw [rendering, render_eq_bare]

lemma isEscape_render : Text.IsEscape render := by
  rw [render_eq_bare]
  exact Text.isEscape_bare (Text.isEscape_bare Text.isEscape_escapeChar (Or.inr rfl)) (Or.inl rfl)

lemma render_ne_nil (c : Char) : render c ≠ [] := by
  rcases isEscape_render c with ⟨e, -, hc, -⟩ | hc | ⟨hc, -⟩
  all_goals rw [hc]; exact List.cons_ne_nil _ _

lemma shown_eq_take (s : Text) : shown s = (rendering s).take shownWidth := by
  rw [shown, unescapeQuotes_escape]
  exact Text.take_flatMap_take render_ne_nil s shownWidth

lemma column_eq (s : Text) :
    column s = '|' :: shown s ++ '|' :: List.replicate (33 - (shown s).length) ' ' := by
  simp [column, List.rightpad, columnWidth]

lemma length_shown_le (s : Text) : (shown s).length ≤ 33 := by
  rw [shown_eq_take]
  exact List.length_take_le _ _

/-! ### Printable ASCII -/

lemma printable_escapeChar (c : Char) : ∀ d ∈ Text.escapeChar c, ' ' ≤ d ∧ d ≤ '~' := by
  unfold Text.escapeChar
  split
  · simp
  · simp
  · simp
  · simp
  · simp
  · simp
  · split
    · next h => simpa using h
    · exact Text.forall_mem_codePoint (by simp) (by decide) c

lemma printable_render (c : Char) : ∀ d ∈ render c, ' ' ≤ d ∧ d ≤ '~' := by
  unfold render
  split
  · next h => rcases h with rfl | rfl <;> simp
  · exact printable_escapeChar c

lemma printable_rendering (s : Text) : ∀ d ∈ rendering s, ' ' ≤ d ∧ d ≤ '~' := by
  intro d hd
  obtain ⟨c, -, hc⟩ := List.mem_flatMap.mp hd
  exact printable_render c d hc

lemma printable_column (s : Text) : ∀ d ∈ column s, ' ' ≤ d ∧ d ≤ '~' := by
  intro d hd
  rw [column_eq, List.mem_append, List.mem_cons, List.mem_cons, List.mem_replicate] at hd
  rcases hd with (rfl | hd) | rfl | ⟨-, rfl⟩
  · decide
  · rw [shown_eq_take] at hd
    exact printable_rendering s d (List.mem_of_mem_take hd)
  · decide
  · decide

/-- **The column renders its text character by character.** Over a whole text the two replacements
take the escapes of quotes back and nothing else, whatever stands beside them, and the cut in front
of the escape makes no difference to the one behind it. The column is as wide for every text, and
printable. -/
theorem column_eq_rendering (s : Text) :
    unescapeQuotes (Text.escape s) = rendering s ∧
      shown s = (unescapeQuotes (Text.escape s)).take 33 ∧
      column s = ('|' :: (rendering s).take 33 ++ ['|']).rightpad 35 ' ' ∧
      (column s).length = 35 ∧ ∀ c ∈ column s, ' ' ≤ c ∧ c ≤ '~' := by
  have hshown : shown s = (rendering s).take 33 := shown_eq_take s
  have hlength : (column s).length = 35 := by
    have hle := length_shown_le s
    simp only [column_eq, List.length_append, List.length_cons, List.length_replicate]
    omega
  refine ⟨unescapeQuotes_escape s, ?_, ?_, hlength, printable_column s⟩
  · rw [unescapeQuotes_escape, hshown]
  · rw [column, hshown]
    rfl

/-- The backslashes of the text stay escaped, next to its quotes as well. -/
example : shown "a\\'\\\\\"\n".toList = "a\\\\'\\\\\\\\\"\\n".toList := by
  decide +kernel

end Trace

end CharGrammar

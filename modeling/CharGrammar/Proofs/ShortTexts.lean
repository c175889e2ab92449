import CharGrammar.Proofs.Truncation

/-!
Texts that fit into the column. The padding stands behind the last bar, so bars and spaces of the
text do not blur what is shown, and a row of renderings comes apart in one way only. Nothing of the
text is lost then, and the column tells it from all others that fit.
-/

namespace CharGrammar.Trace

/-! ### Renderings taken apart -/

/-- A rendering is printable, so a line end behind it can be told from it. -/
lemma render_head_ne (c : Char) : ∃ d r, render c = d :: r ∧ d ≠ '\n' := by
  obtain ⟨d, r, hc⟩ := List.exists_cons_of_ne_nil (render_ne_nil c)
  refine ⟨d, r, hc, ?_⟩
  rintro rfl
  have hprintable : ' ' ≤ '\n' := (printable_render c '\n' (by simp [hc])).1
  exact absurd hprintable (by decide)

lemma rendering_injective : Function.Injective rendering := by
  intro s t h
  have hend : rendering s ++ ['\n'] ++ [] = rendering t ++ ['\n'] ++ [] := by rw [h]
  exact (isEscape_render.selfDelimiting.flatMap render_head_ne s t [] [] hend).1

/-! ### Columns told apart -/

/-- The column has nothing to tell two texts apart but what stands between its bars. -/
lemma column_eq_column_iff_shown {s t : Text} : column s = column t ↔ shown s = shown t := by
  constructor
  · intro h
    rw [← betweenBars_column, h, betweenBars_column]
  · intro h
    rw [column, column, h]

lemma shown_eq_rendering {s : Text} (h : (rendering s).length ≤ 33) : shown s = rendering s := by
  rw [shown_eq_take]
  exact List.take_of_length_le h

/-- **Short texts can be read back from the column.** Two texts that fit in have the same column
only if they are the same, whatever bars, spaces, backslashes and quotes are in them. -/
theorem column_eq_column_iff {s t : Text} (hs : (rendering s).length ≤ 33)
    (ht : (rendering t).length ≤ 33) : column s = column t ↔ s = t := by
  rw [column_eq_column_iff_shown, shown_eq_rendering hs, shown_eq_rendering ht]
  exact rendering_injective.eq_iff

/-- A character that is shown by code point is told from the text that looks like its escape. -/
theorem column_eq_column_iff_lookalike :
    (rendering "é|".toList).length ≤ 33 ∧ (rendering "\\u\x7be9\x7d| ".toList).length ≤ 33 ∧
      column "é|".toList ≠ column "\\u\x7be9\x7d| ".toList := by
  have hs : (rendering "é|".toList).length ≤ 33 := by decide +kernel
  have ht : (rendering "\\u\x7be9\x7d| ".toList).length ≤ 33 := by decide +kernel
  refine ⟨hs, ht, fun h => ?_⟩
  have heq := (column_eq_column_iff hs ht).mp h
  exact absurd heq (by decide)

/-- With one character more there are texts that the column confuses. -/
example :
    column (List.replicate 33 'a' ++ ['b']) = column (List.replicate 33 'a' ++ ['c']) := by
  decide +kernel

end CharGrammar.Trace

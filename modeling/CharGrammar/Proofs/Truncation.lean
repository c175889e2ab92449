import Mathlib.Data.List.DropRight
import CharGrammar.Proofs.Rendering

/-!
Where the column cuts its text. Between the bars stand the complete renderings of the first
characters of the text, and behind them, if the width runs out in the middle of a rendering, a part
of the next one. Nothing but complete renderings is shown exactly if some front of the text fills
the width, or the whole text fits in.
-/

namespace CharGrammar

namespace Text

variable {α : Type} {word : α → Text}

/-- The first `n` characters of words in a row: whole words, and a part of the next one. -/
lemma exists_take_flatMap (word : α → Text) (as : List α) (n : ℕ) :
    ∃ bs r, bs <+: as ∧ (as.flatMap word).take n = bs.flatMap word ++ r ∧
      (r = [] ∨ ∃ a, bs ++ [a] <+: as ∧ r <+: word a ∧ r ≠ word a) := by
  induction as generalizing n with
  | nil => exact ⟨[], [], List.nil_prefix, by simp, Or.inl rfl⟩
  | cons a as ih =>
    rcases Nat.lt_or_ge n (word a).length with hlt | hle
    · -- the first word is not complete
      refine ⟨[], (word a).take n, List.nil_prefix, ?_, Or.inr ⟨a, ?_, List.take_prefix n _, ?_⟩⟩
      · rw [List.flatMap_cons, List.take_append_of_le_length hlt.le]
        rfl
      · exact ⟨as, rfl⟩
      · intro h
        have hlen := congrArg List.length h
        rw [List.length_take] at hlen
        omega
    · obtain ⟨bs, r, hbs, htake, hr⟩ := ih (n - (word a).length)
      refine ⟨a :: bs, r, (List.prefix_cons_inj a).mpr hbs, ?_, ?_⟩
      · rw [List.flatMap_cons, List.take_append, List.take_of_length_le hle, htake,
          List.flatMap_cons, List.append_assoc]
      · rcases hr with rfl | ⟨b, hb, hr⟩
        · exact Or.inl rfl
        · exact Or.inr ⟨b, (List.prefix_cons_inj a).mpr hb, hr⟩

end Text

namespace Trace

/-- What stands between the first bar and the last one. -/
def betweenBars (t : Text) : Text := ((t.dropWhile (· ≠ '|')).tail.rdropWhile (· ≠ '|')).dropLast

/-- The padding is behind the last bar. -/
lemma rdropWhile_append_spaces (t : Text) (n : ℕ) :
    (t ++ List.replicate n ' ').rdropWhile (· ≠ '|') = t.rdropWhile (· ≠ '|') := by
  induction n with
  | zero => simp
  | succ n ih =>
    rw [List.replicate_succ', ← List.append_assoc, List.rdropWhile_concat_pos _ _ _ (by decide), ih]

/-- Bars of the text do not matter: the column begins with a bar, and ends with one and spaces. -/
lemma betweenBars_column (s : Text) : betweenBars (column s) = shown s := by
  have hfirst : (column s).dropWhile (· ≠ '|') = column s := by
    rw [column_eq, List.cons_append, List.dropWhile_cons_of_neg (by simp)]
  rw [betweenBars, hfirst, column_eq, List.cons_append, List.tail_cons,
    ← List.singleton_append, ← List.append_assoc, rdropWhile_append_spaces,
    List.rdropWhile_concat_neg _ _ _ (by simp), List.dropLast_concat]

/-- A front of the text is what is shown if it renders to as many characters. -/
lemma shown_eq_rendering_iff {q s : Text} (h : q <+: s) :
    shown s = rendering q ↔ (rendering q).length = min 33 (rendering s).length := by
  have hshown : shown s = (rendering s).take 33 := shown_eq_take s
  constructor
  · intro heq
    rw [← heq, hshown, List.length_take]
  · intro hlen
    have hq : rendering q = (rendering s).take (rendering q).length :=
      List.prefix_iff_eq_take.mp (h.flatMap render)
    rw [hshown, hq, hlen, ← List.take_take, List.take_length]

/-- **Where the column cuts.** What stands between its bars is the complete rendering of a front of
the text and a part of the rendering of the next character, which may be empty. It is the complete
rendering of a front, and no more, exactly if there is a front that renders to 33 characters, or to
as many as the whole text if those are fewer. -/
theorem betweenBars_column_cut (s : Text) :
    (∃ q r, q <+: s ∧ betweenBars (column s) = rendering q ++ r ∧
        (r = [] ∨ ∃ c, q ++ [c] <+: s ∧ r <+: render c ∧ r ≠ render c)) ∧
      ((∃ q, q <+: s ∧ betweenBars (column s) = rendering q) ↔
        ∃ q, q <+: s ∧ (rendering q).length = min 33 (rendering s).length) := by
  rw [betweenBars_column]
  constructor
  · rw [shown_eq_take]
    exact Text.exists_take_flatMap render s 33
  · exact exists_congr fun q => and_congr_right shown_eq_rendering_iff

/-- Six characters of six columns each are cut in the middle of the last one. -/
theorem not_exists_complete_rendering :
    ¬∃ q, q <+: "éééééé".toList ∧ betweenBars (column "éééééé".toList) = rendering q := by
  rintro ⟨q, hq, hbetween⟩
  have hfronts : ∀ q ∈ "éééééé".toList.inits,
      betweenBars (column "éééééé".toList) ≠ rendering q := by
    decide +kernel
  exact hfronts q ((List.mem_inits q _).mpr hq) hbetween

/-- The part that is left of the sixth character. -/
example :
    betweenBars (column "éééééé".toList) = rendering "ééééé".toList ++ "\\u\x7b".toList := by
  decide +kernel

end Trace

end CharGrammar

import CharGrammar.Proofs.MoreText
import CharGrammar.Proofs.OrderedChoice

/-!
How far a grammar reads and looks. The lengths of its words bound what a success consumes, and
nothing behind the longest of them is ever looked at.
-/

namespace CharGrammar

/-- Texts with the same `n` characters in front are one text, or they go on behind a front that is no
shorter. -/
lemma Text.eq_or_exists_front {n : Nat} {s t : Text} (h : s.take n = t.take n) :
    s = t ∨ ∃ u x y, n ≤ u.length ∧ s = u ++ x ∧ t = u ++ y := by
  have hlength : min n s.length = min n t.length := by simpa using congrArg List.length h
  by_cases hs : n ≤ s.length
  · have hu : n ≤ (s.take n).length := by
      rw [List.length_take]
      omega
    have ht : t = s.take n ++ t.drop n := by rw [h, List.take_append_drop]
    exact Or.inr ⟨s.take n, s.drop n, t.drop n, hu, (List.take_append_drop n s).symm, ht⟩
  · have ht : t.length ≤ n := by omega
    rw [List.take_of_length_le (by omega), List.take_of_length_le ht] at h
    exact Or.inl h

namespace Grammar

/-- The length of a shortest word. -/
def minLength : Grammar → Nat
  | char _ => 1
  | closure _ | call _ => 0
  | seq a b => a.minLength + b.minLength
  | alt a b => min a.minLength b.minLength
  | custom _ p | probe _ p | map _ p | label _ p => p.minLength

/-- The length of a longest word. -/
def maxLength : Grammar → Nat
  | char _ => 1
  | closure _ | call _ => 0
  | seq a b => a.maxLength + b.maxLength
  | alt a b => max a.maxLength b.maxLength
  | custom _ p | probe _ p | map _ p | label _ p => p.maxLength

/-! ### What is consumed -/

lemma Literal.minLength_pos {g : Grammar} (hg : Literal g) : 1 ≤ g.minLength := by
  induction hg using Literal.induct with
  | char c => exact le_rfl
  | seq a b ha hb iha ihb => exact iha.trans (Nat.le_add_right _ _)
  | alt a b ha hb iha ihb => exact le_min iha ihb
  | map h p hp ih => exact ih
  | label l p hp ih => exact ih

/-- The lengths of all words lie between the two. -/
lemma length_of_mem_language {g : Grammar} {w : Text} (hw : w ∈ g.language) :
    g.minLength ≤ w.length ∧ w.length ≤ g.maxLength := by
  induction g generalizing w with
  | char c =>
    obtain rfl : w = [c] := hw
    exact ⟨le_rfl, le_rfl⟩
  | closure f => exact absurd hw (Language.notMem_zero w)
  | call name => exact absurd hw (Language.notMem_zero w)
  | custom typeName p ih => exact ih hw
  | probe id p ih => exact ih hw
  | seq a b iha ihb =>
    obtain ⟨u, hu, v, hv, rfl⟩ := Language.mem_mul.mp hw
    obtain ⟨hminu, hmaxu⟩ := iha hu
    obtain ⟨hminv, hmaxv⟩ := ihb hv
    rw [minLength, maxLength, List.length_append]
    omega
  | alt a b iha ihb =>
    rw [minLength, maxLength]
    rcases hw with hw | hw
    · obtain ⟨hmin, hmax⟩ := iha hw
      omega
    · obtain ⟨hmin, hmax⟩ := ihb hw
      omega
  | map f p ih => exact ih hw
  | label l p ih => exact ih hw

lemma Literal.consumed_length {g : Grammar} (hg : Literal g) {s r : Text} {v : Value}
    (h : g.parse s = .success v r) :
    ∃ w, s = w ++ r ∧ g.minLength ≤ w.length ∧ w.length ≤ g.maxLength := by
  obtain ⟨w, hw, hs⟩ := Literal.consumed_mem hg h
  exact ⟨w, hs, length_of_mem_language hw⟩

/-! ### What is looked at -/

/-- A text as long as a longest word never runs dry: what the first part of a sequence leaves is
still long enough for the second. -/
lemma Literal.not_runsDry {g : Grammar} (hg : Literal g) {s : Text}
    (hs : g.maxLength ≤ s.length) : ¬g.RunsDry s := by
  induction hg using Literal.induct generalizing s with
  | char c =>
    rw [runsDry_char]
    rintro rfl
    exact absurd hs (Nat.not_succ_le_zero 0)
  | seq a b ha hb iha ihb =>
    rw [maxLength] at hs
    rw [runsDry_seq]
    rintro (hdry | ⟨v, r, hx, hdry⟩)
    · exact iha (by omega) hdry
    · obtain ⟨w, rfl, -, hw⟩ := Literal.consumed_length ha hx
      rw [List.length_append] at hs
      exact ihb (by omega) hdry
  | alt a b ha hb iha ihb =>
    rw [maxLength] at hs
    rw [runsDry_alt]
    rintro (hdry | ⟨-, hdry⟩)
    · exact iha (by omega) hdry
    · exact ihb (by omega) hdry
  | map h p hp ih =>
    rw [runsDry_map]
    exact ih hs
  | label l p hp ih =>
    rw [runsDry_label]
    exact ih hs

/-- Whatever stands behind a text of that length only adds to the rest. -/
lemma Literal.parse_append_of_maxLength_le {g : Grammar} (hg : Literal g) {u : Text}
    (hu : g.maxLength ≤ u.length) (x : Text) : g.parse (u ++ x) = (g.parse u).addRest x :=
  Literal.parse_append hg (Literal.not_runsDry hg hu) x

/-- Two texts that go together as far as a longest word are read alike. -/
lemma Literal.parse_eq_of_take_eq {g : Grammar} (hg : Literal g) {s t : Text}
    (h : s.take g.maxLength = t.take g.maxLength) :
    (g.parse s).outcome = (g.parse t).outcome ∧
      ∀ v r, g.parse s = .success v r →
        ∃ w q, s = w ++ r ∧ t = w ++ q ∧ g.parse t = .success v q := by
  rcases Text.eq_or_exists_front h with rfl | ⟨u, x, y, hu, rfl, rfl⟩
  · refine ⟨rfl, fun v r hx => ?_⟩
    obtain ⟨w, hw, -⟩ := Literal.consumed_length hg hx
    exact ⟨w, r, hw, hw, hx⟩
  · rw [Literal.parse_append_of_maxLength_le hg hu x, Literal.parse_append_of_maxLength_le hg hu y]
    refine ⟨by rw [Result.outcome_addRest, Result.outcome_addRest], fun v r hx => ?_⟩
    obtain ⟨q, hq, rfl⟩ := Result.addRest_eq_success.mp hx
    obtain ⟨w, hw, -⟩ := Literal.consumed_length hg hq
    refine ⟨w, q ++ y, ?_, ?_, ?_⟩
    · rw [hw, List.append_assoc]
    · rw [hw, List.append_assoc]
    · rw [hq, Result.addRest_success]

/-- **Consumption and lookahead are bounded.** A success consumes no less than a shortest word,
which is something, and no more than a longest one. A text as long as that never runs dry, and what
stands behind is not looked at: it changes neither the value nor the error nor what is consumed. -/
theorem consumption_and_lookahead_bounded {g : Grammar} (hg : Literal g) (s : Text) :
    1 ≤ g.minLength ∧
      (∀ v r, g.parse s = .success v r →
        ∃ w, s = w ++ r ∧ g.minLength ≤ w.length ∧ w.length ≤ g.maxLength) ∧
      (g.maxLength ≤ s.length →
        ¬g.RunsDry s ∧ (g.parse s).outcome ≠ .error .emptyInput) ∧
      ∀ t, s.take g.maxLength = t.take g.maxLength →
        (g.parse s).outcome = (g.parse t).outcome ∧
          ∀ v r, g.parse s = .success v r →
            ∃ w q, s = w ++ r ∧ t = w ++ q ∧ g.parse t = .success v q := by
  refine ⟨Literal.minLength_pos hg, fun v r h => Literal.consumed_length hg h, fun hs => ?_,
    fun t h => Literal.parse_eq_of_take_eq hg h⟩
  have hdry := Literal.not_runsDry hg hs
  exact ⟨hdry, fun h => hdry (Literal.runsDry_of_emptyInput hg h)⟩

/-- Words of two and of three characters. Behind `abx` the text is never looked at, although no more
than `ab` is read of it. -/
theorem consumption_and_lookahead_bounded_abx :
    Literal abcOrAb ∧ abcOrAb.minLength = 2 ∧ abcOrAb.maxLength = 3 ∧
      abcOrAb.parse "abx".toList = .success (.list [.char 'a', .char 'b']) "x".toList ∧
      ¬abcOrAb.RunsDry "abx".toList ∧
      ∀ t, "abx".toList <+: t → ∃ q, t = "ab".toList ++ q ∧
        abcOrAb.parse t = .success (.list [.char 'a', .char 'b']) q := by
  have hg : Literal abcOrAb := built_abcOrAb onValues_flatten
  obtain ⟨-, -, hlong, hfront⟩ := consumption_and_lookahead_bounded hg "abx".toList
  refine ⟨hg, rfl, rfl, rfl, (hlong (by decide)).1, ?_⟩
  rintro t ⟨x, rfl⟩
  obtain ⟨w, q, hw, ht, hread⟩ := (hfront ("abx".toList ++ x) rfl).2 _ _ rfl
  obtain rfl : "ab".toList = w := List.append_cancel_right (show _ ++ "x".toList = _ from hw)
  exact ⟨q, ht, hread⟩

end Grammar

end CharGrammar

import CharGrammar.Proofs.Language

/-!
Ordered choice against the language of the grammar. What a literal grammar consumes is always one
of its words. The converse needs choices apart: then the order of the alternatives decides
neither whether a text is read nor how much of it.
-/

namespace CharGrammar.Grammar

/-- The sides of some choices have changed places. -/
inductive Reordered : Grammar → Grammar → Prop where
  | refl (g : Grammar) : Reordered g g
  | seq {a a' b b' : Grammar} (ha : Reordered a a') (hb : Reordered b b') :
      Reordered (.seq a b) (.seq a' b')
  | alt {a a' b b' : Grammar} (ha : Reordered a a') (hb : Reordered b b') :
      Reordered (.alt a b) (.alt a' b')
  | swap {a a' b b' : Grammar} (ha : Reordered a a') (hb : Reordered b b') :
      Reordered (.alt a b) (.alt b' a')
  | map (f : Result → Result) {p p' : Grammar} (hp : Reordered p p') :
      Reordered (.map f p) (.map f p')
  | label (l : Text) {p p' : Grammar} (hp : Reordered p p') :
      Reordered (.label l p) (.label l p')

lemma Reordered.language_eq {g g' : Grammar} (h : Reordered g g') :
    g'.language = g.language := by
  induction h with
  | refl g => rfl
  | seq ha hb iha ihb => simp only [language, iha, ihb]
  | alt ha hb iha ihb => simp only [language, iha, ihb]
  | swap ha hb iha ihb => simp only [language, iha, ihb, add_comm]
  | map f hp ih => exact ih
  | label l hp ih => exact ih

lemma Reordered.choicesApart {g g' : Grammar} (h : Reordered g g') (hg : g.ChoicesApart) :
    g'.ChoicesApart := by
  induction h with
  | refl g => exact hg
  | seq ha hb iha ihb => exact ⟨iha hg.1, ihb hg.2⟩
  | alt ha hb iha ihb =>
    refine ⟨?_, iha hg.2.1, ihb hg.2.2⟩
    rw [ha.language_eq, hb.language_eq]
    exact hg.1
  | swap ha hb iha ihb =>
    refine ⟨?_, ihb hg.2.2, iha hg.2.1⟩
    rw [ha.language_eq, hb.language_eq]
    exact hg.1.symm
  | map f hp ih => exact ih hg
  | label l hp ih => exact ih hg

lemma Reordered.literal {g g' : Grammar} (h : Reordered g g') (hg : Literal g) :
    Literal g' := by
  induction h with
  | refl g => exact hg
  | seq ha hb iha ihb =>
    rw [literal_seq] at hg ⊢
    exact ⟨iha hg.1, ihb hg.2⟩
  | alt ha hb iha ihb =>
    rw [literal_alt] at hg ⊢
    exact ⟨iha hg.1, ihb hg.2⟩
  | swap ha hb iha ihb =>
    rw [literal_alt] at hg ⊢
    exact ⟨ihb hg.2, iha hg.1⟩
  | map f hp ih =>
    rw [literal_map] at hg ⊢
    exact ⟨hg.1, ih hg.2⟩
  | label l hp ih =>
    rw [literal_label] at hg ⊢
    exact ih hg

/-! ### Soundness -/

/-- **What is consumed is a word of the grammar.** -/
lemma Literal.consumed_mem {g : Grammar} (hg : Literal g) {s r : Text} {v : Value}
    (h : g.parse s = .success v r) : ∃ w ∈ g.language, s = w ++ r := by
  induction hg generalizing s v r with
  | leaf hc =>
    obtain ⟨c, rfl⟩ := hc
    cases s with
    | nil => simp at h
    | cons d t =>
      rw [parse_char_cons] at h
      split at h
      · next hd =>
        obtain ⟨-, rfl⟩ := Result.success_inj.mp h
        exact ⟨[c], rfl, by rw [hd]; rfl⟩
      · simp at h
  | seq ha hb iha ihb =>
    obtain ⟨u, t, hx, w, hy, -⟩ := parse_seq_eq_success.mp h
    obtain ⟨m, hm, rfl⟩ := iha hx
    obtain ⟨n, hn, rfl⟩ := ihb hy
    exact ⟨m ++ n, Language.append_mem_mul hm hn, (List.append_assoc m n r).symm⟩
  | alt ha hb iha ihb =>
    rcases parse_alt_eq_success.mp h with h | ⟨-, h⟩
    · obtain ⟨w, hw, hs⟩ := iha h
      exact ⟨w, Or.inl hw, hs⟩
    · obtain ⟨w, hw, hs⟩ := ihb h
      exact ⟨w, Or.inr hw, hs⟩
  | map hf hp ih =>
    obtain ⟨k, rfl⟩ := hf
    obtain ⟨w, hw, -⟩ := parse_map_eq_success.mp h
    exact ih hw
  | label l hp ih =>
    rw [parse_label] at h
    exact ih h

/-! ### Completeness -/

/-- **With choices apart every word is read**, whatever stands behind it. -/
lemma Literal.parse_of_mem {g : Grammar} (hg : Literal g) (hc : g.ChoicesApart) {w : Text}
    (hw : w ∈ g.language) (r : Text) : ∃ v, g.parse (w ++ r) = .success v r := by
  induction hg generalizing w r with
  | leaf h =>
    obtain ⟨c, rfl⟩ := h
    obtain rfl : w = [c] := hw
    exact ⟨.char c, by simp⟩
  | seq ha hb iha ihb =>
    obtain ⟨m, hm, n, hn, rfl⟩ := Language.mem_mul.mp hw
    obtain ⟨u, hu⟩ := iha hc.1 hm (n ++ r)
    obtain ⟨v, hv⟩ := ihb hc.2 hn r
    rw [List.append_assoc]
    exact ⟨.list [u, v], parse_seq_of_success hu hv⟩
  | @alt a b ha hb iha ihb =>
    rcases hw with hw | hw
    · obtain ⟨v, hv⟩ := iha hc.2.1 hw r
      exact ⟨v, parse_alt_of_success hv⟩
    · -- the first side may have read the same word
      cases hx : a.parse (w ++ r) using Result.byOutcome with
      | error e t =>
        obtain ⟨v, hv⟩ := ihb hc.2.2 hw r
        exact ⟨v, (parse_alt_of_error (by rw [hx])).trans hv⟩
      | success v t =>
        obtain ⟨u, hu, hs⟩ := Literal.consumed_mem ha hx
        obtain rfl : u = w :=
          hc.1.eq_of_begins hu hw ⟨t, hs.symm⟩ (List.prefix_append w r)
        obtain rfl : r = t := List.append_cancel_left hs
        exact ⟨v, parse_alt_of_success hx⟩
  | map hf hp ih =>
    obtain ⟨k, rfl⟩ := hf
    obtain ⟨v, hv⟩ := ih hc hw r
    exact ⟨k v, parse_map_of_success hv⟩
  | label l hp ih =>
    obtain ⟨v, hv⟩ := ih hc hw r
    exact ⟨v, by rw [parse_label, hv]⟩

/-- Without choices apart, a short word in front hides a longer one for good. -/
example :
    (seq (alt (char 'a') (seq (char 'a') (char 'b'))) (char 'c')).parse "abc".toList =
      .failure (.mismatch 'c' 'b') := rfl

/-- With choices apart, the rests of the words that begin the text are the rests there can be. -/
lemma Literal.success_iff {g : Grammar} (hg : Literal g) (hc : g.ChoicesApart) {s r : Text} :
    (∃ v, g.parse s = .success v r) ↔ ∃ w ∈ g.language, s = w ++ r := by
  constructor
  · rintro ⟨v, hv⟩
    exact Literal.consumed_mem hg hv
  · rintro ⟨w, hw, rfl⟩
    exact Literal.parse_of_mem hg hc hw r

/-- **Ordered choice against the language**: what is consumed is a word. With choices apart a text
is read exactly if a word begins it, which is one word only and is what is consumed, and no choice
matters for that in the order of its sides. -/
theorem parse_language {g : Grammar} (hg : Literal g) :
    (∀ s v r, g.parse s = .success v r → ∃ w ∈ g.language, s = w ++ r) ∧
      (g.ChoicesApart → ∀ s,
        ((∃ v r, g.parse s = .success v r) ↔ ∃ w ∈ g.language, w <+: s) ∧
        (∀ u ∈ g.language, ∀ w ∈ g.language, u <+: s → w <+: s → u = w) ∧
        (∀ v r, g.parse s = .success v r → ∀ w ∈ g.language, w <+: s → s = w ++ r) ∧
        ∀ g', Reordered g g' →
          (g'.parse s).outcome.isOk = (g.parse s).outcome.isOk ∧
            (g'.parse s).rest = (g.parse s).rest) := by
  refine ⟨fun s v r h => Literal.consumed_mem hg h, fun hc s => ⟨?_, ?_, ?_, ?_⟩⟩
  · constructor
    · rintro ⟨v, r, h⟩
      obtain ⟨w, hw, hs⟩ := Literal.consumed_mem hg h
      exact ⟨w, hw, r, hs.symm⟩
    · rintro ⟨w, hw, r, rfl⟩
      obtain ⟨v, hv⟩ := Literal.parse_of_mem hg hc hw r
      exact ⟨v, r, hv⟩
  · intro u hu w hw hus hws
    exact hc.prefixFree.apart.eq_of_begins hu hw hus hws
  · rintro v r h w hw ⟨t, rfl⟩
    obtain ⟨u, hu⟩ := Literal.parse_of_mem hg hc hw t
    obtain ⟨-, rfl⟩ := Result.success_inj.mp (hu.symm.trans h)
    rfl
  · intro g' hr
    have hg' := hr.literal hg
    refine Result.Tidy.eq_of_success_iff (Literal.tidy hg' s) (Literal.tidy hg s) fun r => ?_
    rw [Literal.success_iff hg' (hr.choicesApart hc), Literal.success_iff hg hc, hr.language_eq]

/-- One of two words that begin alike, and `d` behind it. -/
def abOrAc : Grammar :=
  seq (alt (seq (char 'a') (char 'b')) (seq (char 'a') (char 'c'))) (char 'd')

/-- The same with the words the other way round. -/
def acOrAb : Grammar :=
  seq (alt (seq (char 'a') (char 'c')) (seq (char 'a') (char 'b'))) (char 'd')

lemma choicesApart_abOrAc : abOrAc.ChoicesApart := by
  refine ⟨⟨?_, ⟨trivial, trivial⟩, trivial, trivial⟩, trivial⟩
  intro u hu w hw
  obtain ⟨_, rfl, _, rfl, rfl⟩ := Language.mem_mul.mp hu
  obtain ⟨_, rfl, _, rfl, rfl⟩ := Language.mem_mul.mp hw
  exact ⟨by decide, by decide⟩

/-- The second word is read after the first has failed on its second character, and what is
consumed does not change with the order. -/
theorem parse_language_abOrAc :
    Literal abOrAc ∧ abOrAc.ChoicesApart ∧ Reordered abOrAc acOrAb ∧
      (∃ w ∈ abOrAc.language, w <+: "acd!".toList) ∧
      (abOrAc.parse "acd!".toList).rest = "!".toList ∧
      (acOrAb.parse "acd!".toList).rest = (abOrAc.parse "acd!".toList).rest := by
  have hg : Literal abOrAc := by simp [abOrAc]
  have hr : Reordered abOrAc acOrAb := .seq (.swap (.refl _) (.refl _)) (.refl _)
  obtain ⟨hread, -, -, hswap⟩ := (parse_language hg).2 choicesApart_abOrAc "acd!".toList
  exact ⟨hg, choicesApart_abOrAc, hr, hread.mp ⟨_, _, rfl⟩, rfl, (hswap acOrAb hr).2⟩

end CharGrammar.Grammar

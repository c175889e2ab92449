import CharGrammar.Proofs.MoreText

/-!
Completing what is incomplete. A literal grammar that runs dry reads some longer text to its end:
the character that was missing, and then the leading words of all that is still to come.
-/

namespace CharGrammar.Grammar

/-- The word along the first side of every choice. -/
def lead : Grammar → Text
  | char c => [c]
  | closure _ | call _ => []
  | seq a b => a.lead ++ b.lead
  | alt a _ => a.lead
  | custom _ p | probe _ p | map _ p | label _ p => p.lead

/-- The leading word is read, whatever stands behind it. -/
lemma Literal.parse_lead_append {g : Grammar} (hg : Literal g) (x : Text) :
    ∃ v, g.parse (g.lead ++ x) = .success v x := by
  induction hg generalizing x with
  | leaf hc =>
    obtain ⟨c, rfl⟩ := hc
    exact ⟨.char c, by simp [lead]⟩
  | @seq a b ha hb iha ihb =>
    obtain ⟨u, hu⟩ := iha (b.lead ++ x)
    obtain ⟨v, hv⟩ := ihb x
    rw [lead, List.append_assoc]
    exact ⟨.list [u, v], parse_seq_of_success hu hv⟩
  | alt ha hb iha ihb =>
    obtain ⟨v, hv⟩ := iha x
    exact ⟨v, parse_alt_of_success hv⟩
  | map hf hp ih =>
    obtain ⟨k, rfl⟩ := hf
    obtain ⟨v, hv⟩ := ih x
    exact ⟨k v, parse_map_of_success hv⟩
  | label l hp ih =>
    obtain ⟨v, hv⟩ := ih x
    exact ⟨v, by rw [lead, parse_label, hv]⟩

/-- A dry reading can be completed in front of any text that is to be left. The text `x` is what
the sequences around `g` still have to read. -/
lemma Literal.exists_completion {g : Grammar} (hg : Literal g) {s : Text} (h : g.RunsDry s)
    (x : Text) : ∃ t, t ≠ [] ∧ ∃ v, g.parse (s ++ (t ++ x)) = .success v x := by
  induction hg generalizing s x with
  | leaf hc =>
    obtain ⟨c, rfl⟩ := hc
    obtain rfl : s = [] := runsDry_char.mp h
    exact ⟨[c], by simp, .char c, by simp⟩
  | @seq a b ha hb iha ihb =>
    by_cases hdry : a.RunsDry s
    · -- the leading word of `b` stands behind the completion of `a`
      obtain ⟨t, ht, u, hu⟩ := iha hdry (b.lead ++ x)
      obtain ⟨v, hv⟩ := Literal.parse_lead_append hb x
      refine ⟨t ++ b.lead, by simp [ht], .list [u, v], ?_⟩
      rw [List.append_assoc]
      exact parse_seq_of_success hu hv
    · rw [runsDry_seq] at h
      obtain ⟨u, r, hx, hr⟩ := h.resolve_left hdry
      obtain ⟨t, ht, v, hv⟩ := ihb hr x
      have hu := Literal.parse_append_success ha hdry hx (t ++ x)
      exact ⟨t, ht, .list [u, v], parse_seq_of_success hu hv⟩
  | @alt a b ha hb iha ihb =>
    by_cases hdry : a.RunsDry s
    · obtain ⟨t, ht, v, hv⟩ := iha hdry x
      exact ⟨t, ht, v, parse_alt_of_success hv⟩
    · -- `a` fails on the longer text as it did before
      rw [runsDry_alt] at h
      obtain ⟨⟨e, he⟩, hs⟩ := h.resolve_left hdry
      obtain ⟨t, ht, v, hv⟩ := ihb hs x
      have ha' := Literal.parse_append_error ha hdry he (t ++ x)
      exact ⟨t, ht, v, (parse_alt_of_error ha').trans hv⟩
  | map hf hp ih =>
    obtain ⟨k, rfl⟩ := hf
    rw [runsDry_map] at h
    obtain ⟨t, ht, v, hv⟩ := ih h x
    exact ⟨t, ht, k v, parse_map_of_success hv⟩
  | label l hp ih =>
    rw [runsDry_label] at h
    obtain ⟨t, ht, v, hv⟩ := ih h x
    exact ⟨t, ht, v, by rw [parse_label, hv]⟩

lemma Literal.completes {g : Grammar} (hg : Literal g) {s : Text} (h : g.RunsDry s) :
    ∃ t, t ≠ [] ∧ ∃ v, g.parse (s ++ t) = .success v [] := by
  obtain ⟨t, ht, v, hv⟩ := Literal.exists_completion hg h []
  rw [List.append_nil] at hv
  exact ⟨t, ht, v, hv⟩

/-- **What is incomplete can be completed**: a reading that runs dry, as every reading does that
misses input, is the beginning of one that reads all of a longer text. So it is with every literal
grammar, and what is folded from such grammars, from characters or from a word is one of them. -/
theorem completes_of_runsDry :
    (∀ g, Literal g → ∀ s,
      ((g.parse s).outcome = .error .emptyInput → g.RunsDry s) ∧
        (g.RunsDry s → ∃ t, t ≠ [] ∧ ∃ v, g.parse (s ++ t) = .success v [])) ∧
      (∀ ps g, (∀ p ∈ ps, Literal p) →
        Grammar.choice ps = .ok g ∨ Grammar.sequence ps = .ok g → Literal g) ∧
      ∀ w g, Grammar.oneOf w = .ok g ∨ Grammar.word w = .ok g → Literal g := by
  refine ⟨fun g hg s => ⟨?_, ?_⟩, fun ps g h hg => Built.of_members h hg, fun w g hg => ?_⟩
  · exact Literal.runsDry_of_emptyInput hg
  · exact fun hdry => Literal.completes hg hdry
  · exact Built.of_text (fun c => ⟨c, rfl⟩) onValues_flatten hg

/-- The word `abc` runs dry behind `ab`, although the shorter side then reads all of it. Behind `a`
both sides do, and that is the error. -/
theorem completes_of_runsDry_ab :
    ∃ abc bOrD pair, Grammar.word "abc".toList = .ok abc ∧ Grammar.oneOf "bd".toList = .ok bOrD ∧
      Grammar.sequence [char 'a', bOrD] = .ok pair ∧
      Grammar.choice [abc, label "pair".toList pair] = .ok abcOrPair ∧ Literal abcOrPair ∧
      abcOrPair.RunsDry "ab".toList ∧
      abcOrPair.parse "ab".toList = .success (.list [.char 'a', .char 'b']) [] ∧
      (∃ t, t ≠ [] ∧ ∃ v, abcOrPair.parse ("ab".toList ++ t) = .success v []) ∧
      (abcOrPair.parse "a".toList).outcome = .error .emptyInput ∧
      ∃ t, t ≠ [] ∧ ∃ v, abcOrPair.parse ("a".toList ++ t) = .success v [] := by
  obtain ⟨hcompletes, hmembers, htext⟩ := completes_of_runsDry
  obtain ⟨abc, bOrD, pair, habc, hbOrD, hpair, hchoice, hg⟩ :=
    folded_abcOrPair (literal_char 'a') (fun l p hp => .label l hp) hmembers htext
  have hdry : abcOrPair.RunsDry "ab".toList := ⟨'c', [], by decide⟩
  have hempty : (abcOrPair.parse "a".toList).outcome = .error .emptyInput := rfl
  obtain ⟨hdry', hcompletion⟩ := hcompletes abcOrPair hg "a".toList
  exact ⟨abc, bOrD, pair, habc, hbOrD, hpair, hchoice, hg, hdry, rfl,
    (hcompletes abcOrPair hg _).2 hdry, hempty, hcompletion (hdry' hempty)⟩

end CharGrammar.Grammar

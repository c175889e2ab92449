import CharGrammar.Proofs.Completion
import CharGrammar.Proofs.OrderedChoice

/-!
What a reported error says. Of all the failures on the way only the last is reported, and without
its place. It is a reason all the same why the text begins with no word of the grammar: up to some
place it begins a word, and there another character stands, or the text has ended.
-/

namespace CharGrammar

/-! ### Errors against a language -/

/-- What the error says of `s` is true of the words of `L`. A mismatch has a place in the text, and
what stands before it begins a word that goes on with the expected character. Where input is
missing, all of the text begins a longer word. Nothing is put in free words. -/
def ReadError.Genuine (L : Language Char) (s : Text) : ReadError → Prop
  | emptyInput => ∃ w ∈ L, s <+: w ∧ s ≠ w
  | mismatch expected found =>
    expected ≠ found ∧ ∃ u r, s = u ++ found :: r ∧ ∃ w ∈ L, u ++ [expected] <+: w
  | described _ => False

namespace ReadError.Genuine

variable {L M : Language Char} {s : Text} {e : ReadError}

lemma mono (h : Genuine L s e) (hLM : ∀ w ∈ L, w ∈ M) : Genuine M s e := by
  cases e with
  | emptyInput =>
    obtain ⟨w, hw, hs⟩ := h
    exact ⟨w, hLM w hw, hs⟩
  | mismatch c d =>
    obtain ⟨hne, u, r, hs, w, hw, hu⟩ := h
    exact ⟨hne, u, r, hs, w, hLM w hw, hu⟩
  | described text => exact h

/-- An error in the first part of a sequence stays one if there is any word to go on with. -/
lemma mul_right (h : Genuine L s e) {x : Text} (hx : x ∈ M) : Genuine (L * M) s e := by
  cases e with
  | emptyInput =>
    obtain ⟨w, hw, hs, hne⟩ := h
    refine ⟨w ++ x, Language.append_mem_mul hw hx, hs.trans (List.prefix_append w x), ?_⟩
    -- a text as long as `w ++ x` that begins `w` would be `w` itself
    rintro rfl
    have hlen : w.length ≤ (w ++ x).length := by simp
    exact hne (hs.eq_of_length_le hlen)
  | mismatch c d =>
    obtain ⟨hne, u, r, hs, w, hw, hu⟩ := h
    have huw : u ++ [c] <+: w ++ x := hu.trans (List.prefix_append w x)
    exact ⟨hne, u, r, hs, w ++ x, Language.append_mem_mul hw hx, huw⟩
  | described text => exact h

/-- An error behind a word of the first part is one of the sequence, with its place moved. -/
lemma mul_left (h : Genuine M s e) {m : Text} (hm : m ∈ L) : Genuine (L * M) (m ++ s) e := by
  cases e with
  | emptyInput =>
    obtain ⟨w, hw, hs, hne⟩ := h
    have hmw : m ++ s <+: m ++ w := (List.prefix_append_right_inj m).mpr hs
    exact ⟨m ++ w, Language.append_mem_mul hm hw, hmw, fun he => hne (List.append_cancel_left he)⟩
  | mismatch c d =>
    obtain ⟨hne, u, r, rfl, w, hw, hu⟩ := h
    have hmw : (m ++ u) ++ [c] <+: m ++ w := by
      rw [List.append_assoc]
      exact (List.prefix_append_right_inj m).mpr hu
    exact ⟨hne, m ++ u, r, by simp, m ++ w, Language.append_mem_mul hm hw, hmw⟩
  | described text => exact h

end ReadError.Genuine

/-! ### The errors of literal grammars -/

namespace Grammar

/-- The leading word is one word of a literal grammar. -/
lemma Literal.exists_mem_language {g : Grammar} (hg : Literal g) : ∃ w, w ∈ g.language := by
  obtain ⟨v, hv⟩ := Literal.parse_lead_append hg []
  obtain ⟨w, hw, -⟩ := Literal.consumed_mem hg hv
  exact ⟨w, hw⟩

lemma genuine_parse_char {c : Char} {s : Text} {e : ReadError}
    (h : ((char c).parse s).outcome = .error e) : e.Genuine (char c).language s := by
  cases s with
  | nil =>
    obtain rfl : ReadError.emptyInput = e := by simpa using h
    exact ⟨[c], rfl, List.nil_prefix, by simp⟩
  | cons d r =>
    by_cases hd : d = c
    · simp [hd] at h
    · obtain rfl : ReadError.mismatch c d = e := by simpa [hd] using h
      exact ⟨Ne.symm hd, [], r, rfl, [c], rfl, List.prefix_rfl⟩

/-- **Reported errors are genuine**, whichever of the failures of a reading is the one reported. -/
theorem genuine_of_parse_error {g : Grammar} (hg : Literal g) {s : Text} {e : ReadError}
    (h : (g.parse s).outcome = .error e) : e.Genuine g.language s := by
  induction hg using Literal.induct generalizing s with
  | char c => exact genuine_parse_char h
  | seq a b ha hb iha ihb =>
    rcases parse_seq_eq_error.mp h with he | ⟨u, t, hx, he⟩
    · obtain ⟨w, hw⟩ := Literal.exists_mem_language hb
      exact (iha he).mul_right hw
    · obtain ⟨m, hm, rfl⟩ := Literal.consumed_mem ha hx
      exact (ihb he).mul_left hm
  | alt a b ha hb iha ihb =>
    -- the error of the first side is lost
    obtain ⟨-, he⟩ := parse_alt_eq_error.mp h
    exact (ihb he).mono fun w hw => Or.inr hw
  | map k p hp ih => exact ih (parse_map_eq_error.mp h)
  | label l p hp ih =>
    rw [parse_label] at h
    exact ih h

/-- The place of the mismatch lies behind a word of the second side, read after the first side was
given up; a shorter text misses input there. -/
theorem genuine_of_parse_error_abOrAc :
    Literal abOrAc ∧
      (abOrAc.parse "ace".toList).outcome = .error (.mismatch 'd' 'e') ∧
      (ReadError.mismatch 'd' 'e').Genuine abOrAc.language "ace".toList ∧
      (abOrAc.parse "ac".toList).outcome = .error .emptyInput ∧
      ReadError.emptyInput.Genuine abOrAc.language "ac".toList := by
  have hg : Literal abOrAc := by simp [abOrAc]
  have hace : (abOrAc.parse "ace".toList).outcome = .error (.mismatch 'd' 'e') := rfl
  have hac : (abOrAc.parse "ac".toList).outcome = .error .emptyInput := rfl
  exact ⟨hg, hace, genuine_of_parse_error hg hace, hac, genuine_of_parse_error hg hac⟩

end Grammar

end CharGrammar

import CharGrammar.Proofs.Built

/-!
Reading loses nothing: where no transform touches the characters, the text of the value and the
rest together are the text that was read, whatever was tried and given up on the way.
-/

namespace CharGrammar

/-! ### Results that split a text -/

namespace Result

/-- The text of the value and the rest make up `s`; an error leaves nothing. -/
def Splits (s : Text) (x : Result) : Prop :=
  match x.outcome with
  | .ok v => s = v.text ++ x.rest
  | .error _ => x.rest = []

@[simp] lemma splits_success {s r : Text} {v : Value} :
    (success v r).Splits s ↔ s = v.text ++ r := Iff.rfl

@[simp] lemma splits_error {s r : Text} {e : ReadError} :
    Splits s ⟨.error e, r⟩ ↔ r = [] := Iff.rfl

@[simp] lemma splits_failure (s : Text) (e : ReadError) : (failure e).Splits s := rfl

lemma Splits.pairWith {s r : Text} {v : Value} {x : Result} (hs : s = v.text ++ r)
    (hx : x.Splits r) : (x.pairWith v).Splits s := by
  cases x using byOutcome with
  | error e t => simp
  | success w t =>
    rw [splits_success] at hx
    simp [hs, hx]

end Result

namespace Grammar

/-! ### Transforms that keep the text -/

/-- The transform leaves failures alone, and of a success the rest and the characters. -/
structure KeepsText (f : Result → Result) : Prop where
  failure : ∀ e, f (.failure e) = .failure e
  success : ∀ v r, ∃ w, f (.success v r) = .success w r ∧ w.text = v.text

lemma keepsText_flatten : KeepsText Result.flatten :=
  ⟨fun _ => rfl, fun v _ => ⟨v.flat, rfl, v.leaves_flat⟩⟩

lemma KeepsText.splits {f : Result → Result} (hf : KeepsText f) {s : Text} {x : Result}
    (hx : x.Splits s) : (f x).Splits s := by
  cases x using Result.byOutcome with
  | error e r =>
    obtain rfl : r = [] := hx
    exact (hf.failure e).symm ▸ Result.splits_failure s e
  | success v r =>
    obtain ⟨w, hfw, hw⟩ := hf.success v r
    rw [hfw, Result.splits_success, hw]
    exact hx

/-- Grammars over single characters whose transforms keep the text. -/
abbrev TextKeeping : Grammar → Prop := Built IsChar KeepsText

/-- A single character reads itself or nothing. -/
lemma splits_parse_char (c : Char) (s : Text) : ((char c).parse s).Splits s := by
  cases s with
  | nil => simp
  | cons d r => by_cases h : d = c <;> simp [h]

lemma TextKeeping.splits {g : Grammar} (hg : TextKeeping g) (s : Text) :
    (g.parse s).Splits s := by
  refine Built.parse_invariant (I := Result.Splits) ?_ ?_ ?_ ?_ hg s
  · rintro p ⟨c, rfl⟩
    exact splits_parse_char c
  · intro s v r x hs hx
    exact Result.Splits.pairWith hs hx
  · intro s e r _
    exact Result.splits_failure s e
  · intro f hf s x hx
    exact hf.splits hx

lemma TextKeeping.text_append_rest {g : Grammar} (hg : TextKeeping g) {s r : Text} {v : Value}
    (hx : g.parse s = .success v r) : s = v.text ++ r := by
  have h := hg.splits s
  rw [hx] at h
  exact h

lemma TextKeeping.rest_of_error {g : Grammar} (hg : TextKeeping g) {s : Text} {e : ReadError}
    (he : (g.parse s).outcome = .error e) : (g.parse s).rest = [] := by
  have h := hg.splits s
  unfold Result.Splits at h
  rw [he] at h
  exact h

/-- **Nothing is lost**: a success splits the text into that of its value and the rest, and a
failure leaves nothing. So it is with every grammar over single characters whose transforms keep the
text, and what is folded from such grammars, from characters or from a word is one of them. -/
theorem eq_text_append_rest :
    (∀ g, TextKeeping g → ∀ s,
      (∀ v r, g.parse s = .success v r → s = v.text ++ r) ∧
        ∀ e, (g.parse s).outcome = .error e → (g.parse s).rest = []) ∧
      (∀ ps g, (∀ p ∈ ps, TextKeeping p) →
        Grammar.choice ps = .ok g ∨ Grammar.sequence ps = .ok g → TextKeeping g) ∧
      ∀ w g, Grammar.oneOf w = .ok g ∨ Grammar.word w = .ok g → TextKeeping g := by
  refine ⟨fun g hg s => ⟨?_, ?_⟩, fun ps g h hg => Built.of_members h hg, fun w g hg => ?_⟩
  · exact fun v r hx => hg.text_append_rest hx
  · exact fun e he => hg.rest_of_error he
  · exact Built.of_text (fun c => ⟨c, rfl⟩) keepsText_flatten hg

/-- The word `abc` is given up after two characters, and both are there again. -/
theorem eq_text_append_rest_abd :
    ∃ abc bOrD pair, Grammar.word "abc".toList = .ok abc ∧ Grammar.oneOf "bd".toList = .ok bOrD ∧
      Grammar.sequence [char 'a', bOrD] = .ok pair ∧
      Grammar.choice [abc, label "pair".toList pair] = .ok abcOrPair ∧ TextKeeping abcOrPair ∧
      abcOrPair.parse "abd".toList = .success (.list [.char 'a', .char 'b']) "d".toList ∧
      "abd".toList = (Value.list [.char 'a', .char 'b']).text ++ "d".toList ∧
      (abcOrPair.parse "axb".toList).outcome = .error (.mismatch 'd' 'x') ∧
      (abcOrPair.parse "axb".toList).rest = [] := by
  obtain ⟨hreads, hmembers, htext⟩ := eq_text_append_rest
  obtain ⟨abc, bOrD, pair, habc, hbOrD, hpair, hchoice, hg⟩ :=
    folded_abcOrPair (.leaf ⟨'a', rfl⟩) (fun l p hp => .label l hp) hmembers htext
  obtain ⟨hsuccess, -⟩ := hreads abcOrPair hg "abd".toList
  obtain ⟨-, hfailure⟩ := hreads abcOrPair hg "axb".toList
  exact ⟨abc, bOrD, pair, habc, hbOrD, hpair, hchoice, hg, rfl, hsuccess _ _ rfl, rfl,
    hfailure _ rfl⟩

end Grammar

end CharGrammar

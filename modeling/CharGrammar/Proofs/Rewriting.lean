import CharGrammar.Grammar.Stock
import CharGrammar.Proofs.Stateless

/-!
Rewriting of grammars. The laws of sequence and choice hold up to the nesting of values, so they
may be applied in both directions and at any place: the flat result stays, errors included.
-/

namespace CharGrammar

/-! ### Laws of flat results -/

namespace Result

@[simp] lemma flatten_success (v : Value) (r : Text) :
    (success v r).flatten = success v.flat r := rfl

@[simp] lemma flatten_error (e : ReadError) (r : Text) :
    flatten ⟨.error e, r⟩ = ⟨.error e, r⟩ := rfl

@[simp] lemma flatten_failure (e : ReadError) : (failure e).flatten = failure e := rfl

@[simp] lemma flatten_flatten (x : Result) : x.flatten.flatten = x.flatten := by
  cases x using byOutcome <;> simp [Value.flat_eq_ofText]

lemma flatten_pairWith (v : Value) (x : Result) :
    (x.pairWith v).flatten = (x.flatten.pairWith v.flat).flatten := by
  cases x using byOutcome <;> simp [Value.flat_eq_ofText]

/-- Of what is paired only the flat result matters. -/
lemma flatten_andThen (x : Result) (f : Text → Result) :
    (x.andThen f).flatten = (x.flatten.andThen fun r => (f r).flatten).flatten := by
  cases x using byOutcome with
  | error e r => rfl
  | success v r =>
    rw [andThen_success, flatten_pairWith, flatten_success, andThen_success]

/-- A choice is flat if its sides are. -/
lemma flatten_orElse (x y : Result) : (x.orElse y).flatten = x.flatten.orElse y.flatten := by
  cases x using byOutcome <;> simp

lemma andThen_congr {x x' : Result} {f f' : Text → Result} (hx : x.flatten = x'.flatten)
    (hf : ∀ r, (f r).flatten = (f' r).flatten) :
    (x.andThen f).flatten = (x'.andThen f').flatten := by
  rw [flatten_andThen x, flatten_andThen x', hx, funext hf]

lemma orElse_congr {x x' y y' : Result} (hx : x.flatten = x'.flatten)
    (hy : y.flatten = y'.flatten) : (x.orElse y).flatten = (x'.orElse y').flatten := by
  rw [flatten_orElse, flatten_orElse, hx, hy]

lemma flatten_andThen_assoc (x : Result) (f g : Text → Result) :
    ((x.andThen f).andThen g).flatten = (x.andThen fun r => (f r).andThen g).flatten := by
  cases x using byOutcome with
  | error e r => rfl
  | success u r =>
    simp only [andThen_success]
    cases f r using byOutcome with
    | error e t => rfl
    | success v t =>
      simp only [andThen_success, pairWith_success]
      cases g t using byOutcome with
      | error e q => rfl
      | success w q => simp [Value.flat_eq_ofText]

lemma orElse_assoc (x y z : Result) : (x.orElse y).orElse z = x.orElse (y.orElse z) := by
  cases x using byOutcome <;> simp

lemma orElse_self (x : Result) : x.orElse x = x := by
  cases x using byOutcome <;> simp

lemma pairWith_orElse (v : Value) (x y : Result) :
    (x.orElse y).pairWith v = (x.pairWith v).orElse (y.pairWith v) := by
  cases x using byOutcome <;> simp

/-- After an error of the first part both sides of the choice fail with that error. -/
lemma andThen_orElse (x : Result) (f g : Text → Result) :
    (x.andThen fun r => (f r).orElse (g r)) = (x.andThen f).orElse (x.andThen g) := by
  cases x using byOutcome with
  | error e r => rfl
  | success v r => exact pairWith_orElse v (f r) (g r)

end Result

namespace Grammar

/-! ### Grammars that the laws equate -/

/-- The least congruence with the laws of sequence and choice. Whatever is not a sequence, a
choice, a label or a flattening is a leaf. -/
inductive Equated : Grammar → Grammar → Prop where
  | refl (g : Grammar) : Equated g g
  | symm {g h : Grammar} (hg : Equated g h) : Equated h g
  | trans {g h k : Grammar} (hg : Equated g h) (hh : Equated h k) : Equated g k
  | seq {a a' b b' : Grammar} (ha : Equated a a') (hb : Equated b b') :
      Equated (.seq a b) (.seq a' b')
  | alt {a a' b b' : Grammar} (ha : Equated a a') (hb : Equated b b') :
      Equated (.alt a b) (.alt a' b')
  | label (l : Text) {p p' : Grammar} (hp : Equated p p') : Equated (.label l p) (.label l p')
  | flatten {p p' : Grammar} (hp : Equated p p') :
      Equated (.map Result.flatten p) (.map Result.flatten p')
  | seqAssoc (a b c : Grammar) : Equated (.seq (.seq a b) c) (.seq a (.seq b c))
  | altAssoc (a b c : Grammar) : Equated (.alt (.alt a b) c) (.alt a (.alt b c))
  | seqAlt (a b c : Grammar) : Equated (.seq a (.alt b c)) (.alt (.seq a b) (.seq a c))
  | altSelf (a : Grammar) : Equated (.alt a a) a
  | unlabel (l : Text) (a : Grammar) : Equated (.label l a) a
  | unflatten (a : Grammar) : Equated (.map Result.flatten a) a

/-- **Equated grammars read alike**: they succeed on the same texts, with the same flat value and
the same rest, and fail with the same error. -/
theorem flatten_parse_eq {g g' : Grammar} (h : Equated g g') (s : Text) :
    (g.parse s).flatten = (g'.parse s).flatten := by
  induction h generalizing s with
  | refl g => rfl
  | symm hg ih => exact (ih s).symm
  | trans hg hh ihg ihh => exact (ihg s).trans (ihh s)
  | seq ha hb iha ihb =>
    rw [parse_seq, parse_seq]
    exact Result.andThen_congr (iha s) ihb
  | alt ha hb iha ihb =>
    rw [parse_alt, parse_alt]
    exact Result.orElse_congr (iha s) (ihb s)
  | label l hp ih =>
    rw [parse_label, parse_label]
    exact ih s
  | flatten hp ih => exact congrArg Result.flatten (ih s)
  | seqAssoc a b c =>
    have hbc : (Grammar.seq b c).parse = fun r => (b.parse r).andThen c.parse :=
      funext (parse_seq b c)
    rw [parse_seq, parse_seq, parse_seq, hbc, Result.flatten_andThen_assoc]
  | altAssoc a b c => simp only [parse_alt, Result.orElse_assoc]
  | seqAlt a b c =>
    have hbc : (Grammar.alt b c).parse = fun r => (b.parse r).orElse (c.parse r) :=
      funext (parse_alt b c)
    rw [parse_seq, parse_alt, parse_seq, parse_seq, hbc, Result.andThen_orElse]
  | altSelf a => rw [parse_alt, Result.orElse_self]
  | unlabel l a => rw [parse_label]
  | unflatten a => rw [parse_map, Result.flatten_flatten]

/-- An `a`, and then a `b` or any other character. -/
def factored : Grammar := seq (char 'a') (alt (char 'b') (label "other".toList any))

/-- The two sequences one by one, with a flat value. -/
def spelledOut : Grammar :=
  map Result.flatten (alt (seq (char 'a') (char 'b')) (seq (char 'a') any))

/-- The law of distribution under a label and against a flattening, on a text that needs the second
side. -/
theorem flatten_parse_eq_factored :
    Equated factored spelledOut ∧
      (factored.parse "axy".toList).flatten = (spelledOut.parse "axy".toList).flatten ∧
      spelledOut.parse "axy".toList = .success (.ofText "ax".toList) "y".toList := by
  have h : Equated factored spelledOut :=
    .trans (.seq (.refl _) (.alt (.refl _) (.unlabel _ _)))
      (.trans (.seqAlt _ _ _) (.symm (.unflatten _)))
  exact ⟨h, flatten_parse_eq h "axy".toList, rfl⟩

/-- A choice does not move out of the front of a sequence: its first side is settled before the
second part is tried. -/
example :
    (seq (alt (char 'a') (seq (char 'a') (char 'b'))) (char 'c')).parse "abc".toList =
        .failure (.mismatch 'c' 'b') ∧
      ((alt (seq (char 'a') (char 'c')) (seq (seq (char 'a') (char 'b')) (char 'c'))).parse
        "abc".toList).flatten = .success (.ofText "abc".toList) [] :=
  ⟨rfl, rfl⟩

end Grammar

end CharGrammar

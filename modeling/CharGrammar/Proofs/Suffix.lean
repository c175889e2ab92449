import CharGrammar.Grammar.Stock
import CharGrammar.Transform
import CharGrammar.Proofs.Lossless

/-!
What a reading leaves is an end of its text, and nothing after an error. Every grammar keeps to
this whose closures and transforms do, also where transforms make values of errors and errors of
values, or drop the rest, so that no text can be put together from value and rest.
-/

namespace CharGrammar

/-! ### Results within a text -/

namespace Result

/-- A success leaves an end of `s`, and an error leaves nothing. -/
def Within (s : Text) (x : Result) : Prop :=
  match x.outcome with
  | .ok _ => x.rest <:+ s
  | .error _ => x.rest = []

@[simp] lemma within_success {s r : Text} {v : Value} : (success v r).Within s ↔ r <:+ s :=
  Iff.rfl

@[simp] lemma within_error {s r : Text} {e : ReadError} : Within s ⟨.error e, r⟩ ↔ r = [] :=
  Iff.rfl

@[simp] lemma within_failure (s : Text) (e : ReadError) : (failure e).Within s := rfl

section

variable {s t : Text} {x : Result}

lemma Within.tidy (h : x.Within s) : x.Tidy := by
  cases x using byOutcome with
  | error e r => exact tidy_error.mpr h
  | success v r => exact tidy_success v r

lemma Within.rest_suffix (h : x.Within s) : x.rest <:+ s := by
  cases x using byOutcome with
  | error e r =>
    obtain rfl : r = [] := h
    exact List.nil_suffix
  | success v r => exact h

lemma Within.trans (h : x.Within s) (hst : s <:+ t) : x.Within t := by
  cases x using byOutcome with
  | error e r => exact h
  | success v r => exact List.IsSuffix.trans h hst

lemma Within.pairWith (h : x.Within s) (v : Value) : (x.pairWith v).Within s := by
  cases x using byOutcome with
  | error e r => exact within_failure s e
  | success w r => exact h

@[simp] lemma within_map {f : Value → Value} : (x.map f).Within s ↔ x.Within s := by
  cases x using byOutcome <;> rfl

lemma Tidy.within (h : x.Tidy) : x.Within x.rest := by
  cases x using byOutcome with
  | error e r => exact tidy_error.mp h
  | success v r => exact List.suffix_rfl

lemma Splits.within (h : x.Splits s) : x.Within s := by
  cases x using byOutcome with
  | error e r => exact h
  | success v r => exact ⟨v.text, (splits_success.mp h).symm⟩

end

end Result

namespace Grammar

/-! ### Transforms that narrow the rest -/

/-- Whatever becomes of the value or the error: a rest is only shortened, and an error leaves
nothing. -/
def NarrowsRest (f : Result → Result) : Prop := ∀ x : Result, x.Tidy → (f x).Within x.rest

lemma NarrowsRest.within {f : Result → Result} (hf : NarrowsRest f) {s : Text} {x : Result}
    (hx : x.Within s) : (f x).Within s :=
  (hf x hx.tidy).trans hx.rest_suffix

lemma narrowsRest_map (h : Value → Value) : NarrowsRest (Result.map h) :=
  fun _ hx => Result.within_map.mpr hx.within

/-- All transforms that have a name are of this kind. -/
lemma narrowsRest_apply (f : Transform) : NarrowsRest f.apply := by
  intro x hx
  cases f with
  | identity => exact hx.within
  | flatten | upper | wrap | clear | first | last | reverse => exact narrowsRest_map _ x hx
  | rebuild =>
    cases x using Result.byOutcome with
    | error e r => exact Result.within_failure r e
    | success v r => exact hx.within
  | dropRest =>
    cases x using Result.byOutcome with
    | error e r => rfl
    | success v r => exact List.nil_suffix
  | reject text =>
    cases x using Result.byOutcome with
    | error e r => exact hx.within
    | success v r => exact Result.within_failure r _
  | onEmpty text =>
    cases x using Result.byOutcome with
    | error e r =>
      cases e with
      | emptyInput => exact Result.within_failure r _
      | mismatch c d => exact hx.within
      | described text' => exact hx.within
    | success v r => exact hx.within
  | ahead text =>
    cases x using Result.byOutcome with
    | error e r => exact Result.within_failure r _
    | success v r => exact hx.within
  | rescue v =>
    cases x using Result.byOutcome with
    | error e r => exact List.suffix_rfl
    | success w r => exact hx.within

/-! ### Grammars that leave ends of their texts -/

/-- Literal characters, and closures that leave ends of their texts. -/
inductive EndLeaf : Grammar → Prop where
  | char (c : Char) : EndLeaf (.char c)
  | closure {f : Text → Result} (h : ∀ s, (f s).Within s) : EndLeaf (.closure f)

/-- Grammars over such leaves whose transforms narrow the rest. -/
abbrev EndKeeping : Grammar → Prop := Built EndLeaf NarrowsRest

lemma EndLeaf.within {g : Grammar} (hg : EndLeaf g) (s : Text) : (g.parse s).Within s := by
  cases hg with
  | char c => exact (splits_parse_char c s).within
  | closure h => exact h s

lemma EndKeeping.within {g : Grammar} (hg : EndKeeping g) (s : Text) : (g.parse s).Within s := by
  refine Built.parse_invariant (I := Result.Within) ?_ ?_ ?_ ?_ hg s
  · intro p hp
    exact hp.within
  · -- what the second part leaves is an end of an end
    intro s v r x hr hx
    exact (hx.trans hr).pairWith v
  · intro s e r _
    exact Result.within_failure s e
  · intro f hf s x hx
    exact hf.within hx

/-- **A reading leaves an end of its text**, and nothing after an error: so does every grammar over
leaves and transforms that keep to it, those that are folded from lists and from words included. -/
theorem parse_within_of_endKeeping :
    (∀ g, EndKeeping g → ∀ s, (g.parse s).Within s) ∧
      (∀ ps g, (∀ p ∈ ps, EndKeeping p) →
        Grammar.choice ps = .ok g ∨ Grammar.sequence ps = .ok g → EndKeeping g) ∧
      ∀ w g, Grammar.word w = .ok g → EndKeeping g := by
  refine ⟨fun g hg s => EndKeeping.within hg s, fun ps g h hg => Built.of_members h hg, ?_⟩
  exact fun w g hg => Built.word .char (narrowsRest_map _) hg

lemma endLeaf_take (n : Nat) : EndLeaf (take n) := by
  refine .closure fun s => ?_
  split
  · exact Result.within_failure s _
  · exact List.drop_suffix n s

/-- Two characters are never accepted; after an `x` any text does, and is dropped. -/
def patched : Grammar :=
  alt (map (Transform.reject "no pair".toList).apply (take 2))
    (seq (char 'x') (map (Transform.rescue (.char '?')).apply (char 'a')))

/-- A success is refused and a failure rescued, in the middle of a sequence. -/
theorem parse_within_of_endKeeping_patched :
    EndKeeping patched ∧
      patched.parse "xyz".toList = .success (.list [.char 'x', .char '?']) [] ∧
      (patched.parse "xyz".toList).Within "xyz".toList := by
  have hg : EndKeeping patched :=
    .alt (.map (narrowsRest_apply _) (.leaf (endLeaf_take 2)))
      (.seq (.leaf (.char 'x')) (.map (narrowsRest_apply _) (.leaf (.char 'a'))))
  exact ⟨hg, rfl, parse_within_of_endKeeping.1 patched hg "xyz".toList⟩

end Grammar

end CharGrammar

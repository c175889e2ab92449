import CharGrammar.Proofs.Built

/-!
Readings that run dry, and text that arrives later. A reading that never tries a character where
the text has ended comes out the same however the text goes on, and by the same steps.
-/

namespace CharGrammar

/-- Somewhere among the records a literal character is tried with no text left. -/
def Trace.DryIn (rs : List Trace.Record) : Prop :=
  ∃ c l, (⟨[], l, .char c, none⟩ : Trace.Record) ∈ rs

namespace Grammar

/-- While `g` reads `s`, a literal character is tried where the text has ended. -/
def RunsDry (g : Grammar) (s : Text) : Prop := Trace.DryIn (g.run [] true s).records

end Grammar

/-! ### Where a reading runs dry -/

namespace Trace

@[simp] lemma not_dryIn_nil : ¬DryIn [] := fun ⟨_, _, h⟩ => absurd h List.not_mem_nil

@[simp] lemma dryIn_append {rs rs' : List Record} :
    DryIn (rs ++ rs') ↔ DryIn rs ∨ DryIn rs' := by
  simp only [DryIn, List.mem_append, exists_or]

@[simp] lemma dryIn_cons {r : Record} {rs : List Record} :
    DryIn (r :: rs) ↔ (∃ c l, r = ⟨[], l, .char c, none⟩) ∨ DryIn rs := by
  simp only [DryIn, List.mem_cons, exists_or, eq_comm]

/-- The start of a trial with no text left. -/
def Record.isDry : Record → Bool
  | ⟨[], _, .char _, none⟩ => true
  | _ => false

lemma Record.isDry_iff {r : Record} : r.isDry ↔ ∃ c l, r = ⟨[], l, .char c, none⟩ := by
  obtain ⟨_ | ⟨d, s⟩, l, op, o⟩ := r
  · cases op <;> cases o <;> simp [isDry]
  · simp [isDry]

lemma dryIn_iff_any {rs : List Record} : DryIn rs ↔ rs.any Record.isDry := by
  induction rs with
  | nil => simp
  | cons r rs ih => simp [ih, Record.isDry_iff]

instance (rs : List Record) : Decidable (DryIn rs) := decidable_of_iff' _ dryIn_iff_any

end Trace

namespace Grammar

open Trace

instance (g : Grammar) (s : Text) : Decidable (g.RunsDry s) :=
  inferInstanceAs (Decidable (DryIn (g.run [] true s).records))

/-- The label under which a reading begins does not matter for that. -/
lemma dryIn_steps_label (g : Grammar) (l l' s : Text) :
    DryIn (g.steps l s) ↔ DryIn (g.steps l' s) := by
  induction g generalizing l l' s with
  | char c =>
    cases s with
    | nil => simp [steps]
    | cons d r => by_cases h : d = c <;> simp [steps, h]
  | closure f => rfl
  | call name => rfl
  | custom typeName p ih => exact ih l l' s
  | probe id p ih => exact ih l l' s
  | seq a b iha ihb =>
    simp only [steps, dryIn_append, iha l l' s]
    refine or_congr_right ?_
    split
    · rfl
    · exact ihb l l' _
  | alt a b iha ihb =>
    simp only [steps, dryIn_append, iha l l' s]
    refine or_congr_right ?_
    split
    · simp [ihb l l' s]
    · rfl
  | map f p ih => exact ih l l' s
  | label k p ih => rfl

lemma runsDry_iff (g : Grammar) (l s : Text) : g.RunsDry s ↔ DryIn (g.steps l s) := by
  rw [RunsDry, run_eq, if_pos rfl]
  exact dryIn_steps_label g [] l s

@[simp] lemma runsDry_char {c : Char} {s : Text} : (char c).RunsDry s ↔ s = [] := by
  rw [runsDry_iff _ []]
  cases s with
  | nil => simp [steps]
  | cons d r => by_cases h : d = c <;> simp [steps, h]

lemma runsDry_seq {a b : Grammar} {s : Text} :
    (seq a b).RunsDry s ↔
      a.RunsDry s ∨ ∃ v r, a.parse s = .success v r ∧ b.RunsDry r := by
  rw [runsDry_iff _ [], runsDry_iff a [], steps, dryIn_append]
  refine or_congr_right ?_
  cases a.parse s using Result.byOutcome with
  | error e r => simp
  | success v r => simp [runsDry_iff b []]

lemma runsDry_alt {a b : Grammar} {s : Text} :
    (alt a b).RunsDry s ↔
      a.RunsDry s ∨ (∃ e, (a.parse s).outcome = .error e) ∧ b.RunsDry s := by
  rw [runsDry_iff _ [], runsDry_iff a [], runsDry_iff b [], steps, dryIn_append]
  refine or_congr_right ?_
  cases a.parse s using Result.byOutcome with
  | error e r => simp
  | success v r => simp

@[simp] lemma runsDry_map {f : Result → Result} {p : Grammar} {s : Text} :
    (map f p).RunsDry s ↔ p.RunsDry s := by
  rw [runsDry_iff _ [], runsDry_iff p [], steps]

@[simp] lemma runsDry_label {l : Text} {p : Grammar} {s : Text} :
    (label l p).RunsDry s ↔ p.RunsDry s := by
  rw [runsDry_iff _ [], runsDry_iff p l, steps]
  simp

/-- A literal grammar that misses input has run dry. -/
lemma Literal.runsDry_of_emptyInput {g : Grammar} (hg : Literal g) {s : Text}
    (h : (g.parse s).outcome = .error .emptyInput) : g.RunsDry s := by
  induction hg generalizing s with
  | leaf hc =>
    obtain ⟨c, rfl⟩ := hc
    cases s with
    | nil => simp
    | cons d r => by_cases hd : d = c <;> simp [hd] at h
  | seq ha hb iha ihb =>
    rw [runsDry_seq]
    rcases parse_seq_eq_error.mp h with h | ⟨v, r, hx, h⟩
    · exact Or.inl (iha h)
    · exact Or.inr ⟨v, r, hx, ihb h⟩
  | alt ha hb iha ihb =>
    obtain ⟨hx, h⟩ := parse_alt_eq_error.mp h
    exact runsDry_alt.mpr (Or.inr ⟨hx, ihb h⟩)
  | map hf hp ih =>
    obtain ⟨k, rfl⟩ := hf
    exact runsDry_map.mpr (ih (parse_map_eq_error.mp h))
  | label l hp ih =>
    rw [parse_label] at h
    rw [runsDry_label]
    exact ih h

end Grammar

/-! ### Text that arrives later -/

namespace Result

/-- The result with `t` behind what a success leaves. -/
def addRest (t : Text) (x : Result) : Result :=
  match x.outcome with
  | .ok v => success v (x.rest ++ t)
  | .error _ => x

@[simp] lemma addRest_success (t : Text) (v : Value) (r : Text) :
    (success v r).addRest t = success v (r ++ t) := rfl

@[simp] lemma addRest_error (t : Text) (e : ReadError) (r : Text) :
    addRest t ⟨.error e, r⟩ = ⟨.error e, r⟩ := rfl

@[simp] lemma addRest_failure (t : Text) (e : ReadError) :
    (failure e).addRest t = failure e := rfl

@[simp] lemma outcome_addRest (t : Text) (x : Result) : (x.addRest t).outcome = x.outcome := by
  cases x using byOutcome <;> rfl

lemma addRest_eq_success {t : Text} {x : Result} {v : Value} {r : Text} :
    x.addRest t = success v r ↔ ∃ q, x = success v q ∧ q ++ t = r := by
  cases x using byOutcome <;> simp

lemma map_addRest (f : Value → Value) (t : Text) (x : Result) :
    (x.addRest t).map f = (x.map f).addRest t := by
  cases x using byOutcome <;> simp

lemma pairWith_addRest (v : Value) (t : Text) (x : Result) :
    (x.addRest t).pairWith v = (x.pairWith v).addRest t := by
  cases x using byOutcome <;> simp

end Result

/-- The record with `t` behind the text it is about. -/
def Trace.Record.addText (t : Text) (r : Trace.Record) : Trace.Record :=
  { r with text := r.text ++ t }

namespace Grammar

/-- **A reading that does not run dry is settled**: more text only adds to the rest. -/
lemma Literal.parse_append {g : Grammar} (hg : Literal g) {s : Text} (h : ¬g.RunsDry s)
    (t : Text) : g.parse (s ++ t) = (g.parse s).addRest t := by
  induction hg generalizing s with
  | leaf hc =>
    obtain ⟨c, rfl⟩ := hc
    cases s with
    | nil => exact absurd rfl (runsDry_char.not.mp h)
    | cons d r => by_cases hd : d = c <;> simp [hd]
  | @seq a b ha hb iha ihb =>
    rw [runsDry_seq, not_or] at h
    rw [parse_seq, parse_seq, iha h.1]
    cases hx : a.parse s using Result.byOutcome with
    | error e r => rfl
    | success v r =>
      have hr : ¬b.RunsDry r := fun hb => h.2 ⟨v, r, hx, hb⟩
      rw [Result.addRest_success, Result.andThen_success, Result.andThen_success, ihb hr,
        Result.pairWith_addRest]
  | @alt a b ha hb iha ihb =>
    rw [runsDry_alt, not_or] at h
    rw [parse_alt, parse_alt, iha h.1]
    cases hx : a.parse s using Result.byOutcome with
    | error e r =>
      have hs : ¬b.RunsDry s := fun hb => h.2 ⟨⟨e, by rw [hx]⟩, hb⟩
      exact ihb hs
    | success v r => rfl
  | map hf hp ih =>
    obtain ⟨k, rfl⟩ := hf
    rw [runsDry_map] at h
    rw [parse_map, parse_map, ih h, Result.map_addRest]
  | label l hp ih =>
    rw [runsDry_label] at h
    rw [parse_label, parse_label, ih h]

lemma Literal.parse_append_success {g : Grammar} (hg : Literal g) {s r : Text} {v : Value}
    (h : ¬g.RunsDry s) (hx : g.parse s = .success v r) (t : Text) :
    g.parse (s ++ t) = .success v (r ++ t) := by
  rw [Literal.parse_append hg h, hx, Result.addRest_success]

lemma Literal.parse_append_error {g : Grammar} (hg : Literal g) {s : Text} {e : ReadError}
    (h : ¬g.RunsDry s) (hx : (g.parse s).outcome = .error e) (t : Text) :
    (g.parse (s ++ t)).outcome = .error e := by
  rw [Literal.parse_append hg h, Result.outcome_addRest, hx]

/-- A settled reading takes the same steps however the text goes on, those of alternatives that it
gives up among them. -/
lemma Literal.steps_append {g : Grammar} (hg : Literal g) (l : Text) {s : Text}
    (h : ¬g.RunsDry s) (t : Text) : g.steps l (s ++ t) = (g.steps l s).map (.addText t) := by
  induction hg using Literal.induct generalizing l s with
  | char c =>
    cases s with
    | nil => exact absurd rfl (runsDry_char.not.mp h)
    | cons d r => by_cases hd : d = c <;> simp [steps, Trace.Record.addText, hd]
  | seq a b ha hb iha ihb =>
    rw [runsDry_seq, not_or] at h
    rw [steps, steps, iha l h.1, Literal.parse_append ha h.1, List.map_append]
    cases hx : a.parse s using Result.byOutcome with
    | error e r => rfl
    | success v r =>
      have hr : ¬b.RunsDry r := fun hb => h.2 ⟨v, r, hx, hb⟩
      exact congrArg _ (ihb l hr)
  | alt a b ha hb iha ihb =>
    rw [runsDry_alt, not_or] at h
    rw [steps, steps, iha l h.1, Literal.parse_append ha h.1, List.map_append]
    cases hx : a.parse s using Result.byOutcome with
    | error e r =>
      have hs : ¬b.RunsDry s := fun hb => h.2 ⟨⟨e, by rw [hx]⟩, hb⟩
      simp [Trace.Record.addText, ihb l hs]
    | success v r => rfl
  | map f p hp ih =>
    rw [runsDry_map] at h
    exact ih l h
  | label k p hp ih =>
    rw [runsDry_label] at h
    rw [steps, steps, ih k h, List.map_cons]
    rfl

/-- **Settled results do not change when more text arrives**: the value or the error stays, a
success leaves the new text behind what it left before, and an error still leaves nothing. The
steps are the same, each over the longer text. -/
theorem settled_of_not_runsDry {g : Grammar} (hg : Literal g) {s : Text} (h : ¬g.RunsDry s)
    (t : Text) :
    (g.parse (s ++ t)).outcome = (g.parse s).outcome ∧
      (∀ v r, g.parse s = .success v r → (g.parse (s ++ t)).rest = r ++ t) ∧
      (∀ e, (g.parse s).outcome = .error e →
        (g.parse s).rest = [] ∧ (g.parse (s ++ t)).rest = []) ∧
      (g.run [] true (s ++ t)).records = (g.run [] true s).records.map (.addText t) := by
  refine ⟨?_, fun v r hx => ?_, fun e he => ⟨?_, ?_⟩, ?_⟩
  · rw [Literal.parse_append hg h]
    cases g.parse s using Result.byOutcome <;> rfl
  · rw [Literal.parse_append_success hg h hx, Result.rest_success]
  · exact Literal.tidy hg s e he
  · exact Literal.tidy hg (s ++ t) e (Literal.parse_append_error hg h he t)
  · rw [run_eq, run_eq]
    exact Literal.steps_append hg [] h t

/-- The word `abc` is given up at the `x`, so `ab` stays what is read whatever comes behind it. -/
theorem settled_of_not_runsDry_abx :
    Literal abcOrAb ∧ ¬abcOrAb.RunsDry "abx".toList ∧
      (abcOrAb.parse "abx".toList).outcome = .ok (.list [.char 'a', .char 'b']) ∧
      ∀ t, (abcOrAb.parse ("abx".toList ++ t)).outcome = .ok (.list [.char 'a', .char 'b']) ∧
        (abcOrAb.parse ("abx".toList ++ t)).rest = 'x' :: t := by
  have hg : Literal abcOrAb := built_abcOrAb onValues_flatten
  have hdry : ¬abcOrAb.RunsDry "abx".toList := by decide
  refine ⟨hg, hdry, rfl, fun t => ?_⟩
  obtain ⟨ho, hr, -, -⟩ := settled_of_not_runsDry hg hdry t
  exact ⟨ho, hr _ _ rfl⟩

/-- A success with text left is not settled by that alone: the alternative before it has run dry. -/
example :
    let g := alt (seq (seq (char 'a') (char 'b')) (char 'c')) (char 'a')
    g.RunsDry "ab".toList ∧ g.parse "ab".toList = .success (.char 'a') "b".toList ∧
      (g.parse "abc".toList).outcome ≠ .ok (.char 'a') := by decide

end Grammar

end CharGrammar

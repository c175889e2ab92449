import CharGrammar.Proofs.Stateless

/-!
Labels are transparent. A grammar without its labels reads as before and by the same steps: what
goes missing from the records is those of the labels themselves, and what is left of them bears the
label around the whole grammar.
-/

namespace CharGrammar

namespace Trace

/-- The records apart from those of labels, all under the label `l`. -/
def unlabelled (l : Text) (rs : List Record) : List Record :=
  (rs.filter fun r => !(r.operation matches .label _)).map fun r => { r with label := l }

variable {l : Text} {rs rs' : List Record}

@[simp] lemma unlabelled_nil : unlabelled l [] = [] := rfl

@[simp] lemma unlabelled_append :
    unlabelled l (rs ++ rs') = unlabelled l rs ++ unlabelled l rs' := by
  rw [unlabelled, List.filter_append, List.map_append]
  rfl

@[simp] lemma unlabelled_cons_char {k s : Text} {c : Char} {o : Option StepOutcome} :
    unlabelled l (⟨s, k, .char c, o⟩ :: rs) = ⟨s, l, .char c, o⟩ :: unlabelled l rs := rfl

@[simp] lemma unlabelled_cons_fallback {k s : Text} {o : Option StepOutcome} :
    unlabelled l (⟨s, k, .fallback, o⟩ :: rs) = ⟨s, l, .fallback, o⟩ :: unlabelled l rs := rfl

@[simp] lemma unlabelled_cons_label {k m s : Text} {o : Option StepOutcome} :
    unlabelled l (⟨s, k, .label m, o⟩ :: rs) = unlabelled l rs := rfl

end Trace

namespace Grammar

/-- The grammar without its labels. -/
def unlabelled : Grammar → Grammar
  | char c => char c
  | closure f => closure f
  | call name => call name
  | custom typeName p => custom typeName p.unlabelled
  | probe id p => probe id p.unlabelled
  | seq a b => seq a.unlabelled b.unlabelled
  | alt a b => alt a.unlabelled b.unlabelled
  | map f p => map f p.unlabelled
  | label _ p => p.unlabelled

@[simp] lemma parse_unlabelled (g : Grammar) (s : Text) : g.unlabelled.parse s = g.parse s := by
  induction g generalizing s with
  | char c => rfl
  | closure f => rfl
  | call name => rfl
  | custom typeName p ih => exact ih s
  | probe id p ih => rw [unlabelled, parse_probe, parse_probe, ih]
  | seq a b iha ihb =>
    have hb : b.unlabelled.parse = b.parse := funext ihb
    rw [unlabelled, parse_seq, parse_seq, iha, hb]
  | alt a b iha ihb => rw [unlabelled, parse_alt, parse_alt, iha, ihb]
  | map f p ih => exact congrArg f (ih s)
  | label l p ih => rw [unlabelled, parse_label, ih]

/-- The two readings may begin under different labels, as they do below every label that is gone. -/
lemma steps_unlabelled (g : Grammar) (k l s : Text) :
    g.unlabelled.steps l s = Trace.unlabelled l (g.steps k s) := by
  induction g generalizing k s with
  | char c =>
    cases s with
    | nil => rfl
    | cons d r => by_cases h : d = c <;> simp [unlabelled, steps, h]
  | closure f => rfl
  | call name => rfl
  | custom typeName p ih => exact ih k s
  | probe id p ih => exact ih k s
  | seq a b iha ihb =>
    rw [unlabelled, steps, steps, parse_unlabelled, Trace.unlabelled_append, iha k s]
    refine congrArg _ ?_
    cases (a.parse s).taken with
    | error e => rfl
    | ok t => exact ihb k t.2
  | alt a b iha ihb =>
    rw [unlabelled, steps, steps, parse_unlabelled, Trace.unlabelled_append, iha k s]
    refine congrArg _ ?_
    cases (a.parse s).outcome with
    | error e => exact congrArg (List.cons _) (ihb k s)
    | ok v => rfl
  | map f p ih => exact ih k s
  | label m p ih =>
    rw [unlabelled, steps, Trace.unlabelled_cons_label]
    exact ih m s

/-- **Labels are transparent**: without them the result is the same from every label at the start,
and so are the records in their order, but for those of labels, which are missing, and for the
labels that the others are under. -/
theorem runUnder_unlabelled (g : Grammar) (l s : Text) :
    (g.unlabelled.runUnder l s).result = (g.runUnder l s).result ∧
      (g.unlabelled.runUnder l s).records = Trace.unlabelled l (g.runUnder l s).records := by
  rw [runUnder_eq, runUnder_eq]
  exact ⟨parse_unlabelled g s, steps_unlabelled g l l s⟩

/-- A label inside a label, in a side that is given up. -/
example :
    let g := alt (label "outer".toList (seq (label "inner".toList (char 'a')) (char 'b')))
      (char 'a')
    (g.runUnder [] "ac".toList).records.length = 9 ∧
      (g.unlabelled.runUnder [] "ac".toList).records.length = 7 := by
  decide

end Grammar

end CharGrammar

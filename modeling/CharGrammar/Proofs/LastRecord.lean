import CharGrammar.Proofs.Built
import CharGrammar.Proofs.Scoping

/-!
The records of a reading tell its result. A trial of a character that begins is settled by the
very next record, and the trial that is settled last settles the whole reading: what was given up
on the way lies before it.
-/

namespace CharGrammar

/-- The outcome, noted over `t`, is that of the result: a match over what a success leaves, or the
error of a failure. -/
def Trace.StepOutcome.Tells (o : Trace.StepOutcome) (t : Text) (x : Result) : Prop :=
  match x.outcome with
  | .ok _ => t = x.rest ∧ ∃ c, o = .matched c
  | .error e => o = .failed e

namespace Trace.StepOutcome

variable {o : StepOutcome} {t : Text} {x : Result}

@[simp] lemma tells_success {v : Value} {r : Text} :
    o.Tells t (.success v r) ↔ t = r ∧ ∃ c, o = .matched c := Iff.rfl

@[simp] lemma tells_error {e : ReadError} {r : Text} :
    o.Tells t ⟨.error e, r⟩ ↔ o = .failed e := Iff.rfl

@[simp] lemma tells_failure {e : ReadError} : o.Tells t (.failure e) ↔ o = .failed e := Iff.rfl

@[simp] lemma tells_map {f : Value → Value} : o.Tells t (x.map f) ↔ o.Tells t x := by
  cases x using Result.byOutcome <;> rfl

@[simp] lemma tells_pairWith {v : Value} : o.Tells t (x.pairWith v) ↔ o.Tells t x := by
  cases x using Result.byOutcome <;> rfl

end Trace.StepOutcome

namespace Grammar

/-! ### Trials of characters -/

/-- The emission ends a trial of `c` at `node`, and tells the result `x`. -/
structure Emission.Settles (m : Emission) (node : Address) (c : Char) (x : Result) : Prop where
  node_eq : m.node = node
  operation_eq : m.operation = .char c
  outcome_tells : ∃ o, m.outcome = some o ∧ o.Tells m.text x

/-- Each trial that begins is settled by the emission right behind it, which is of the same node
and tells what the character reads there. -/
def Answered (ms : List Emission) : Prop :=
  ∀ i m c, ms[i]? = some m → m.operation = .char c → m.outcome = none →
    ∃ m', ms[i + 1]? = some m' ∧ m'.Settles m.node c ((char c).parse m.text)

/-- A character has a beginning and an end to show, whatever the text. -/
lemma emissions_char (c : Char) (s : Text) :
    ∃ t o, (char c).emissions s = [⟨[], s, .char c, none⟩, ⟨[], t, .char c, some o⟩] ∧
      o.Tells t ((char c).parse s) := by
  cases s with
  | nil => exact ⟨[], .failed .emptyInput, rfl, rfl⟩
  | cons d r =>
    by_cases h : d = c
    · exact ⟨r, .matched d, by simp [emissions, h], by simp [h]⟩
    · exact ⟨d :: r, .failed (.mismatch c d), by simp [emissions, h], by simp [h]⟩

lemma answered_nil : Answered [] := by
  intro i m c hi
  simp at hi

lemma Answered.append {ms ms' : List Emission} (h : Answered ms) (h' : Answered ms') :
    Answered (ms ++ ms') := by
  intro i m c hi hc ho
  rcases Nat.lt_or_ge i ms.length with hlt | hge
  · rw [List.getElem?_append_left hlt] at hi
    obtain ⟨m', hm', hs⟩ := h i m c hi hc ho
    have hlt' : i + 1 < ms.length := (List.getElem?_eq_some_iff.mp hm').1
    exact ⟨m', by rw [List.getElem?_append_left hlt', hm'], hs⟩
  · rw [List.getElem?_append_right hge] at hi
    obtain ⟨m', hm', hs⟩ := h' _ m c hi hc ho
    have hsub : i + 1 - ms.length = i - ms.length + 1 := by omega
    exact ⟨m', by rw [List.getElem?_append_right (by omega), hsub, hm'], hs⟩

/-- What begins no trial needs no answer. -/
lemma Answered.cons {m : Emission} {ms : List Emission}
    (hm : ∀ c, m.operation = .char c → m.outcome ≠ none) (h : Answered ms) :
    Answered (m :: ms) := by
  rintro (_ | i) m' c hi hc ho
  · obtain rfl : m = m' := by simpa using hi
    exact absurd ho (hm c hc)
  · rw [List.getElem?_cons_succ] at hi ⊢
    exact h i m' c hi hc ho

lemma Answered.below {ms : List Emission} (h : Answered ms) (k : Nat) :
    Answered (ms.map (Emission.below k)) := by
  intro i m c hi hc ho
  rw [List.getElem?_map, Option.map_eq_some_iff] at hi
  obtain ⟨n, hn, rfl⟩ := hi
  obtain ⟨n', hn', hnode, hop, hout⟩ := h i n c hn hc ho
  exact ⟨n'.below k, by rw [List.getElem?_map, hn']; rfl, congrArg (k :: ·) hnode, hop, hout⟩

/-- In every grammar, whatever becomes of the result. -/
lemma answered_emissions (g : Grammar) (s : Text) : Answered (g.emissions s) := by
  induction g generalizing s with
  | char c =>
    obtain ⟨t, o, he, ho⟩ := emissions_char c s
    rw [he]
    rintro (_ | _ | i) m c' hi hc hout
    · obtain rfl : _ = m := by simpa using hi
      obtain rfl : c = c' := by simpa using hc
      exact ⟨_, rfl, rfl, rfl, o, rfl, ho⟩
    · obtain rfl : _ = m := by simpa using hi
      simp at hout
    · simp at hi
  | closure f => exact answered_nil
  | call name => exact answered_nil
  | custom typeName p ih => exact (ih s).below 0
  | probe id p ih => exact (ih s).below 0
  | seq a b iha ihb =>
    refine ((iha s).below 0).append ?_
    split
    · exact answered_nil
    · exact (ihb _).below 1
  | alt a b iha ihb =>
    refine ((iha s).below 0).append ?_
    split
    · exact ((ihb s).below 1).cons (by simp)
    · exact answered_nil
  | map f p ih => exact (ih s).below 0
  | label l p ih => exact ((ih s).below 0).cons (by simp)

/-! ### The last trial -/

lemma Emission.Settles.below {m : Emission} {node : Address} {c : Char} {x : Result}
    (h : m.Settles node c x) (k : Nat) : (m.below k).Settles (k :: node) c x :=
  ⟨congrArg (k :: ·) h.node_eq, h.operation_eq, h.outcome_tells⟩

lemma Emission.Settles.congr {m : Emission} {node : Address} {c : Char} {x y : Result}
    (h : m.Settles node c x) (hxy : ∀ (o : Trace.StepOutcome) t, o.Tells t x → o.Tells t y) :
    m.Settles node c y := by
  obtain ⟨o, ho, ht⟩ := h.outcome_tells
  exact ⟨h.node_eq, h.operation_eq, o, ho, hxy o _ ht⟩

/-- The last of the emissions settles the result. -/
def EndsWith (ms : List Emission) (x : Result) : Prop :=
  ∃ m, ms.getLast? = some m ∧ ∃ node c, m.Settles node c x

lemma EndsWith.congr {ms : List Emission} {x y : Result} (h : EndsWith ms x)
    (hxy : ∀ (o : Trace.StepOutcome) t, o.Tells t x → o.Tells t y) : EndsWith ms y := by
  obtain ⟨m, hm, node, c, hs⟩ := h
  exact ⟨m, hm, node, c, hs.congr hxy⟩

lemma EndsWith.below {ms : List Emission} {x : Result} (h : EndsWith ms x) (k : Nat) :
    EndsWith (ms.map (Emission.below k)) x := by
  obtain ⟨m, hm, node, c, hs⟩ := h
  exact ⟨m.below k, by rw [List.getLast?_map, hm]; rfl, k :: node, c, hs.below k⟩

lemma EndsWith.append_left {ms : List Emission} {x : Result} (h : EndsWith ms x)
    (ms' : List Emission) : EndsWith (ms' ++ ms) x := by
  obtain ⟨m, hm, hs⟩ := h
  exact ⟨m, by rw [List.getLast?_append, hm]; rfl, hs⟩

/-- Whatever was tried before, the trial that is settled last settles the reading. -/
lemma Literal.endsWith_emissions {g : Grammar} (hg : Literal g) (s : Text) :
    EndsWith (g.emissions s) (g.parse s) := by
  induction hg using Literal.induct generalizing s with
  | char c =>
    obtain ⟨t, o, he, ho⟩ := emissions_char c s
    exact ⟨⟨[], t, .char c, some o⟩, by rw [he]; rfl, [], c, rfl, rfl, o, rfl, ho⟩
  | seq a b ha hb iha ihb =>
    have h := (iha s).below 0
    rw [emissions, parse_seq]
    cases hx : a.parse s using Result.byOutcome with
    | error e r =>
      rw [hx] at h
      simpa using h.congr (y := .failure e) (by simp)
    | success v r => exact (((ihb r).below 1).congr (by simp)).append_left _
  | alt a b ha hb iha ihb =>
    have h := (iha s).below 0
    rw [emissions, parse_alt]
    cases hx : a.parse s using Result.byOutcome with
    | error e r =>
      -- the records of the first side and of its failure lie before those of the second
      rw [Result.orElse_error]
      exact (((ihb s).below 1).append_left [_]).append_left _
    | success v r =>
      rw [hx] at h
      simpa using h
  | map f p hp ih => exact ((ih s).below 0).congr (by simp)
  | label l p hp ih =>
    rw [parse_label]
    exact ((ih s).below 0).append_left [_]

/-- **The records tell the result.** They are the emissions of the nodes under their labels, each
trial of a character is settled by the very next one, and the last one is the end of such a trial:
a match over exactly what a success leaves, or exactly the error of a failure. -/
theorem trace_tells_result {g : Grammar} (hg : Literal g) (l s : Text) :
    (g.runUnder l s).records = (g.emissions s).map (g.recordOf l) ∧
      (∀ m ∈ g.emissions s, m.Of g) ∧ Answered (g.emissions s) ∧
      ∃ r c o, (g.runUnder l s).records.getLast? = some r ∧ r.operation = .char c ∧
        r.outcome = some o ∧ o.Tells r.text (g.runUnder l s).result := by
  have hres : (g.runUnder l s).result = g.parse s := by rw [runUnder_eq]
  refine ⟨records_runUnder g l s, of_emissions g s, answered_emissions g s, ?_⟩
  obtain ⟨m, hm, node, c, -, hop, o, ho, htells⟩ := Literal.endsWith_emissions hg s
  refine ⟨g.recordOf l m, c, o, ?_, hop, ho, ?_⟩
  · rw [records_runUnder, List.getLast?_map, hm]
    rfl
  · rw [hres]
    exact htells

/-- The word `abc` is given up at the `x`, and the last record is that of the `b` read after it. -/
theorem trace_tells_result_abx :
    Literal abcOrAb ∧
      (abcOrAb.run [] true "abx".toList).result =
        .success (.list [.char 'a', .char 'b']) "x".toList ∧
      ∃ r c o, (abcOrAb.run [] true "abx".toList).records.getLast? = some r ∧
        r.operation = .char c ∧ r.outcome = some o ∧ r.text = "x".toList ∧
        ∃ d, o = .matched d := by
  have hg : Literal abcOrAb := built_abcOrAb onValues_flatten
  obtain ⟨-, -, -, r, c, o, hlast, hop, ho, htells⟩ := trace_tells_result hg [] "abx".toList
  rw [runUnder_nil] at hlast htells
  exact ⟨hg, rfl, r, c, o, hlast, hop, ho, htells⟩

end Grammar

end CharGrammar

import CharGrammar.Direction
import CharGrammar.Proofs.Keywords

/-!
Directions are read by their names and by nothing else. No two names begin one text, so the one that
begins it is read, wherever it comes in the choice. What is read is a name, and the look-up behind
the reading always finds its direction: a reading fails only as the last name does.
-/

namespace CharGrammar

open Grammar (word choice Words)

namespace Direction

variable {d e : Direction} {s : Text} {ps : List Grammar} {g : Grammar}

/-! ### Names -/

lemma mem_all (d : Direction) : d ∈ all := by
  cases d <;> decide

lemma eq_of_name_prefix_name (h : d.name <+: e.name) : d = e := by
  revert h
  cases d <;> cases e <;> decide

/-- At most one name begins a text. -/
lemma eq_of_begins (hd : d.name <+: s) (he : e.name <+: s) : d = e := by
  rcases List.prefix_or_prefix_of_prefix hd he with h | h
  · exact eq_of_name_prefix_name h
  · exact (eq_of_name_prefix_name h).symm

/-! ### The choice of the names -/

lemma parse_append (h : Words (all.map name) ps) (hg : choice ps = .ok g) (d : Direction)
    (r : Text) : g.parse (d.name ++ r) = .success (.ofText d.name) r := by
  have hbegins : d.name <+: d.name ++ r := List.prefix_append d.name r
  obtain ⟨n, hn, hfirst, hno⟩ :=
    Grammar.exists_first_begins ⟨d.name, List.mem_map_of_mem (mem_all d), hbegins⟩
  -- the first name that begins the text is the only one
  have hname : (all.map name)[n] = d.name := by
    obtain ⟨e, -, he⟩ := List.mem_map.mp (List.getElem_mem hn)
    rw [← he] at hfirst ⊢
    rw [eq_of_begins hfirst hbegins]
  rw [Grammar.parse_eq_read g _ (.blank false), h.read_choice_of_first hg hn hfirst hno, hname,
    List.drop_left]

lemma parse_of_none (h : Words (all.map name) ps) (hg : choice ps = .ok g)
    (hno : ∀ d : Direction, ¬d.name <+: s) :
    ∃ p e, word "West".toList = .ok p ∧ p.parse s = .failure e ∧ g.parse s = .failure e := by
  have hne : all.map name ≠ [] := by decide
  have hnone : ∀ w ∈ all.map name, ¬w <+: s := List.forall_mem_map.mpr fun d _ => hno d
  obtain ⟨p, e, hp, hlast, hread⟩ := h.read_choice_of_none hg hne hnone (.blank false)
  refine ⟨p, e, hp, ?_, ?_⟩
  · rw [Grammar.parse_eq_read p s (.blank false), hlast]
  · rw [Grammar.parse_eq_read g s (.blank false), hread]

namespace Naming

/-- The names are those of the directions in their order, and a text is looked up to a direction
exactly if it is the name of it. -/
structure Faithful (n : Naming) : Prop where
  names_eq : n.names = all.map name
  ofName?_eq_some_iff : ∀ s d, n.ofName? s = some d ↔ s = d.name

lemma faithful_ownNaming : ownNaming.Faithful where
  names_eq := rfl
  ofName?_eq_some_iff s d := by
    constructor
    · intro h
      have hfound : all.find? (fun e => e.name == s) = some d := h
      have hname := List.find?_some hfound
      exact (eq_of_beq hname).symm
    · rintro rfl
      cases d <;> rfl

variable {n : Naming}

lemma Faithful.exists_grammar (hn : n.Faithful) :
    ∃ ps g, Words (all.map name) ps ∧ choice ps = .ok g ∧ n.grammar = .ok g := by
  have hwords : ∀ w ∈ all.map name, w ≠ [] := by decide
  obtain ⟨ps, hps, h⟩ := Grammar.exists_words hwords
  have hne : ps ≠ [] := by
    rintro rfl
    simpa [all] using h.length_eq
  obtain ⟨p, ps, rfl⟩ := List.exists_cons_of_ne_nil hne
  refine ⟨p :: ps, _, h, rfl, ?_⟩
  rw [grammar, hn.names_eq, hps]
  rfl

lemma run_fst (hg : n.grammar = .ok g) (tracing : Bool) (s : Text) :
    (n.run tracing s).1 = n.ofResult (g.parse s) := by
  simp only [run, hg, Grammar.run_eq]

lemma ofResult_failure (e : ReadError) : n.ofResult (.failure e) = .error (.reading e) := rfl

lemma Faithful.ofResult_name (hn : n.Faithful) (d : Direction) (rest : Text) :
    n.ofResult (.success (.ofText d.name) rest) = .ok (d, rest) := by
  have hfound : n.ofName? (Value.ofText d.name).text = some d := by
    rw [hn.ofName?_eq_some_iff, Value.text, Value.leaves_ofText]
  simp only [ofResult, Result.taken_success, hfound]

lemma Faithful.run_append (hn : n.Faithful) (tracing : Bool) (d : Direction) (r : Text) :
    (n.run tracing (d.name ++ r)).1 = .ok (d, r) := by
  obtain ⟨ps, g, h, hchoice, hg⟩ := hn.exists_grammar
  rw [run_fst hg, parse_append h hchoice, hn.ofResult_name]

lemma Faithful.run_of_none (hn : n.Faithful) (tracing : Bool)
    (hno : ∀ d : Direction, ¬d.name <+: s) :
    ∃ p e, word "West".toList = .ok p ∧ p.parse s = .failure e ∧
      (e = .emptyInput ∨ ∃ c f, e = .mismatch c f) ∧
      (n.run tracing s).1 = .error (.reading e) := by
  obtain ⟨ps, g, h, hchoice, hg⟩ := hn.exists_grammar
  obtain ⟨p, e, hp, hlast, hread⟩ := parse_of_none h hchoice hno
  refine ⟨p, e, hp, hlast, ?_, ?_⟩
  · have hliteral : Grammar.Literal p :=
      Grammar.Built.word (fun c => ⟨c, rfl⟩) Grammar.onValues_flatten hp
    cases e with
    | emptyInput => exact Or.inl rfl
    | mismatch c f => exact Or.inr ⟨c, f, rfl⟩
    | described text =>
      exact absurd (congrArg Result.outcome hlast) (hliteral.parse_ne_described s text)
  · rw [run_fst hg, hread, ofResult_failure]

lemma begins_or_none (s : Text) :
    (∃ d : Direction, ∃ r, d.name ++ r = s) ∨ ∀ d : Direction, ¬d.name <+: s := by
  by_cases h : ∃ d : Direction, d.name <+: s
  · exact Or.inl h
  · exact Or.inr (not_exists.mp h)

lemma Faithful.run_eq_ok_iff (hn : n.Faithful) (tracing : Bool) (s : Text) (d : Direction)
    (rest : Text) : (n.run tracing s).1 = .ok (d, rest) ↔ s = d.name ++ rest := by
  constructor
  · intro hrun
    rcases begins_or_none s with ⟨e, r, rfl⟩ | hno
    · rw [hn.run_append] at hrun
      cases hrun
      rfl
    · obtain ⟨p, e, -, -, -, hfails⟩ := hn.run_of_none tracing hno
      rw [hfails] at hrun
      cases hrun
  · rintro rfl
    exact hn.run_append tracing d rest

lemma Faithful.run_ok_or_reading (hn : n.Faithful) (tracing : Bool) (s : Text) :
    (∃ x, (n.run tracing s).1 = .ok x) ∨ ∃ e, (n.run tracing s).1 = .error (.reading e) := by
  rcases begins_or_none s with ⟨d, r, rfl⟩ | hno
  · exact Or.inl ⟨_, hn.run_append tracing d r⟩
  · obtain ⟨p, e, -, -, -, hfails⟩ := hn.run_of_none tracing hno
    exact Or.inr ⟨e, hfails⟩

/-- **A direction is read exactly if its name begins the text**, and what is behind the name is
left. Otherwise the error is that of the last name, which is a want of input or a mismatch. The
grammar of the names can always be built, and it reads nothing but names, so no look-up fails. -/
theorem reads_names (hn : n.Faithful) (tracing : Bool) (s : Text) :
    (∀ d rest, (n.run tracing s).1 = .ok (d, rest) ↔ s = d.name ++ rest) ∧
      ((∀ d : Direction, ¬d.name <+: s) →
        ∃ p e, word "West".toList = .ok p ∧ p.parse s = .failure e ∧
          (e = .emptyInput ∨ ∃ c f, e = .mismatch c f) ∧
          (n.run tracing s).1 = .error (.reading e)) ∧
      (∀ e, (n.run tracing s).1 ≠ .error (.fold e)) ∧
      (n.run tracing s).1 ≠ .error .unknownName ∧
      ∃ g, n.grammar = .ok g ∧
        ∀ v rest, g.parse s = .success v rest → ∃ d : Direction, v.text = d.name := by
  obtain ⟨ps, g, h, hchoice, hg⟩ := hn.exists_grammar
  refine ⟨hn.run_eq_ok_iff tracing s, hn.run_of_none tracing, ?_, ?_, g, hg, ?_⟩
  · intro e
    rcases hn.run_ok_or_reading tracing s with ⟨x, hx⟩ | ⟨d, hd⟩
    · simp [hx]
    · simp [hd]
  · rcases hn.run_ok_or_reading tracing s with ⟨x, hx⟩ | ⟨d, hd⟩
    · simp [hx]
    · simp [hd]
  · intro v rest hv
    rcases begins_or_none s with ⟨d, r, rfl⟩ | hno
    · rw [parse_append h hchoice, Result.success_inj] at hv
      exact ⟨d, by rw [← hv.1, Value.text, Value.leaves_ofText]⟩
    · obtain ⟨-, e, -, -, hfails⟩ := parse_of_none h hchoice hno
      exact absurd (hv.symm.trans hfails) (Result.success_ne_failure v rest e)

/-- `Wes` and `Nor` only begin names; what is reported of both is how they fail as `West`. -/
theorem reads_names_ownNaming :
    ownNaming.Faithful ∧ parse "West Wind".toList = .ok (west, " Wind".toList) ∧
      parse "Wes".toList = .error (.reading .emptyInput) ∧
      parse "Nor".toList = .error (.reading (.mismatch 'W' 'N')) := by
  have hword : word "West".toList = .ok (.map Result.flatten
      (.seq (.seq (.seq (.char 'W') (.char 'e')) (.char 's')) (.char 't'))) := rfl
  obtain ⟨hread, -⟩ := reads_names faithful_ownNaming false "West Wind".toList
  obtain ⟨-, hwes, -⟩ := reads_names faithful_ownNaming false "Wes".toList
  obtain ⟨-, hnor, -⟩ := reads_names faithful_ownNaming false "Nor".toList
  refine ⟨faithful_ownNaming, (hread west " Wind".toList).mpr rfl, ?_, ?_⟩
  · obtain ⟨p, e, hp, hlast, -, hfails⟩ := hwes (by rintro (_ | _) <;> decide)
    obtain rfl := Except.ok.inj (hword.symm.trans hp)
    obtain rfl : .emptyInput = e := Result.failure_inj.mp hlast
    exact hfails
  · obtain ⟨p, e, hp, hlast, -, hfails⟩ := hnor (by rintro (_ | _) <;> decide)
    obtain rfl := Except.ok.inj (hword.symm.trans hp)
    obtain rfl : .mismatch 'W' 'N' = e := Result.failure_inj.mp hlast
    exact hfails

end Naming

end Direction

end CharGrammar

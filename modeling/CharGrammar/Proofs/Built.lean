import CharGrammar.Grammar.Fold
import CharGrammar.Proofs.Stateless

/-!
Classes of grammars: everything that sequences, alternatives, labels and transforms of one kind
make out of leaves of one kind. The grammars folded from lists belong to the class of their
members, and what every leaf reads right, the whole class reads right.
-/

namespace CharGrammar.Grammar

/-- Grammars over leaves of the kind `Leaf`, with transforms of the kind `Keeps`. -/
inductive Built (Leaf : Grammar → Prop) (Keeps : (Result → Result) → Prop) : Grammar → Prop where
  | leaf {g : Grammar} (h : Leaf g) : Built Leaf Keeps g
  | seq {a b : Grammar} (ha : Built Leaf Keeps a) (hb : Built Leaf Keeps b) :
      Built Leaf Keeps (.seq a b)
  | alt {a b : Grammar} (ha : Built Leaf Keeps a) (hb : Built Leaf Keeps b) :
      Built Leaf Keeps (.alt a b)
  | map {f : Result → Result} {p : Grammar} (hf : Keeps f) (hp : Built Leaf Keeps p) :
      Built Leaf Keeps (.map f p)
  | label (l : Text) {p : Grammar} (hp : Built Leaf Keeps p) : Built Leaf Keeps (.label l p)

def IsChar (g : Grammar) : Prop := ∃ c, g = .char c

/-- The transform changes values and nothing else. -/
def OnValues (f : Result → Result) : Prop := ∃ h, f = Result.map h

/-- Literal grammars: single characters are their only leaves. -/
abbrev Literal : Grammar → Prop := Built IsChar OnValues

lemma onValues_flatten : OnValues Result.flatten := ⟨Value.flat, rfl⟩

namespace Built

variable {Leaf : Grammar → Prop} {Keeps : (Result → Result) → Prop} {g : Grammar}

/-! ### Folds -/

lemma choice {ps : List Grammar} (h : ∀ p ∈ ps, Built Leaf Keeps p)
    (hg : Grammar.choice ps = .ok g) : Built Leaf Keeps g := by
  cases ps with
  | nil => simp [Grammar.choice] at hg
  | cons p ps =>
    obtain rfl : ps.foldl .alt p = g := by simpa [Grammar.choice] using hg
    exact List.foldlRecOn ps _ (h p (by simp)) fun a ha b hb => .alt ha (h b (by simp [hb]))

lemma sequence {ps : List Grammar} (h : ∀ p ∈ ps, Built Leaf Keeps p)
    (hg : Grammar.sequence ps = .ok g) : Built Leaf Keeps g := by
  cases ps with
  | nil => simp [Grammar.sequence] at hg
  | cons p ps =>
    obtain rfl : ps.foldl .seq p = g := by simpa [Grammar.sequence] using hg
    exact List.foldlRecOn ps _ (h p (by simp)) fun a ha b hb => .seq ha (h b (by simp [hb]))

lemma oneOf (h : ∀ c, Leaf (.char c)) {cs : Text} (hg : Grammar.oneOf cs = .ok g) :
    Built Leaf Keeps g := by
  refine choice (fun p hp => ?_) hg
  obtain ⟨c, -, rfl⟩ := List.mem_map.mp hp
  exact .leaf (h c)

lemma word (h : ∀ c, Leaf (.char c)) (hf : Keeps Result.flatten) {w : Text}
    (hg : Grammar.word w = .ok g) : Built Leaf Keeps g := by
  unfold Grammar.word at hg
  cases hs : Grammar.sequence (w.map .char) with
  | error e => simp [hs, Except.map] at hg
  | ok p =>
    obtain rfl : Grammar.map Result.flatten p = g := by simpa [hs, Except.map] using hg
    refine .map hf (sequence (fun q hq => ?_) hs)
    obtain ⟨c, -, rfl⟩ := List.mem_map.mp hq
    exact .leaf (h c)

lemma of_members {ps : List Grammar} (h : ∀ p ∈ ps, Built Leaf Keeps p)
    (hg : Grammar.choice ps = .ok g ∨ Grammar.sequence ps = .ok g) : Built Leaf Keeps g := by
  rcases hg with hg | hg
  · exact choice h hg
  · exact sequence h hg

lemma of_text (h : ∀ c, Leaf (.char c)) (hf : Keeps Result.flatten) {w : Text}
    (hg : Grammar.oneOf w = .ok g ∨ Grammar.word w = .ok g) : Built Leaf Keeps g := by
  rcases hg with hg | hg
  · exact oneOf h hg
  · exact word h hf hg

/-! ### What the leaves do right -/

/-- A relation between texts and results that the leaves have, that sequences pass on and that the
transforms keep is a relation that the whole class has. -/
theorem parse_invariant {I : Text → Result → Prop}
    (leaf : ∀ p, Leaf p → ∀ s, I s (p.parse s))
    (pair : ∀ s v r x, I s (.success v r) → I r x → I s (x.pairWith v))
    (fail : ∀ s e r, I s ⟨.error e, r⟩ → I s (.failure e))
    (keep : ∀ f, Keeps f → ∀ s x, I s x → I s (f x))
    (hg : Built Leaf Keeps g) (s : Text) : I s (g.parse s) := by
  induction hg generalizing s with
  | leaf h => exact leaf _ h s
  | @seq a b ha hb iha ihb =>
    rw [parse_seq]
    have h := iha s
    cases hx : a.parse s using Result.byOutcome with
    | error e r => rw [hx] at h; exact fail s e r h
    | success v r => rw [hx] at h; exact pair s v r _ h (ihb r)
  | @alt a b ha hb iha ihb =>
    rw [parse_alt]
    have h := iha s
    cases hx : a.parse s using Result.byOutcome with
    | error e r => exact ihb s
    | success v r => rw [hx] at h; exact h
  | map hf hp ih => exact keep _ hf s _ (ih s)
  | label l hp ih => rw [parse_label]; exact ih s

end Built

/-! ### Literal grammars -/

@[simp] lemma literal_char (c : Char) : Literal (.char c) := .leaf ⟨c, rfl⟩

@[simp] lemma literal_seq {a b : Grammar} : Literal (.seq a b) ↔ Literal a ∧ Literal b := by
  constructor
  · rintro (⟨_, ⟨⟩⟩ | ⟨ha, hb⟩)
    exact ⟨ha, hb⟩
  · exact fun h => .seq h.1 h.2

@[simp] lemma literal_alt {a b : Grammar} : Literal (.alt a b) ↔ Literal a ∧ Literal b := by
  constructor
  · rintro (⟨_, ⟨⟩⟩ | _ | ⟨ha, hb⟩)
    exact ⟨ha, hb⟩
  · exact fun h => .alt h.1 h.2

@[simp] lemma literal_map {f : Result → Result} {p : Grammar} :
    Literal (.map f p) ↔ OnValues f ∧ Literal p := by
  constructor
  · rintro (⟨_, ⟨⟩⟩ | _ | _ | ⟨hf, hp⟩)
    exact ⟨hf, hp⟩
  · exact fun h => .map h.1 h.2

@[simp] lemma literal_label {l : Text} {p : Grammar} : Literal (.label l p) ↔ Literal p := by
  constructor
  · rintro (⟨_, ⟨⟩⟩ | _ | _ | _ | ⟨_, hp⟩)
    exact hp
  · exact .label l

/-- Induction over literal grammars. -/
@[elab_as_elim]
theorem Literal.induct {P : (g : Grammar) → Literal g → Prop}
    (char : ∀ c, P (.char c) (literal_char c))
    (seq : ∀ a b (ha : Literal a) (hb : Literal b), P a ha → P b hb → P (.seq a b) (.seq ha hb))
    (alt : ∀ a b (ha : Literal a) (hb : Literal b), P a ha → P b hb → P (.alt a b) (.alt ha hb))
    (map : ∀ h p (hp : Literal p), P p hp → P (.map (Result.map h) p) (.map ⟨h, rfl⟩ hp))
    (label : ∀ l p (hp : Literal p), P p hp → P (.label l p) (.label l hp))
    {g : Grammar} (hg : Literal g) : P g hg := by
  induction hg with
  | leaf hc =>
    obtain ⟨c, rfl⟩ := hc
    exact char c
  | seq ha hb iha ihb => exact seq _ _ ha hb iha ihb
  | alt ha hb iha ihb => exact alt _ _ ha hb iha ihb
  | map hf hp ih =>
    obtain ⟨h, rfl⟩ := hf
    exact map h _ hp ih
  | label l hp ih => exact label l _ hp ih

lemma tidy_parse_char (c : Char) (s : Text) : ((char c).parse s).Tidy := by
  cases s with
  | nil => simp
  | cons d r => by_cases h : d = c <;> simp [h]

lemma Literal.tidy {g : Grammar} (hg : Literal g) (s : Text) : (g.parse s).Tidy := by
  refine Built.parse_invariant (I := fun _ x => x.Tidy) ?_ ?_ ?_ ?_ hg s
  · rintro p ⟨c, rfl⟩
    exact tidy_parse_char c
  · exact fun s v r x _ _ => Result.tidy_pairWith v x
  · exact fun s e r _ => Result.tidy_failure e
  · rintro f ⟨h, rfl⟩ s x hx
    exact hx.map h

/-- Nothing in a literal grammar puts an error in free words. -/
lemma Literal.parse_ne_described {g : Grammar} (hg : Literal g) (s text : Text) :
    (g.parse s).outcome ≠ .error (.described text) := by
  refine Built.parse_invariant (I := fun _ x => x.outcome ≠ .error (.described text))
    ?_ ?_ ?_ ?_ hg s
  · rintro p ⟨c, rfl⟩ s
    cases s with
    | nil => simp
    | cons d r => by_cases h : d = c <;> simp [h]
  · exact fun s v r x _ hx => mt Result.pairWith_eq_error.mp hx
  · exact fun s e r he => he
  · rintro f ⟨h, rfl⟩ s x hx
    exact mt Result.map_eq_error.mp hx

/-! ### Samples -/

/-- The word `abc`, or else `a` and then `b`. -/
def abcOrAb : Grammar :=
  alt (map Result.flatten (seq (seq (char 'a') (char 'b')) (char 'c')))
    (label "short".toList (seq (char 'a') (char 'b')))

lemma built_abcOrAb {Keeps : (Result → Result) → Prop} (h : Keeps Result.flatten) :
    Built IsChar Keeps abcOrAb := by
  have leaf (c : Char) : IsChar (.char c) := ⟨c, rfl⟩
  have abc : Built IsChar Keeps (map Result.flatten (seq (seq (char 'a') (char 'b')) (char 'c'))) :=
    Built.word leaf h (show Grammar.word "abc".toList = _ from rfl)
  have ab : Built IsChar Keeps (seq (char 'a') (char 'b')) := .seq (.leaf (leaf _)) (.leaf (leaf _))
  refine Built.choice ?_ (show Grammar.choice [_, _] = .ok abcOrAb from rfl)
  exact List.forall_mem_cons.mpr ⟨abc, List.forall_mem_singleton.mpr (.label _ ab)⟩

/-- The word `abc`, or else `a` and then one of `b` and `d`. -/
def abcOrPair : Grammar :=
  alt (map Result.flatten (seq (seq (char 'a') (char 'b')) (char 'c')))
    (label "pair".toList (seq (char 'a') (alt (char 'b') (char 'd'))))

/-- It is folded from a word, from characters and from lists, so it belongs to every class that is
closed under these. -/
lemma folded_abcOrPair {P : Grammar → Prop} (hchar : P (char 'a'))
    (hlabel : ∀ l p, P p → P (label l p))
    (hmembers : ∀ ps g, (∀ p ∈ ps, P p) →
      Grammar.choice ps = .ok g ∨ Grammar.sequence ps = .ok g → P g)
    (htext : ∀ w g, Grammar.oneOf w = .ok g ∨ Grammar.word w = .ok g → P g) :
    ∃ abc bOrD pair, Grammar.word "abc".toList = .ok abc ∧ Grammar.oneOf "bd".toList = .ok bOrD ∧
      Grammar.sequence [char 'a', bOrD] = .ok pair ∧
      Grammar.choice [abc, label "pair".toList pair] = .ok abcOrPair ∧ P abcOrPair := by
  have habc := htext "abc".toList _ (Or.inr rfl)
  have hbOrD := htext "bd".toList _ (Or.inl rfl)
  have hpair := hmembers [char 'a', _] _
    (List.forall_mem_cons.mpr ⟨hchar, List.forall_mem_singleton.mpr hbOrD⟩) (Or.inr rfl)
  have hwhole : P abcOrPair := hmembers [_, label "pair".toList _] _
    (List.forall_mem_cons.mpr ⟨habc, List.forall_mem_singleton.mpr (hlabel _ _ hpair)⟩)
    (Or.inl rfl)
  exact ⟨_, _, _, rfl, rfl, rfl, rfl, hwhole⟩

end CharGrammar.Grammar

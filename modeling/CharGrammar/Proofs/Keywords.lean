import Mathlib.Data.List.Forall2
import CharGrammar.Proofs.ExactWord
import CharGrammar.Proofs.FirstSuccess

/-!
Lists of words to choose from. Of the words that begin a text the first in the list is read, not the
longest, and so a word never comes to be read if one before it in the list begins it.
-/

namespace CharGrammar.Grammar

/-- The member at `n` of a row supplies the reading `x`: those before it run on `s` and fail, and it
succeeds. -/
def Supplies (named : Text → Reader) (ps : List Grammar) (s : Text) (j : Journal) (n : Nat)
    (x : Result × Journal) : Prop :=
  ∃ xs q rest i, ps = xs.map Miss.member ++ q :: rest ∧ xs.length = n ∧
    Misses named s j xs i ∧ q.read named s i = x ∧ ∃ v, x.1.outcome = .ok v

/-- Grammars of words, in the order of the words. -/
abbrev Words (ws : List Text) (ps : List Grammar) : Prop :=
  List.Forall₂ (fun w p => word w = .ok p) ws ps

variable {named : Text → Reader} {s w : Text} {j i : Journal} {g : Grammar} {n : Nat}
  {ps : List Grammar} {ws : List Text} {xs : List Miss} {x : Result × Journal}

/-! ### Rows that are supplied by a member -/

/-- What a choice comes to is decided behind misses. -/
lemma Misses.read_choice {q : Grammar} {rest : List Grammar} (hxs : Misses named s j xs i)
    (hq : Decides named s q rest i) (hps : ps = xs.map Miss.member ++ q :: rest)
    (hg : choice ps = .ok g) : g.read named s j = q.read named s i := by
  cases ps with
  | nil => simp [choice] at hg
  | cons p ps =>
    rw [choice_cons] at hg
    obtain rfl := Except.ok.inj hg
    exact hxs.read_join hq ((Bracketing.members_leftward p ps).trans hps)

lemma Supplies.read_choice (h : Supplies named ps s j n x) (hg : choice ps = .ok g) :
    g.read named s j = x := by
  obtain ⟨xs, q, rest, i, hps, -, hxs, hq, hv⟩ := h
  rw [← hq] at hv ⊢
  exact hxs.read_choice (Or.inr hv) hps hg

/-- Every member that missed has run and failed. -/
lemma Misses.exists_error (hxs : Misses named s j xs i) :
    ∀ x ∈ xs, ∃ k, (x.member.read named s k).1.outcome = .error x.error := by
  induction hxs with
  | nil j => exact List.forall_mem_nil _
  | @cons m e r j i k xs hm hxs ih => exact List.forall_mem_cons.mpr ⟨⟨j, by rw [hm]⟩, ih⟩

/-! ### Single words -/

lemma exists_word (hw : w ≠ []) : ∃ p, word w = .ok p := by
  obtain ⟨c, w, rfl⟩ := List.exists_cons_of_ne_nil hw
  exact ⟨_, rfl⟩

/-- A word is read where it begins the text. -/
lemma read_word_of_begins {p : Grammar} (hp : word w = .ok p) (h : w <+: s) (j : Journal) :
    (p.read named s j).1 = .success (.ofText w) (s.drop w.length) := by
  obtain ⟨r, rfl⟩ := h
  rw [read_word_append hp, List.drop_left]

/-- Elsewhere it fails, with an error that depends on the text alone. -/
lemma exists_read_word_failure {p : Grammar} (hp : word w = .ok p) (h : ¬w <+: s) :
    ∃ e, ∀ (named : Text → Reader) (j : Journal), (p.read named s j).1 = .failure e := by
  obtain ⟨u, w', s', rfl, rfl, hdiffer⟩ := Text.exists_common_front w s
  cases w' with
  | nil => exact absurd (by simp) h
  | cons c w' =>
    have hfails : ∃ e, (char c).parse s' = .failure e := by
      cases s' with
      | nil => exact ⟨.emptyInput, parse_char_nil c⟩
      | cons d t =>
        have hne : d ≠ c := by simpa [eq_comm] using hdiffer
        exact ⟨.mismatch c d, by simp [hne]⟩
    obtain ⟨e, hc⟩ := hfails
    exact ⟨e, fun named j => by rw [read_word_failure hp hc]⟩

lemma prefix_of_read_word_ok {p : Grammar} (hp : word w = .ok p) {v : Value}
    (hv : (p.read named s j).1.outcome = .ok v) : w <+: s := by
  by_contra h
  obtain ⟨e, he⟩ := exists_read_word_failure hp h
  rw [he named j] at hv
  cases hv

/-! ### Rows of words -/

lemma exists_words (hws : ∀ w ∈ ws, w ≠ []) : ∃ ps, ws.mapM word = .ok ps ∧ Words ws ps := by
  induction ws with
  | nil => exact ⟨[], rfl, .nil⟩
  | cons w ws ih =>
    obtain ⟨hw, hws⟩ := List.forall_mem_cons.mp hws
    obtain ⟨p, hp⟩ := exists_word hw
    obtain ⟨ps, hps, h⟩ := ih hws
    exact ⟨p :: ps, by rw [List.mapM_cons, hp, hps]; rfl, .cons hp h⟩

/-- If no word before the one at `n` begins the text, the members before it are missed one after the
other. -/
lemma Words.exists_misses_before (h : Words ws ps) (hn : n < ws.length)
    (hno : ∀ m (hm : m < n), ¬ws[m] <+: s) (j : Journal) :
    ∃ xs q i, ps = xs.map Miss.member ++ q :: ps.drop (n + 1) ∧ word ws[n] = .ok q ∧
      xs.length = n ∧ Misses named s j xs i := by
  induction h generalizing n j with
  | nil => exact absurd hn (Nat.not_lt_zero n)
  | @cons w p ws ps hp h ih =>
    cases n with
    | zero => exact ⟨[], p, j, rfl, hp, rfl, .nil j⟩
    | succ n =>
      have hw : ¬w <+: s := hno 0 (Nat.succ_pos n)
      obtain ⟨e, he⟩ := exists_read_word_failure hp hw
      have hm : p.read named s j = (.failure e, (p.read named s j).2) := Prod.ext (he named j) rfl
      have hn' : n < ws.length := Nat.lt_of_succ_lt_succ hn
      have hno' : ∀ m (hm : m < n), ¬ws[m] <+: s := fun m hm => hno (m + 1) (Nat.succ_lt_succ hm)
      obtain ⟨xs, q, i, hps, hq, rfl, hxs⟩ := ih hn' hno'
        ((p.read named s j).2.note s .fallback (some (.failed e)))
      exact ⟨⟨p, e⟩ :: xs, q, i, congrArg (List.cons p) hps, hq, rfl, .cons hm hxs⟩

/-- The first word that begins the text supplies the reading. -/
lemma Words.exists_supplies (h : Words ws ps) (hn : n < ws.length) (hbegins : ws[n] <+: s)
    (hno : ∀ m (hm : m < n), ¬ws[m] <+: s) (j : Journal) :
    ∃ x, Supplies named ps s j n x ∧ x.1 = .success (.ofText ws[n]) (s.drop ws[n].length) := by
  obtain ⟨xs, q, i, hps, hq, hlength, hxs⟩ := h.exists_misses_before hn hno j
  have hread : (q.read named s i).1 = .success (.ofText ws[n]) (s.drop ws[n].length) :=
    read_word_of_begins hq hbegins i
  exact ⟨_, ⟨xs, q, _, i, hps, hlength, hxs, rfl, _, congrArg Result.outcome hread⟩, hread⟩

/-- No other word does: the members before have failed, as their words would not have. -/
lemma Words.first_of_supplies (h : Words ws ps) (hn : n < ws.length)
    (hx : Supplies named ps s j n x) : ws[n] <+: s ∧ ∀ m (hm : m < n), ¬ws[m] <+: s := by
  obtain ⟨xs, q, rest, i, rfl, rfl, hxs, rfl, v, hv⟩ := hx
  have hword (m : Nat) (hm : m < ws.length) (hm' : m < (xs.map Miss.member ++ q :: rest).length) :
      word ws[m] = .ok (xs.map Miss.member ++ q :: rest)[m] := h.get hm hm'
  constructor
  · have hq : word ws[xs.length] = .ok q := by simpa using hword xs.length hn (by simp)
    exact prefix_of_read_word_ok hq hv
  · intro m hm hbegins
    have hq := hword m (by omega) (by simp; omega)
    rw [List.getElem_append_left (by simpa using hm), List.getElem_map] at hq
    obtain ⟨k, hk⟩ := hxs.exists_error xs[m] (List.getElem_mem hm)
    rw [read_word_of_begins hq hbegins] at hk
    cases hk

/-- Among words that begin the text there is a first one. -/
lemma exists_first_begins (h : ∃ w ∈ ws, w <+: s) :
    ∃ n, ∃ hn : n < ws.length, ws[n] <+: s ∧ ∀ m (hm : m < n), ¬ws[m] <+: s := by
  have hfound : ∃ w ∈ ws, decide (w <+: s) := by simpa using h
  have hn := List.findIdx_lt_length_of_exists hfound
  refine ⟨ws.findIdx (· <+: s), hn, of_decide_eq_true (List.findIdx_getElem (w := hn)), ?_⟩
  intro m hm
  exact of_decide_eq_false (List.not_of_lt_findIdx hm)

lemma Words.read_choice_of_first (h : Words ws ps) (hg : choice ps = .ok g) (hn : n < ws.length)
    (hbegins : ws[n] <+: s) (hno : ∀ m (hm : m < n), ¬ws[m] <+: s) (j : Journal) :
    (g.read named s j).1 = .success (.ofText ws[n]) (s.drop ws[n].length) := by
  obtain ⟨x, hx, hread⟩ := h.exists_supplies hn hbegins hno j
  rw [hx.read_choice hg, hread]

/-- If no word begins the text, the last one is tried and says why not. -/
lemma Words.read_choice_of_none (h : Words ws ps) (hg : choice ps = .ok g) (hne : ws ≠ [])
    (hno : ∀ w ∈ ws, ¬w <+: s) (j : Journal) :
    ∃ p e, word (ws.getLast hne) = .ok p ∧ (p.read named s j).1 = .failure e ∧
      (g.read named s j).1 = .failure e := by
  have hlength : ws.length = ps.length := h.length_eq
  have hpos : 0 < ws.length := List.length_pos_iff.mpr hne
  have hn : ws.length - 1 < ws.length := by omega
  obtain ⟨xs, q, i, hps, hq, -, hxs⟩ :=
    h.exists_misses_before hn (fun m _ => hno _ (List.getElem_mem _)) j
  rw [List.getLast_eq_getElem]
  obtain ⟨e, he⟩ := exists_read_word_failure hq (hno _ (List.getElem_mem hn))
  have hdecides : Decides named s q (ps.drop (ws.length - 1 + 1)) i :=
    Or.inl (List.drop_eq_nil_of_le (by omega))
  exact ⟨q, e, hq, he named j, by rw [hxs.read_choice hdecides hps hg, he]⟩

/-- **Of words to choose from, the first in the list that begins the text is read**, however long
the others are, and if there is none the error is that of the last. A word is never the one that is
read if an earlier one begins it; any other word is, on some text. -/
theorem choice_reads_first_word {ws : List Text} (hne : ws ≠ []) (hws : ∀ w ∈ ws, w ≠ []) :
    ∃ ps g, ws.mapM word = .ok ps ∧ choice ps = .ok g ∧ ∀ (named : Text → Reader) (j : Journal),
      (∀ s,
        ((∃ v r, (g.read named s j).1 = .success v r) ↔ ∃ w ∈ ws, w <+: s) ∧
        (∀ n (hn : n < ws.length), ws[n] <+: s → (∀ m (hm : m < n), ¬ws[m] <+: s) →
          (g.read named s j).1 = .success (.ofText ws[n]) (s.drop ws[n].length)) ∧
        ((∀ w ∈ ws, ¬w <+: s) →
          ∃ p e, word (ws.getLast hne) = .ok p ∧ (p.read named s j).1 = .failure e ∧
            (g.read named s j).1 = .failure e)) ∧
      ∀ n (hn : n < ws.length),
        (∃ s x, Supplies named ps s j n x ∧ g.read named s j = x) ↔
          ∀ m (hm : m < n), ¬ws[m] <+: ws[n] := by
  obtain ⟨ps, hps, h⟩ := exists_words hws
  have hne' : ps ≠ [] := by
    rintro rfl
    exact hne (List.forall₂_nil_right_iff.mp h)
  obtain ⟨p, ps', rfl⟩ := List.exists_cons_of_ne_nil hne'
  obtain ⟨g, hg⟩ : ∃ g, choice (p :: ps') = .ok g := ⟨_, rfl⟩
  refine ⟨_, g, hps, hg, fun named j => ⟨fun s => ⟨⟨?_, ?_⟩, ?_, ?_⟩, fun n hn => ⟨?_, ?_⟩⟩⟩
  · rintro ⟨v, r, hread⟩
    by_contra hnone
    have hno : ∀ w ∈ ws, ¬w <+: s := fun w hw hbegins => hnone ⟨w, hw, hbegins⟩
    obtain ⟨-, e, -, -, hfails⟩ := h.read_choice_of_none hg hne hno j
    exact absurd (hread.symm.trans hfails) (Result.success_ne_failure v r e)
  · intro hsome
    obtain ⟨n, hn, hbegins, hno⟩ := exists_first_begins hsome
    exact ⟨_, _, h.read_choice_of_first hg hn hbegins hno j⟩
  · intro n hn hbegins hno
    exact h.read_choice_of_first hg hn hbegins hno j
  · intro hno
    exact h.read_choice_of_none hg hne hno j
  · rintro ⟨s, x, hx, -⟩ m hm hshadow
    obtain ⟨hbegins, hno⟩ := h.first_of_supplies hn hx
    exact hno m hm (hshadow.trans hbegins)
  · -- the word itself is a text on which it is read
    intro hno
    obtain ⟨x, hx, -⟩ := h.exists_supplies hn (List.prefix_refl ws[n]) hno j
    exact ⟨ws[n], x, hx, hx.read_choice hg⟩

/-- The word `int` is shadowed by `in`, and `on` is not. -/
theorem choice_reads_first_word_int :
    let ws := ["in".toList, "int".toList, "on".toList]
    ws ≠ [] ∧ (∀ w ∈ ws, w ≠ []) ∧
      ∃ ps g, ws.mapM word = .ok ps ∧ choice ps = .ok g ∧
        (g.read undefinedName "into".toList (.blank true)).1 =
          .success (.ofText "in".toList) "to".toList ∧
        (¬∃ s x, Supplies undefinedName ps s (.blank true) 1 x ∧
          g.read undefinedName s (.blank true) = x) ∧
        ∃ s x, Supplies undefinedName ps s (.blank true) 2 x ∧
          g.read undefinedName s (.blank true) = x := by
  intro ws
  have hne : ws ≠ [] := by decide
  have hws : ∀ w ∈ ws, w ≠ [] := by decide
  obtain ⟨ps, g, hps, hg, hread⟩ := choice_reads_first_word hne hws
  obtain ⟨htext, hlive⟩ := hread undefinedName (.blank true)
  refine ⟨hne, hws, ps, g, hps, hg, ?_, ?_, ?_⟩
  · exact (htext "into".toList).2.1 0 (by decide) (by decide) (by simp)
  · rw [hlive 1 (by decide)]
    exact fun hno => hno 0 (by decide) (by decide)
  · rw [hlive 2 (by decide)]
    decide

end CharGrammar.Grammar

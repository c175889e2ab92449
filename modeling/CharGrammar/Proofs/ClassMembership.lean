import Mathlib.Data.List.Induction
import CharGrammar.CharClass
import CharGrammar.Proofs.Stateless

/-!
Classes of characters. A class reads one character if that is a member, and neither the order nor
the repetition of the members counts for that; only the error for a character outside names the last
of them.
-/

namespace CharGrammar

/-- The first character of a range, and the range from the next one on. -/
lemma Text.between_eq_cons {a b c : Char} (hc : c.toNat = a.toNat + 1) (hb : a.toNat ≤ b.toNat) :
    Text.between a b = a :: Text.between c b := by
  have hcount : b.toNat + 1 - a.toNat = b.toNat + 1 - c.toNat + 1 := by omega
  rw [between, between, hcount, List.range'_succ, List.map_cons, Char.ofNat_toNat, hc]

namespace CharClass

/-- What a class with the members `cs` makes of a text, if `last` is the last of them. -/
def reading (cs : Text) (last : Char) : Text → Result
  | [] => .failure .emptyInput
  | c :: r => if c ∈ cs then .success (.char c) r else .failure (.mismatch last c)

/-- Only the members and the last of them matter. -/
lemma reading_congr {cs cs' : Text} (h : ∀ c, c ∈ cs ↔ c ∈ cs') (last : Char) (s : Text) :
    reading cs last s = reading cs' last s := by
  cases s with
  | nil => rfl
  | cons c r => simp only [reading, h c]

lemma reading_eq_success {cs : Text} {last : Char} {s r : Text} {v : Value} :
    reading cs last s = .success v r ↔ ∃ c ∈ cs, s = c :: r ∧ v = .char c := by
  cases s with
  | nil => simp [reading]
  | cons c t =>
    rw [reading]
    split
    · next h =>
      rw [Result.success_inj]
      constructor
      · rintro ⟨rfl, rfl⟩
        exact ⟨c, h, rfl, rfl⟩
      · rintro ⟨d, -, ⟨⟩, rfl⟩
        exact ⟨rfl, rfl⟩
    · next h =>
      refine ⟨fun hx => absurd hx (Result.failure_ne_success _ v r), ?_⟩
      rintro ⟨d, hd, ⟨⟩, -⟩
      exact absurd hd h

lemma oneOf_cons (c : Char) (cs : Text) : Grammar.oneOf (c :: cs) = .ok (ofChars c cs) := rfl

lemma ofChars_append (c : Char) (cs : Text) (d : Char) :
    ofChars c (cs ++ [d]) = .alt (ofChars c cs) (.char d) := by
  simp [ofChars, List.foldl_append]

lemma parse_char_eq_reading (c : Char) (s : Text) :
    (Grammar.char c).parse s = reading [c] c s := by
  cases s with
  | nil => rfl
  | cons d r => simp only [Grammar.parse_char_cons, reading, List.mem_singleton]

/-- One more character at the end is tried after all others have failed, and its error is the one
that is left. -/
lemma orElse_reading (cs : Text) (last e : Char) (s : Text) :
    (reading cs last s).orElse (reading [e] e s) = reading (cs ++ [e]) e s := by
  cases s with
  | nil => rfl
  | cons d r =>
    by_cases h : d ∈ cs
    · simp only [reading, if_pos h, if_pos (List.mem_append_left [e] h), Result.orElse_success]
    · have hiff : d ∈ cs ++ [e] ↔ d ∈ [e] := by simp [h]
      simp only [reading, if_neg h, hiff, Result.orElse_failure]

lemma parse_ofChars (c : Char) (cs s : Text) :
    (ofChars c cs).parse s = reading (c :: cs) ((c :: cs).getLast (List.cons_ne_nil c cs)) s := by
  induction cs using List.reverseRecOn with
  | nil => exact parse_char_eq_reading c s
  | append_singleton cs e ih =>
    have hlast : (c :: (cs ++ [e])).getLast (List.cons_ne_nil c _) = e :=
      List.getLast_concat (l := c :: cs)
    rw [ofChars_append, Grammar.parse_alt, ih, parse_char_eq_reading, orElse_reading, hlast]
    rfl

end CharClass

namespace Grammar

open CharClass

lemma parse_oneOf {cs : Text} (hcs : cs ≠ []) {g : Grammar} (hg : oneOf cs = .ok g) (s : Text) :
    g.parse s = reading cs (cs.getLast hcs) s := by
  obtain ⟨c, cs, rfl⟩ := List.exists_cons_of_ne_nil hcs
  rw [oneOf_cons] at hg
  obtain rfl := Except.ok.inj hg
  exact parse_ofChars c cs s

/-- The ready classes are those of their tables, though each is folded from a range of its own. -/
lemma oneOf_tables :
    oneOf digits = .ok digit ∧ oneOf (lowercase ++ uppercase) = .ok letter ∧
      oneOf hexDigits = .ok hexDigit := by
  have hdigits : Text.between '0' '9' = '0' :: Text.between '1' '9' :=
    Text.between_eq_cons rfl (by decide)
  have hletters : Text.between 'a' 'z' = 'a' :: Text.between 'b' 'z' :=
    Text.between_eq_cons rfl (by decide)
  refine ⟨?_, ?_, ?_⟩
  · rw [digits, hdigits]
    exact oneOf_cons _ _
  · rw [lowercase, hletters]
    exact oneOf_cons _ _
  · rw [hexDigits, hdigits]
    exact oneOf_cons _ _

/-- **A class reads its members and nothing else.** A character outside is an error that names the
last member, and the want of any is one of its own. So lists of the same characters succeed alike,
and fail alike too if they end alike. The ready classes are those of their tables, records
included. -/
theorem oneOf_reads_members {cs : Text} (hcs : cs ≠ []) :
    (∃ g, oneOf cs = .ok g ∧ (∀ s, g.parse s = reading cs (cs.getLast hcs) s) ∧
      ∀ cs' g', oneOf cs' = .ok g' → (∀ c, c ∈ cs ↔ c ∈ cs') →
        (∀ s v r, g.parse s = .success v r ↔ g'.parse s = .success v r) ∧
          (cs.getLast? = cs'.getLast? → ∀ s, g.parse s = g'.parse s)) ∧
      ∀ x ∈ [(digit, digits), (letter, lowercase ++ uppercase), (hexDigit, hexDigits)],
        ∃ p, oneOf x.2 = .ok p ∧ ∀ (named : Text → Reader) (s : Text) (j : Journal),
          x.1.read named s j = p.read named s j := by
  refine ⟨?_, ?_⟩
  · obtain ⟨c, cs, rfl⟩ := List.exists_cons_of_ne_nil hcs
    have hg := oneOf_cons c cs
    refine ⟨_, hg, parse_oneOf hcs hg, fun cs' g' hg' hmem => ?_⟩
    have hcs' : cs' ≠ [] := by
      rintro rfl
      exact absurd ((hmem c).mp List.mem_cons_self) List.not_mem_nil
    refine ⟨fun s v r => ?_, fun hlast s => ?_⟩
    · rw [parse_oneOf hcs hg, parse_oneOf hcs' hg', reading_eq_success, reading_eq_success]
      simp only [hmem]
    · rw [List.getLast?_eq_some_getLast hcs, List.getLast?_eq_some_getLast hcs',
        Option.some.injEq] at hlast
      rw [parse_oneOf hcs hg, parse_oneOf hcs' hg', hlast, reading_congr hmem]
  · obtain ⟨hdigit, hletter, hhex⟩ := oneOf_tables
    intro x hx
    have hx' : oneOf x.2 = .ok x.1 := by
      simp only [List.mem_cons, List.not_mem_nil, or_false] at hx
      rcases hx with rfl | rfl | rfl
      · exact hdigit
      · exact hletter
      · exact hhex
    exact ⟨x.1, hx', fun named s j => rfl⟩

/-- The signs the other way round, and with one of them twice. What is read stays, and the error for
another character does too where the same sign is the last. -/
theorem oneOf_reads_members_signs :
    "+-".toList ≠ [] ∧ ∃ g, oneOf "+-".toList = .ok g ∧
      (∃ g', oneOf "-++".toList = .ok g' ∧
        g'.parse "-1".toList = .success (.char '-') "1".toList ∧
        g.parse "1".toList = .failure (.mismatch '-' '1') ∧
        g'.parse "1".toList = .failure (.mismatch '+' '1')) ∧
      ∃ g', oneOf "++-".toList = .ok g' ∧ ∀ s, g.parse s = g'.parse s := by
  have hcs : "+-".toList ≠ [] := by decide
  have hmem : ∀ c, c ∈ "+-".toList ↔ c ∈ "-++".toList := by
    intro c
    simp [or_comm]
  have hmem' : ∀ c, c ∈ "+-".toList ↔ c ∈ "++-".toList := by
    intro c
    simp
  obtain ⟨⟨g, hg, hreads, hsame⟩, -⟩ := oneOf_reads_members hcs
  obtain ⟨hsuccess, -⟩ := hsame "-++".toList _ rfl hmem
  obtain ⟨-, hequal⟩ := hsame "++-".toList _ rfl hmem'
  have hread : g.parse "-1".toList = .success (.char '-') "1".toList := hreads "-1".toList
  exact ⟨hcs, g, hg, ⟨_, rfl, (hsuccess _ _ _).mp hread, hreads "1".toList, rfl⟩,
    _, rfl, hequal rfl⟩

end Grammar

end CharGrammar

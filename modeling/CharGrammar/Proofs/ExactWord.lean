import Mathlib.Data.List.Infix
import Mathlib.Order.Bounds.Basic
import CharGrammar.Proofs.FailFast

/-!
Words. The grammar of a word reads as far as the text goes along with it, and it succeeds if that is
to the end of the word. One character more is tried where they part.
-/

namespace CharGrammar

open Trace (Record)

/-! ### How far two texts go together -/

namespace Text

/-- Two texts have a front in common, and what is left of them begins differently or not at all. -/
lemma exists_common_front (w s : Text) :
    ∃ u w' s', w = u ++ w' ∧ s = u ++ s' ∧ ∀ c ∈ w'.head?, c ∉ s'.head? := by
  induction w generalizing s with
  | nil => exact ⟨[], [], s, rfl, rfl, nofun⟩
  | cons c w ih =>
    cases s with
    | nil => exact ⟨[], c :: w, [], rfl, rfl, by simp⟩
    | cons d s =>
      by_cases h : c = d
      · obtain ⟨u, w', s', rfl, rfl, hdiffer⟩ := ih s
        exact ⟨c :: u, w', s', rfl, by rw [h, List.cons_append], hdiffer⟩
      · exact ⟨[], c :: w, d :: s, rfl, rfl, by simpa [eq_comm] using h⟩

/-- It is the longest text that both begin with. -/
lemma isGreatest_common_front {u w' s' : Text} (h : ∀ c ∈ w'.head?, c ∉ s'.head?) :
    IsGreatest {n | ∃ v, v <+: u ++ w' ∧ v <+: u ++ s' ∧ v.length = n} u.length := by
  refine ⟨⟨u, List.prefix_append u w', List.prefix_append u s', rfl⟩, ?_⟩
  rintro n ⟨v, hw, hs, rfl⟩
  by_contra hlt
  obtain ⟨x, rfl⟩ := List.prefix_of_prefix_length_le (List.prefix_append u w') hw (by omega)
  have hw' : x <+: w' := (List.prefix_append_right_inj u).mp hw
  have hs' : x <+: s' := (List.prefix_append_right_inj u).mp hs
  cases x with
  | nil => simp at hlt
  | cons c x =>
    obtain ⟨y, rfl⟩ := hw'
    obtain ⟨z, rfl⟩ := hs'
    exact h c rfl rfl

end Text

namespace Grammar

/-- The records of the `n`-th character of `s` being matched. -/
def hit (l s : Text) (x : Char × Nat) : List Record :=
  [⟨s.drop x.2, l, .char x.1, none⟩, ⟨s.drop (x.2 + 1), l, .char x.1, some (.matched x.1)⟩]

variable {named : Text → Reader} {w s r : Text} {j : Journal} {g : Grammar}

lemma read_map (f : Result → Result) (p : Grammar) (s : Text) (j : Journal) :
    (map f p).read named s j = (f (p.read named s j).1, (p.read named s j).2) := rfl

lemma read_char_of_eq (c : Char) (r : Text) (j : Journal) :
    (char c).read named (c :: r) j =
      (.success (.char c) r,
        j.extend
          [⟨c :: r, j.label, .char c, none⟩, ⟨r, j.label, .char c, some (.matched c)⟩] []) := by
  simp [read, readChar, Journal.note_eq_extend]

lemma read_char_of_failure {c : Char} {e : ReadError} (h : (char c).parse r = .failure e)
    (j : Journal) :
    (char c).read named r j =
      (.failure e,
        j.extend [⟨r, j.label, .char c, none⟩, ⟨r, j.label, .char c, some (.failed e)⟩] []) := by
  cases r with
  | nil =>
    obtain rfl : .emptyInput = e := by simpa using h
    simp [read, readChar, Journal.note_eq_extend]
  | cons d r =>
    have hne : d ≠ c := by
      rintro rfl
      simp at h
    obtain rfl : .mismatch c d = e := by simpa [hne] using h
    simp [read, readChar, Journal.note_eq_extend, hne]

/-- The characters of a word pass one after the other where it stands in the text. -/
lemma exists_passes_chars (named : Text → Reader) {n : Nat} (h : s.drop n = w ++ r)
    (j : Journal) : ∃ xs, xs.map Pass.member = w.map char ∧ xs.flatMap (·.value.leaves) = w ∧
      Passes named (w ++ r) j xs r (j.extend ((w.zipIdx n).flatMap (hit j.label s)) []) := by
  induction w generalizing n j with
  | nil => exact ⟨[], rfl, rfl, by simpa using Passes.nil r j⟩
  | cons c w ih =>
    have hnext : s.drop (n + 1) = w ++ r := by rw [← List.tail_drop, h]; rfl
    obtain ⟨xs, hmember, hvalue, hxs⟩ := ih hnext
      (j.extend [⟨c :: (w ++ r), j.label, .char c, none⟩,
        ⟨w ++ r, j.label, .char c, some (.matched c)⟩] [])
    refine ⟨⟨char c, c :: (w ++ r), .char c⟩ :: xs, by simp [hmember], by simp [hvalue], ?_⟩
    have hxs' := Passes.cons (read_char_of_eq c (w ++ r) j) hxs
    simpa [hit, h, hnext] using hxs'

/-- A word is a sequence of its characters with a flat value. There is none without characters. -/
lemma word_eq_ok (hg : word w = .ok g) :
    ∃ t : Bracketing Grammar, t.members = w.map char ∧ g = map Result.flatten (t.join .seq) := by
  cases w with
  | nil => simp [word, sequence, Except.map] at hg
  | cons c w =>
    rw [word, List.map_cons, sequence_cons] at hg
    exact ⟨_, Bracketing.members_leftward _ _, (Except.ok.inj hg).symm⟩

lemma read_word_append (hg : word w = .ok g) (r : Text) (j : Journal) :
    g.read named (w ++ r) j =
      (.success (.ofText w) r, j.extend (w.zipIdx.flatMap (hit j.label (w ++ r))) []) := by
  obtain ⟨t, ht, rfl⟩ := word_eq_ok hg
  have hstart : (w ++ r).drop 0 = w ++ r := rfl
  obtain ⟨xs, hmember, hvalue, hxs⟩ := exists_passes_chars named hstart j
  obtain ⟨v, hv, hread⟩ := hxs.read_join (ht.trans hmember.symm)
  rw [read_map, hread]
  simp only [Result.flatten, Result.map_success, Value.flat_eq_ofText, hv, hvalue]

/-- Behind a part that matches, the word fails as the character does that comes next in it. -/
lemma read_word_failure {u w' : Text} {c : Char} (hg : word (u ++ c :: w') = .ok g)
    {e : ReadError} (hc : (char c).parse r = .failure e) (j : Journal) :
    g.read named (u ++ r) j =
      (.failure e,
        j.extend (u.zipIdx.flatMap (hit j.label (u ++ r)) ++
          [⟨r, j.label, .char c, none⟩, ⟨r, j.label, .char c, some (.failed e)⟩]) []) := by
  obtain ⟨t, ht, rfl⟩ := word_eq_ok hg
  have hstart : (u ++ r).drop 0 = u ++ r := rfl
  obtain ⟨xs, hmember, -, hxs⟩ := exists_passes_chars named hstart j
  rw [List.map_append, List.map_cons, ← hmember] at ht
  rw [read_map, hxs.read_join_failure (read_char_of_failure hc _) ht]
  simp [Result.flatten]

/-- **Words are matched exactly.** Let `i` characters be what the word and the text have in common
at the front. If that is the whole word, it is the value and the text behind it is left. Otherwise
the next character of the word is met by the end of the text or by another character, and that is
the error. The records are those of the common characters being matched, and of the one more that
fails. -/
theorem word_matches_exactly {w : Text} (hw : w ≠ []) :
    word [] = .error .emptySequence ∧
      ∃ g, word w = .ok g ∧ ∀ (named : Text → Reader) (s : Text) (j : Journal), ∃ i,
        IsGreatest {n | ∃ u, u <+: w ∧ u <+: s ∧ u.length = n} i ∧
        (i = w.length →
          g.read named s j =
            (.success (.ofText w) (s.drop w.length),
              j.extend (w.zipIdx.flatMap (hit j.label s)) [])) ∧
        ∀ h : i < w.length, ∃ e,
          (s.length = i → e = .emptyInput) ∧ (∀ h' : i < s.length, e = .mismatch w[i] s[i]) ∧
          g.read named s j =
            (.failure e,
              j.extend ((w.take i).zipIdx.flatMap (hit j.label s) ++
                [⟨s.drop i, j.label, .char w[i], none⟩,
                  ⟨s.drop i, j.label, .char w[i], some (.failed e)⟩]) []) := by
  obtain ⟨c₀, w₀, hcons⟩ := List.exists_cons_of_ne_nil hw
  obtain ⟨g, hg⟩ : ∃ g, word w = .ok g := ⟨_, by rw [hcons]; rfl⟩
  refine ⟨rfl, g, hg, fun named s j => ?_⟩
  obtain ⟨u, w', s', rfl, rfl, hdiffer⟩ := Text.exists_common_front w s
  refine ⟨u.length, Text.isGreatest_common_front hdiffer, fun hend => ?_, fun hmore => ?_⟩
  · obtain rfl : w' = [] := by simpa using hend
    rw [List.append_nil] at hg ⊢
    rw [read_word_append hg, List.drop_left]
  · cases w' with
    | nil => simp at hmore
    | cons c w' =>
      obtain ⟨e, hc, hempty, hmismatch⟩ : ∃ e, (char c).parse s' = .failure e ∧
          (s' = [] → e = .emptyInput) ∧ ∀ d t, s' = d :: t → e = .mismatch c d := by
        cases s' with
        | nil => exact ⟨.emptyInput, parse_char_nil c, fun _ => rfl, nofun⟩
        | cons d t =>
          have hne : d ≠ c := by simpa [eq_comm] using hdiffer
          refine ⟨.mismatch c d, by simp [hne], nofun, ?_⟩
          rintro d' t' ⟨⟩
          rfl
      refine ⟨e, fun hlen => hempty (by simpa using hlen), fun hlt => ?_, ?_⟩
      · cases s' with
        | nil => simp at hlt
        | cons d t => simpa using hmismatch d t rfl
      · rw [read_word_failure hg hc, List.take_left, List.drop_left]
        simp

/-- The text parts from the word behind two characters. -/
theorem word_matches_exactly_abx :
    "abc".toList ≠ [] ∧ ∃ g, word "abc".toList = .ok g ∧
      (g.read undefinedName "abx".toList (.blank true)).1 = .failure (.mismatch 'c' 'x') ∧
      (g.read undefinedName "abx".toList (.blank true)).2.records.size = 6 := by
  have hne : "abc".toList ≠ [] := by decide
  have htwo : IsGreatest {n | ∃ u, u <+: "abc".toList ∧ u <+: "abx".toList ∧ u.length = n} 2 :=
    @Text.isGreatest_common_front ['a', 'b'] ['c'] ['x'] (by simp)
  obtain ⟨-, g, hg, hread⟩ := word_matches_exactly hne
  obtain ⟨i, hi, -, hpart⟩ := hread undefinedName "abx".toList (.blank true)
  obtain rfl : i = 2 := hi.unique htwo
  obtain ⟨e, -, he, hrun⟩ := hpart (by decide)
  obtain rfl : e = .mismatch 'c' 'x' := he (by decide)
  refine ⟨hne, g, hg, ?_, ?_⟩
  · rw [hrun]
  · rw [hrun]
    rfl

end Grammar

end CharGrammar

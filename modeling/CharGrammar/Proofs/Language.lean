import Mathlib.Computability.Language
import CharGrammar.Proofs.Built

/-!
The plain language of a grammar, in which alternatives have no order, and languages in which no
word is the beginning of another.
-/

namespace CharGrammar

/-! ### Words that begin with words -/

/-- No word of one language is the proper beginning of a word of the other. -/
def Apart (L M : Language Char) : Prop :=
  ∀ u ∈ L, ∀ w ∈ M, (u <+: w → u = w) ∧ (w <+: u → w = u)

/-- No word is the proper beginning of another. -/
def PrefixFree (L : Language Char) : Prop := ∀ u ∈ L, ∀ w ∈ L, u <+: w → u = w

lemma Apart.symm {L M : Language Char} (h : Apart L M) : Apart M L :=
  fun u hu w hw => (h w hw u hu).symm

/-- Words of languages apart that begin one text are one word. -/
lemma Apart.eq_of_begins {L M : Language Char} (h : Apart L M) {u w s : Text} (hu : u ∈ L)
    (hw : w ∈ M) (hus : u <+: s) (hws : w <+: s) : u = w := by
  rcases List.prefix_or_prefix_of_prefix hus hws with huw | hwu
  · exact (h u hu w hw).1 huw
  · exact ((h u hu w hw).2 hwu).symm

lemma PrefixFree.apart {L : Language Char} (h : PrefixFree L) : Apart L L :=
  fun u hu w hw => ⟨h u hu w hw, h w hw u hu⟩

lemma prefixFree_singleton (w : Text) : PrefixFree {w} := by
  rintro u rfl v rfl _
  rfl

lemma PrefixFree.mul {L M : Language Char} (hL : PrefixFree L) (hM : PrefixFree M) :
    PrefixFree (L * M) := by
  intro u hu w hw huw
  obtain ⟨u₁, hu₁, u₂, hu₂, rfl⟩ := Language.mem_mul.mp hu
  obtain ⟨w₁, hw₁, w₂, hw₂, rfl⟩ := Language.mem_mul.mp hw
  have h₁ : u₁ <+: w₁ ++ w₂ := (List.prefix_append u₁ u₂).trans huw
  obtain rfl : u₁ = w₁ := hL.apart.eq_of_begins hu₁ hw₁ h₁ (List.prefix_append w₁ w₂)
  rw [hM u₂ hu₂ w₂ hw₂ ((List.prefix_append_right_inj u₁).mp huw)]

lemma PrefixFree.add {L M : Language Char} (hL : PrefixFree L) (hM : PrefixFree M)
    (h : Apart L M) : PrefixFree (L + M) := by
  intro u hu w hw huw
  rw [Language.mem_add] at hu hw
  rcases hu with hu | hu <;> rcases hw with hw | hw
  · exact hL u hu w hw huw
  · exact (h u hu w hw).1 huw
  · exact (h w hw u hu).2 huw
  · exact hM u hu w hw huw

namespace Grammar

/-! ### The language of a grammar -/

/-- The words of a grammar if the order of alternatives does not count. A closure has no words of
its own. -/
def language : Grammar → Language Char
  | char c => {[c]}
  | closure _ | call _ => 0
  | seq a b => a.language * b.language
  | alt a b => a.language + b.language
  | custom _ p | probe _ p | map _ p | label _ p => p.language

/-- At every choice the languages of the two sides are apart. -/
def ChoicesApart : Grammar → Prop
  | char _ | closure _ | call _ => True
  | seq a b => a.ChoicesApart ∧ b.ChoicesApart
  | alt a b => Apart a.language b.language ∧ a.ChoicesApart ∧ b.ChoicesApart
  | custom _ p | probe _ p | map _ p | label _ p => p.ChoicesApart

/-- **Choices apart keep the whole language free of beginnings**, through every sequence and every
choice around them. -/
theorem ChoicesApart.prefixFree {g : Grammar} (h : g.ChoicesApart) : PrefixFree g.language := by
  induction g with
  | char c => exact prefixFree_singleton [c]
  | closure f => exact fun u hu => absurd hu (Language.notMem_zero u)
  | call name => exact fun u hu => absurd hu (Language.notMem_zero u)
  | custom typeName p ih => exact ih h
  | probe id p ih => exact ih h
  | seq a b iha ihb => exact (iha h.1).mul (ihb h.2)
  | alt a b iha ihb => exact (iha h.2.1).add (ihb h.2.2) h.1
  | map f p ih => exact ih h
  | label l p ih => exact ih h

end Grammar

end CharGrammar

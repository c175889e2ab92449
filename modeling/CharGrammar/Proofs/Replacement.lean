import Mathlib.Data.List.Infix
import CharGrammar.Text.Basic

/-!
What a replacement leaves alone, and what is left of the pattern behind it. A text is passed from
the front, and at each place it either begins with the pattern or with a character that stays.
-/

namespace CharGrammar.Text

variable {pat rep s t w : Text}

/-! ### Passing a text -/

lemma replaceFrom_eq_drop (pat rep : Text) (n : Nat) (s : Text) :
    replaceFrom pat rep n s = replaceAll (s.drop n) pat rep := by
  induction s generalizing n with
  | nil => cases n <;> rfl
  | cons c s ih =>
    cases n with
    | zero => rfl
    | succ n => exact ih n

@[simp] lemma replaceAll_nil : replaceAll [] pat rep = [] := rfl

lemma replaceAll_pattern_append (hpat : pat ≠ []) (t : Text) :
    replaceAll (pat ++ t) pat rep = rep ++ replaceAll t pat rep := by
  obtain ⟨c, p, rfl⟩ := List.exists_cons_of_ne_nil hpat
  have hbegins : (c :: p).isPrefixOf (c :: (p ++ t)) := by
    rw [List.isPrefixOf_iff_prefix]
    exact List.prefix_append (c :: p) t
  rw [replaceAll, List.cons_append, replaceFrom, if_pos hbegins, replaceFrom_eq_drop]
  simp

lemma replaceAll_cons {c : Char} (h : ¬pat <+: c :: s) :
    replaceAll (c :: s) pat rep = c :: replaceAll s pat rep := by
  rw [replaceAll, replaceFrom, if_neg (mt List.isPrefixOf_iff_prefix.mp h)]
  rfl

/-- Induction along the places that a replacement passes. -/
@[elab_as_elim]
theorem pass_induct {P : Text → Prop} (hpat : pat ≠ []) (nil : P [])
    (occurrence : ∀ t, P t → P (pat ++ t))
    (other : ∀ c s, ¬pat <+: c :: s → P s → P (c :: s)) (s : Text) : P s := by
  induction hn : s.length using Nat.strong_induction_on generalizing s with
  | _ n ih =>
    subst hn
    by_cases h : pat <+: s
    · obtain ⟨t, rfl⟩ := h
      have hlen : 0 < pat.length := List.length_pos_of_ne_nil hpat
      exact occurrence t (ih t.length (by simp; omega) t rfl)
    · cases s with
      | nil => exact nil
      | cons c s => exact other c s h (ih s.length (by simp) s rfl)

/-! ### Texts side by side -/

/-- A text that the pattern cannot run on into is replaced on its own. -/
lemma replaceAll_append (hpat : pat ≠ []) (h : ∀ c ∈ t.head?, c ∉ pat.tail) (s : Text) :
    replaceAll (s ++ t) pat rep = replaceAll s pat rep ++ replaceAll t pat rep := by
  induction s using pass_induct hpat with
  | nil => rfl
  | occurrence u ih =>
    rw [List.append_assoc, replaceAll_pattern_append hpat, replaceAll_pattern_append hpat, ih,
      List.append_assoc]
  | other c s hs ih =>
    have hst : ¬pat <+: c :: (s ++ t) := by
      intro hp
      rcases List.prefix_or_prefix_of_prefix hp (List.prefix_append (c :: s) t) with hps | hsp
      · exact hs hps
      · -- the pattern would begin in `c :: s` and go on with the first character of `t`
        obtain ⟨u, rfl⟩ := hsp
        have hut : u <+: t := (List.prefix_append_right_inj (c :: s)).mp hp
        cases u with
        | nil => exact hs (by simp)
        | cons d u =>
          obtain ⟨v, rfl⟩ := hut
          exact h d rfl (by simp)
    rw [List.cons_append, replaceAll_cons hst, replaceAll_cons hs, ih, List.cons_append]

/-- Code words that the pattern cannot run on into are replaced one by one. -/
lemma replaceAll_flatMap {α : Type} {code : α → Text} (hpat : pat ≠ [])
    (h : ∀ a, ∀ c ∈ (code a).head?, c ∉ pat.tail) (as : List α) :
    replaceAll (as.flatMap code) pat rep = as.flatMap fun a => replaceAll (code a) pat rep := by
  have hhead (bs : List α) : ∀ c ∈ (bs.flatMap code).head?, c ∉ pat.tail := by
    intro c hc
    rw [List.head?_flatMap] at hc
    obtain ⟨b, -, hb⟩ := List.exists_of_findSome?_eq_some hc
    exact h b c hb
  induction as with
  | nil => rfl
  | cons a as ih =>
    rw [List.flatMap_cons, replaceAll_append hpat (hhead as), ih, List.flatMap_cons]

/-! ### What is left behind -/

/-- Where the pattern does not occur nothing happens. -/
lemma replaceAll_of_not_infix (h : ¬pat <:+: s) : replaceAll s pat rep = s := by
  induction s with
  | nil => rfl
  | cons c s ih =>
    have hbegins : ¬pat <+: c :: s := fun hp => h hp.isInfix
    have hlater : ¬pat <:+: s := fun hi => h (List.infix_cons hi)
    rw [replaceAll_cons hbegins, ih hlater]

/-- A text without characters of `w` in front of another adds no occurrence of `w`. -/
lemma infix_of_infix_append (hw : w ≠ []) (hd : s.Disjoint w) (h : w <:+: s ++ t) :
    w <:+: t := by
  induction s with
  | nil => exact h
  | cons c s ih =>
    rw [List.cons_append, List.infix_cons_iff] at h
    rcases h with h | h
    · obtain ⟨d, w', rfl⟩ := List.exists_cons_of_ne_nil hw
      obtain ⟨rfl, -⟩ := List.cons_prefix_cons.mp h
      exact (hd (List.mem_cons_self ..) (List.mem_cons_self ..)).elim
    · exact ih (List.disjoint_of_disjoint_cons_left hd) h

section

variable (hpat : pat ≠ []) (hrep : rep ≠ [])
include hpat hrep

/-- With no character of the replacement in it, what begins a replaced text began it before. -/
lemma prefix_of_prefix_replaceAll (hd : rep.Disjoint w) (h : w <+: replaceAll s pat rep) :
    w <+: s := by
  induction s using pass_induct hpat generalizing w with
  | nil => exact h
  | occurrence t ih =>
    rw [replaceAll_pattern_append hpat] at h
    cases w with
    | nil => exact List.nil_prefix
    | cons d w =>
      obtain ⟨c, r, rfl⟩ := List.exists_cons_of_ne_nil hrep
      obtain ⟨rfl, -⟩ := List.cons_prefix_cons.mp h
      exact (hd (List.mem_cons_self ..) (List.mem_cons_self ..)).elim
  | other c s hs ih =>
    rw [replaceAll_cons hs] at h
    cases w with
    | nil => exact List.nil_prefix
    | cons d w =>
      obtain ⟨rfl, hw⟩ := List.cons_prefix_cons.mp h
      exact List.cons_prefix_cons.mpr ⟨rfl, ih (List.disjoint_of_disjoint_cons_right hd) hw⟩

/-- Replacements create no occurrence of a text that they share no character with. -/
lemma infix_of_infix_replaceAll (hw : w ≠ []) (hd : rep.Disjoint w)
    (h : w <:+: replaceAll s pat rep) : w <:+: s := by
  induction s using pass_induct hpat with
  | nil => exact h
  | occurrence t ih =>
    rw [replaceAll_pattern_append hpat] at h
    exact List.infix_append_of_infix_right (ih (infix_of_infix_append hw hd h))
  | other c s hs ih =>
    rw [replaceAll_cons hs, List.infix_cons_iff] at h
    rcases h with h | h
    · rw [← replaceAll_cons hs] at h
      exact (prefix_of_prefix_replaceAll hpat hrep hd h).isInfix
    · exact List.infix_cons (ih h)

/-- No occurrence of the pattern outlives its replacement. -/
lemma not_infix_replaceAll (hd : rep.Disjoint pat) : ¬pat <:+: replaceAll s pat rep := by
  intro h
  induction s using pass_induct hpat with
  | nil => exact hpat (List.infix_nil.mp h)
  | occurrence t ih =>
    rw [replaceAll_pattern_append hpat] at h
    exact ih (infix_of_infix_append hpat hd h)
  | other c s hs ih =>
    rw [replaceAll_cons hs, List.infix_cons_iff] at h
    rcases h with h | h
    · rw [← replaceAll_cons hs] at h
      exact hs (prefix_of_prefix_replaceAll hpat hrep hd h)
    · exact ih h

end

end CharGrammar.Text

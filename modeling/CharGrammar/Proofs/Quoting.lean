import Mathlib.Tactic.Common
import CharGrammar.Text.Quoted

/-!
Escaped and quoted forms show where they end. Whatever stands behind it, an escaped or quoted
character, a quoted text, or a list of such forms between brackets can be read off the front of a
text in one way only, for every choice of the characters that are hidden.
-/

namespace CharGrammar.Text

/-- The end of the code word of `a` can be told without what comes behind it. -/
def Delimits {α : Type} (code : α → Text) (a : α) : Prop :=
  ∀ b x y, code a ++ x = code b ++ y → a = b ∧ x = y

/-- The end of each code word can be told without what comes behind it. -/
def SelfDelimiting {α : Type} (code : α → Text) : Prop :=
  ∀ a b x y, code a ++ x = code b ++ y → a = b ∧ x = y

section

variable {α : Type} {code : α → Text} {q : Char}

lemma SelfDelimiting.injective (h : SelfDelimiting code) : Function.Injective code := by
  intro a b hab
  have happend : code a ++ [] = code b ++ [] := by rw [hab]
  exact (h a b [] [] happend).1

/-! ### Ends -/

/-- A text ends at the first `q` if there is none in it. -/
lemma append_cons_inj {q : Char} {s t x y : Text} (hs : q ∉ s) (ht : q ∉ t)
    (h : s ++ q :: x = t ++ q :: y) : s = t ∧ x = y := by
  induction s generalizing t with
  | nil =>
    cases t with
    | nil => exact ⟨rfl, (List.cons.inj h).2⟩
    | cons d t => exact absurd (List.cons.inj h).1 (List.ne_of_not_mem_cons ht)
  | cons c s ih =>
    cases t with
    | nil => exact absurd (List.cons.inj h).1.symm (List.ne_of_not_mem_cons hs)
    | cons d t =>
      obtain ⟨rfl, hst⟩ := List.cons.inj h
      obtain ⟨rfl, hxy⟩ :=
        ih (List.not_mem_of_not_mem_cons hs) (List.not_mem_of_not_mem_cons ht) hst
      exact ⟨rfl, hxy⟩

/-- Code words one after the other, up to an end that none of them begins with. -/
lemma delimits_flatMap (hq : ∀ a, ∃ c r, code a = c :: r ∧ c ≠ q) {as : List α}
    (h : ∀ a ∈ as, Delimits code a) :
    Delimits (fun bs : List α => bs.flatMap code ++ [q]) as := by
  intro bs x y hxy
  simp only [List.append_assoc, List.singleton_append] at hxy
  induction as generalizing bs with
  | nil =>
    cases bs with
    | nil => exact ⟨rfl, (List.cons.inj hxy).2⟩
    | cons b bs =>
      obtain ⟨c, r, hc, hne⟩ := hq b
      rw [List.flatMap_nil, List.flatMap_cons, hc] at hxy
      exact absurd (List.cons.inj hxy).1.symm hne
  | cons a as ih =>
    cases bs with
    | nil =>
      obtain ⟨c, r, hc, hne⟩ := hq a
      rw [List.flatMap_nil, List.flatMap_cons, hc] at hxy
      exact absurd (List.cons.inj hxy).1 hne
    | cons b bs =>
      rw [List.flatMap_cons, List.flatMap_cons, List.append_assoc, List.append_assoc] at hxy
      obtain ⟨rfl, htail⟩ := h a List.mem_cons_self b _ _ hxy
      obtain ⟨rfl, hend⟩ := ih (fun c hc => h c (List.mem_cons_of_mem a hc)) bs htail
      exact ⟨rfl, hend⟩

lemma SelfDelimiting.flatMap (h : SelfDelimiting code) (hq : ∀ a, ∃ c r, code a = c :: r ∧ c ≠ q) :
    SelfDelimiting fun as : List α => as.flatMap code ++ [q] :=
  fun _ => delimits_flatMap hq fun a _ => h a

lemma intercalate_cons_eq_flatMap (sep l : Text) (ls : List Text) :
    sep.intercalate (l :: ls) = l ++ ls.flatMap (sep ++ ·) := by
  induction ls generalizing l with
  | nil => simp
  | cons m ls ih => rw [List.intercalate_cons_cons, ih, List.flatMap_cons]; simp

/-- Code words with a separator between them, up to an end that neither they nor the separator
begin with. -/
lemma delimits_intercalate {s : Char} (hs : s ≠ q) (hq : ∀ a, ∃ c r, code a = c :: r ∧ c ≠ q)
    (sep : Text) {as : List α} (h : ∀ a ∈ as, Delimits code a) :
    Delimits (fun bs : List α => (s :: sep).intercalate (bs.map code) ++ [q]) as := by
  intro bs x y hxy
  simp only [List.append_assoc, List.singleton_append] at hxy
  have hopen (a : α) (ls : List Text) (u v : Text) :
      (s :: sep).intercalate (code a :: ls) ++ u ≠ q :: v := by
    obtain ⟨c, r, hc, hne⟩ := hq a
    simp [intercalate_cons_eq_flatMap, hc, hne]
  cases as with
  | nil =>
    cases bs with
    | nil => exact ⟨rfl, (List.cons.inj hxy).2⟩
    | cons b bs => exact absurd hxy.symm (hopen b _ _ _)
  | cons a as =>
    cases bs with
    | nil => exact absurd hxy (hopen a _ _ _)
    | cons b bs =>
      simp only [List.map_cons, intercalate_cons_eq_flatMap, List.append_assoc,
        List.flatMap_map] at hxy
      obtain ⟨rfl, htail⟩ := h a List.mem_cons_self b _ _ hxy
      -- behind the first code word each one comes with its separator in front
      have hbehind : ∀ c ∈ as, Delimits (fun a => s :: sep ++ code a) c := by
        intro c hc d u v huv
        rw [List.append_assoc, List.append_assoc] at huv
        exact h c (List.mem_cons_of_mem a hc) d u v (List.append_cancel_left huv)
      have hends := delimits_flatMap (fun a => ⟨s, sep ++ code a, rfl, hs⟩) hbehind bs x y
      obtain ⟨rfl, hend⟩ := hends (by simpa using htail)
      exact ⟨rfl, hend⟩

end

/-! ### Code points -/

lemma digitChar_injOn : ∀ n < 16, ∀ m < 16, Nat.digitChar n = Nat.digitChar m → n = m := by
  decide

lemma toDigits_injective : Function.Injective (Nat.toDigits 16) := by
  intro n m h
  induction n using Nat.strongRecOn generalizing m with
  | _ n ih =>
    have hlt (k : Nat) : (Nat.toDigits 16 k).length ≤ 1 ↔ k < 16 := by
      simpa using Nat.length_toDigits_le_iff (b := 16) (n := k) (k := 1) (by decide) (by decide)
    by_cases hn : n < 16
    · have hm : m < 16 := by rwa [← hlt, ← h, hlt]
      rw [Nat.toDigits_of_lt_base hn, Nat.toDigits_of_lt_base hm] at h
      exact digitChar_injOn n hn m hm (List.cons.inj h).1
    · have hm : ¬m < 16 := by rwa [← hlt, ← h, hlt]
      rw [Nat.toDigits_of_base_le (by decide) (Nat.not_lt.mp hn),
        Nat.toDigits_of_base_le (by decide) (Nat.not_lt.mp hm)] at h
      obtain ⟨hhigh, hlow⟩ := List.append_inj' h rfl
      have hdiv : n / 16 = m / 16 := ih (n / 16) (by omega) hhigh
      have hmod : n % 16 = m % 16 :=
        digitChar_injOn _ (Nat.mod_lt n (by decide)) _ (Nat.mod_lt m (by decide))
          (List.cons.inj hlow).1
      omega

/-- What holds of the sixteen digits holds of all characters of a number. -/
lemma forall_mem_toDigits {P : Char → Prop} (h : ∀ k < 16, P (Nat.digitChar k)) (n : Nat) :
    ∀ d ∈ Nat.toDigits 16 n, P d := by
  induction n using Nat.strongRecOn with
  | _ n ih =>
    intro d hd
    by_cases hn : n < 16
    · rw [Nat.toDigits_of_lt_base hn, List.mem_singleton] at hd
      exact hd ▸ h n hn
    · rw [Nat.toDigits_of_base_le (by decide) (Nat.not_lt.mp hn), List.mem_append,
        List.mem_singleton] at hd
      rcases hd with hd | rfl
      · exact ih (n / 16) (by omega) d hd
      · exact h (n % 16) (Nat.mod_lt n (by decide))

lemma brace_notMem_toDigits (n : Nat) : '\x7d' ∉ Nat.toDigits 16 n :=
  fun h => forall_mem_toDigits (P := (· ≠ '\x7d')) (by decide) n _ h rfl

/-- What holds of the frame and of the digits holds of all characters of a code point. -/
lemma forall_mem_codePoint {P : Char → Prop} (hframe : ∀ d ∈ "\\u\x7b\x7d".toList, P d)
    (hdigit : ∀ k < 16, P (Nat.digitChar k)) (c : Char) : ∀ d ∈ codePoint c, P d := by
  intro d hd
  rw [codePoint, List.append_assoc, List.mem_append, List.mem_append] at hd
  rcases hd with hd | hd | hd
  · exact hframe d (List.mem_append_left "\x7d".toList hd)
  · exact forall_mem_toDigits hdigit _ d hd
  · exact hframe d (List.mem_append_right "\\u\x7b".toList hd)

/-- The digits end at the brace. -/
lemma selfDelimiting_codePoint : SelfDelimiting codePoint := by
  intro c d x y h
  simp only [codePoint, List.append_assoc] at h
  have hdigits : Nat.toDigits 16 c.toNat ++ '\x7d' :: x = Nat.toDigits 16 d.toNat ++ '\x7d' :: y :=
    List.append_cancel_left h
  obtain ⟨hcd, hxy⟩ := append_cons_inj (brace_notMem_toDigits _) (brace_notMem_toDigits _) hdigits
  exact ⟨Char.toNat_inj.mp (toDigits_injective hcd), hxy⟩

/-! ### Escapes -/

/-- The character that a backslash and a letter stand for. -/
def escaped : Char → Char
  | '0' => '\x00'
  | 't' => '\t'
  | 'r' => '\r'
  | 'n' => '\n'
  | e => e

/-- Each character is written as a backslash and a letter, as a code point, or as itself. -/
def IsEscape (code : Char → Text) : Prop :=
  ∀ c, (∃ e, e ≠ 'u' ∧ code c = ['\\', e] ∧ escaped e = c) ∨ code c = codePoint c ∨
    code c = [c] ∧ c ≠ '\\'

/-- What comes first, and second behind a backslash, tells the three apart. -/
lemma IsEscape.selfDelimiting {code : Char → Text} (hcode : IsEscape code) :
    SelfDelimiting code := by
  intro c d x y h
  have hpoint (k : Char) : ∃ r, codePoint k = '\\' :: 'u' :: r := ⟨_, rfl⟩
  obtain ⟨rc, hrc⟩ := hpoint c
  obtain ⟨rd, hrd⟩ := hpoint d
  rcases hcode c with ⟨e, he, hc, rfl⟩ | hc | ⟨hc, hslash⟩ <;>
    rcases hcode d with ⟨f, hf, hd, rfl⟩ | hd | ⟨hd, hslash'⟩ <;>
    rw [hc, hd] at h
  · obtain ⟨rfl, rfl⟩ : e = f ∧ x = y := by simpa using h
    exact ⟨rfl, rfl⟩
  · rw [hrd] at h
    exact absurd (by simpa using h : e = 'u' ∧ _).1 he
  · exact absurd (List.cons.inj h).1.symm hslash'
  · rw [hrc] at h
    exact absurd (by simpa using h : 'u' = f ∧ _).1.symm hf
  · exact selfDelimiting_codePoint c d x y h
  · rw [hrc] at h
    exact absurd (List.cons.inj h).1.symm hslash'
  · exact absurd (List.cons.inj h).1 hslash
  · rw [hrd] at h
    exact absurd (List.cons.inj h).1 hslash
  · exact List.cons.inj h

/-- A code that escapes `q` begins no code word with it. -/
lemma IsEscape.head_ne {code : Char → Text} (hcode : IsEscape code) {q : Char}
    (hself : code q = ['\\', q]) (hq : '\\' ≠ q) (c : Char) :
    ∃ d r, code c = d :: r ∧ d ≠ q := by
  rcases hcode c with ⟨e, -, hc, -⟩ | hc | ⟨hc, -⟩
  · exact ⟨'\\', [e], hc, hq⟩
  · exact ⟨'\\', _, hc, hq⟩
  · refine ⟨c, [], hc, fun heq => ?_⟩
    subst heq
    simp [hc] at hself

lemma isEscape_escapeChar : IsEscape escapeChar := by
  intro c
  unfold escapeChar
  split
  · exact Or.inl ⟨'t', by decide, rfl, rfl⟩
  · exact Or.inl ⟨'r', by decide, rfl, rfl⟩
  · exact Or.inl ⟨'n', by decide, rfl, rfl⟩
  · exact Or.inl ⟨'\x27', by decide, rfl, rfl⟩
  · exact Or.inl ⟨'\x22', by decide, rfl, rfl⟩
  · exact Or.inl ⟨'\\', by decide, rfl, rfl⟩
  · next hslash =>
    split
    · exact Or.inr (Or.inr ⟨rfl, hslash⟩)
    · exact Or.inr (Or.inl rfl)

/-! ### Quotes -/

/-- The characters that quoted forms stand in. -/
def IsQuote (q : Char) : Prop := q = '\x27' ∨ q = '\x22'

variable {q : Char}

lemma IsQuote.slash_ne (hq : IsQuote q) : '\\' ≠ q := by
  rcases hq with rfl | rfl <;> decide

lemma IsQuote.escaped_eq (hq : IsQuote q) : escaped q = q := by
  rcases hq with rfl | rfl <;> rfl

lemma quoteBody_self (hidden : Char → Bool) (hq : IsQuote q) :
    quoteBody hidden q q = ['\\', q] := by
  rcases hq with rfl | rfl <;> rfl

lemma isEscape_quoteBody (hidden : Char → Bool) (hq : IsQuote q) :
    IsEscape (quoteBody hidden q) := by
  intro c
  unfold quoteBody
  split
  · exact Or.inl ⟨'0', by decide, rfl, rfl⟩
  · exact Or.inl ⟨'t', by decide, rfl, rfl⟩
  · exact Or.inl ⟨'r', by decide, rfl, rfl⟩
  · exact Or.inl ⟨'n', by decide, rfl, rfl⟩
  · exact Or.inl ⟨'\\', by decide, rfl, rfl⟩
  · split
    · next heq =>
      subst heq
      refine Or.inl ⟨c, ?_, rfl, hq.escaped_eq⟩
      rcases hq with rfl | rfl <;> decide
    · next hslash hne =>
      split
      · exact Or.inr (Or.inl rfl)
      · exact Or.inr (Or.inr ⟨rfl, hslash⟩)

/-- None of the characters between quotes can be taken for the closing one. -/
lemma quoteBody_head_ne (hidden : Char → Bool) (hq : IsQuote q) (c : Char) :
    ∃ d r, quoteBody hidden q c = d :: r ∧ d ≠ q :=
  (isEscape_quoteBody hidden hq).head_ne (quoteBody_self hidden hq) hq.slash_ne c

/-- **Quoted characters** show where they end. -/
theorem selfDelimiting_quoteChar (hidden : Char → Bool) : SelfDelimiting (quoteChar hidden) := by
  intro c d x y h
  simp only [quoteChar, List.cons_append, List.append_assoc] at h
  obtain ⟨rfl, hend⟩ :=
    (isEscape_quoteBody hidden (Or.inl rfl)).selfDelimiting c d _ _ (List.cons.inj h).2
  exact ⟨rfl, (List.cons.inj hend).2⟩

/-- **Quoted texts** show where they end, whatever quotes, line ends and backslashes are in them. -/
theorem selfDelimiting_quoteText (hidden : Char → Bool) : SelfDelimiting (quoteText hidden) := by
  have hq : IsQuote '\x22' := Or.inr rfl
  intro s t x y h
  exact (isEscape_quoteBody hidden hq).selfDelimiting.flatMap (quoteBody_head_ne hidden hq) s t x y
    (List.cons.inj h).2

end CharGrammar.Text

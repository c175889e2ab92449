import CharGrammar.Proofs.Quoting
import CharGrammar.Result
import CharGrammar.Text.Hidden

/-!
What can be read back from the written form of a value and from the spelled-out forms of values,
errors and results: everything. A kind of value or of error is told by the first characters, lists
end at their bracket, and characters and texts stand between quotes, so that nothing inside them is
taken for what stands around them.
-/

namespace CharGrammar

namespace Value

/-- Induction over a value and the items of its lists. -/
@[elab_as_elim]
theorem induct {P : Value → Prop} (char : ∀ c, P (.char c))
    (list : ∀ vs, (∀ v ∈ vs, P v) → P (.list vs)) (v : Value) : P v := by
  refine @Value.rec P (fun vs => ∀ v ∈ vs, P v) char list ?nil ?cons v
  case nil => exact fun v hv => absurd hv List.not_mem_nil
  case cons =>
    intro v vs hv hvs
    exact List.forall_mem_cons.mpr ⟨hv, hvs⟩

/-! ### Written values -/

lemma written_head (v : Value) : ∃ c r, v.written = c :: r ∧ c ≠ ']' := by
  cases v with
  | char c => exact ⟨'\x27', _, rfl, by decide⟩
  | list vs => exact ⟨'[', _, rfl, by decide⟩

/-- Written values show where they end. -/
lemma selfDelimiting_written : Text.SelfDelimiting written := by
  intro v
  induction v using induct with
  | char c =>
    intro w x y h
    cases w with
    | char d =>
      simp only [written, List.cons_append, List.append_assoc] at h
      obtain ⟨rfl, hend⟩ := Text.isEscape_escapeChar.selfDelimiting c d _ _ (List.cons.inj h).2
      exact ⟨rfl, (List.cons.inj hend).2⟩
    | list ws => exact absurd (List.cons.inj h).1 (by decide)
  | list vs ih =>
    intro w x y h
    cases w with
    | char d => exact absurd (List.cons.inj h).1 (by decide)
    | list ws =>
      simp only [written, writtenItems_eq_map] at h
      obtain ⟨rfl, hxy⟩ :=
        Text.delimits_intercalate (by decide) written_head [' '] ih ws x y (List.cons.inj h).2
      exact ⟨rfl, hxy⟩

/-- **The written form of a value loses nothing.** Whatever stands behind them, two values are
written alike only if they are equal, whatever quotes, brackets and commas their characters are. -/
theorem written_loses_nothing :
    (∀ (v w : Value) (x y : Text), v.written ++ x = w.written ++ y ↔ v = w ∧ x = y) ∧
      Function.Injective written := by
  refine ⟨fun v w x y => ⟨selfDelimiting_written v w x y, ?_⟩, selfDelimiting_written.injective⟩
  rintro ⟨rfl, rfl⟩
  rfl

/-- The quote is escaped, and the comma stands between quotes of its own. -/
example : (list [char '\x27', char ',', list []]).written = "['\\'', ',', []]".toList := by
  decide

/-! ### Spelled-out values -/

variable {hidden : Char → Bool}

lemma spelled_head (v : Value) : ∃ c r, v.spelled hidden = c :: r ∧ c ≠ ']' := by
  cases v with
  | char c => exact ⟨'C', _, rfl, by decide⟩
  | list vs => exact ⟨'L', _, rfl, by decide⟩

lemma selfDelimiting_spelled (hidden : Char → Bool) : Text.SelfDelimiting (spelled hidden) := by
  intro v
  induction v using induct with
  | char c =>
    intro w x y h
    cases w with
    | char d =>
      simp only [spelled_char, List.append_assoc] at h
      obtain ⟨rfl, hend⟩ :=
        Text.selfDelimiting_quoteChar hidden c d _ _ (List.append_cancel_left h)
      exact ⟨rfl, List.append_cancel_left hend⟩
    | list ws => exact absurd (List.cons.inj h).1 (by decide)
  | list vs ih =>
    intro w x y h
    cases w with
    | char d => exact absurd (List.cons.inj h).1 (by decide)
    | list ws =>
      simp only [spelled_list, List.append_assoc] at h
      have hitems :
          ([',', ' '].intercalate (vs.map (spelled hidden)) ++ [']']) ++ ')' :: x =
            ([',', ' '].intercalate (ws.map (spelled hidden)) ++ [']']) ++ ')' :: y := by
        simpa using List.append_cancel_left h
      obtain ⟨rfl, hend⟩ :=
        Text.delimits_intercalate (by decide) spelled_head [' '] ih ws _ _ hitems
      exact ⟨rfl, (List.cons.inj hend).2⟩

end Value

/-! ### Spelled-out errors -/

namespace ReadError

lemma selfDelimiting_spelled (hidden : Char → Bool) : Text.SelfDelimiting (spelled hidden) := by
  intro d e x y h
  cases d with
  | emptyInput =>
    cases e with
    | emptyInput => exact ⟨rfl, List.append_cancel_left h⟩
    | _ => simp at h
  | mismatch a b =>
    cases e with
    | mismatch a' b' =>
      simp only [spelled_mismatch, List.append_assoc] at h
      obtain ⟨rfl, hfound⟩ :=
        Text.selfDelimiting_quoteChar hidden a a' _ _ (List.append_cancel_left h)
      obtain ⟨rfl, hend⟩ :=
        Text.selfDelimiting_quoteChar hidden b b' _ _ (List.append_cancel_left hfound)
      exact ⟨rfl, List.append_cancel_left hend⟩
    | _ => simp at h
  | described s =>
    cases e with
    | described t =>
      simp only [spelled_described, List.append_assoc] at h
      obtain ⟨rfl, hend⟩ :=
        Text.selfDelimiting_quoteText hidden s t _ _ (List.append_cancel_left h)
      exact ⟨rfl, List.append_cancel_left hend⟩
    | _ => simp at h

end ReadError

/-! ### Spelled-out results -/

namespace Result

lemma selfDelimiting_spelled (hidden : Char → Bool) : Text.SelfDelimiting (spelled hidden) := by
  rintro ⟨o, s⟩ ⟨o', s'⟩ x y h
  -- what stands behind the outcome is the same for values and errors
  have hbehind (h : ")".toList ++ (", remaining: ".toList ++
      (Text.quoteText hidden s ++ (" \x7d".toList ++ x))) = ")".toList ++
      (", remaining: ".toList ++ (Text.quoteText hidden s' ++ (" \x7d".toList ++ y)))) :
      s = s' ∧ x = y := by
    have hrest := List.append_cancel_left (List.append_cancel_left h)
    obtain ⟨hs, hend⟩ := Text.selfDelimiting_quoteText hidden s s' _ _ hrest
    exact ⟨hs, List.append_cancel_left hend⟩
  cases o with
  | ok v =>
    cases o' with
    | ok w =>
      simp only [spelled_ok, List.append_assoc] at h
      have hvalue := List.append_cancel_left (List.append_cancel_left h)
      obtain ⟨rfl, hend⟩ := Value.selfDelimiting_spelled hidden v w _ _ hvalue
      obtain ⟨rfl, hxy⟩ := hbehind hend
      exact ⟨rfl, hxy⟩
    | error e => simp at h
  | error d =>
    cases o' with
    | ok w => simp at h
    | error e =>
      simp only [spelled_error, List.append_assoc] at h
      have herror := List.append_cancel_left (List.append_cancel_left h)
      obtain ⟨rfl, hend⟩ := ReadError.selfDelimiting_spelled hidden d e _ _ herror
      obtain ⟨rfl, hxy⟩ := hbehind hend
      exact ⟨rfl, hxy⟩

/-- **The spelled-out form of a result identifies it**: two results are spelled alike exactly if
they have the same value or error and the same rest, whichever characters are hidden. A message or a
rest that looks like the form around it does not matter. -/
theorem spelled_eq_iff (hidden : Char → Bool) (r r' : Result) :
    r.spelled hidden = r'.spelled hidden ↔ r = r' :=
  (selfDelimiting_spelled hidden).injective.eq_iff

/-- The message would close the form around it, but for the escape. -/
example :
    (failure (.described "\")".toList)).spelled (fun _ => false) =
      "ParseResult \x7b outcome: Err(Message(\"\\\")\")), remaining: \"\" \x7d".toList := by
  decide +kernel

end Result

end CharGrammar

import CharGrammar.Proofs.Rewriting

/-!
The flat list of the leaves as the normal form of values. Values have one flat form exactly if they
have one text, and the values that are kept as they are are those that the traversal of the leaves
would give back.
-/

namespace CharGrammar

namespace Value

lemma isChar_iff {v : Value} : v.isChar ↔ ∃ c, v = .char c := by
  cases v <;> simp [isChar]

lemma isFlat_iff {v : Value} : v.isFlat ↔ ∃ vs, v = .list vs ∧ ∀ w ∈ vs, ∃ c, w = .char c := by
  cases v with
  | char c => simp [isFlat]
  | list vs => simp [isFlat, isChar_iff]

lemma isFlat_ofText (t : Text) : (ofText t).isFlat := by
  rw [isFlat_iff]
  refine ⟨_, rfl, fun w hw => ?_⟩
  obtain ⟨c, -, rfl⟩ := List.mem_map.mp hw
  exact ⟨c, rfl⟩

lemma flat_eq_self_iff {v : Value} : v.flat = v ↔ v.isFlat := by
  constructor
  · intro h
    rw [← h, flat_eq_ofText]
    exact isFlat_ofText v.leaves
  · intro h
    rw [flat, if_pos h]

/-- The early way out is taken for the values that the long way would not change. -/
lemma isFlat_iff_ofText_leaves {v : Value} : v.isFlat ↔ ofText v.leaves = v := by
  rw [← flat_eq_self_iff, flat_eq_ofText]

lemma ofText_injective : Function.Injective ofText :=
  Function.LeftInverse.injective leaves_ofText

lemma flat_eq_flat_iff {v w : Value} : v.flat = w.flat ↔ v.text = w.text := by
  rw [flat_eq_ofText, flat_eq_ofText, ofText_injective.eq_iff]

lemma flat_flat (v : Value) : v.flat.flat = v.flat := by
  rw [flat_eq_self_iff, flat_eq_ofText]
  exact isFlat_ofText v.leaves

/-- **The flat list of the leaves is a normal form.** The leaves are gathered from left to right
through all lists, and whether or not the early way out is taken, flattening gives the list of them.
It keeps the text, leaves flat values alone and no others, and comes to the same for two values
exactly if their texts are the same. Of a result the value is flattened, and neither the error nor
the rest is touched. -/
theorem flat_normal_form :
    (∀ (acc : Array Char) (v : Value), (v.addLeaves acc).toList = acc.toList ++ v.leaves) ∧
      (∀ c, (char c).leaves = [c]) ∧ (∀ vs, (list vs).leaves = vs.flatMap leaves) ∧
      (∀ v : Value,
        v.flat = .list (v.leaves.map .char) ∧ (v.isFlat ↔ ofText v.leaves = v) ∧
        v.flat.leaves = v.leaves ∧ v.flat.text = v.text ∧ v.flat.flat = v.flat ∧
        (v.flat = v ↔ ∃ vs, v = .list vs ∧ ∀ w ∈ vs, ∃ c, w = .char c) ∧
        v.flat = ofText v.text) ∧
      (∀ t, (ofText t).text = t) ∧
      (∀ v w : Value, v.flat = w.flat ↔ v.text = w.text) ∧
      (∀ (v : Value) (r : Text), (Result.success v r).flatten = .success v.flat r) ∧
      ∀ x : Result, x.flatten.flatten = x.flatten ∧ x.flatten.rest = x.rest ∧
        ∀ e, x.flatten.outcome = .error e ↔ x.outcome = .error e := by
  refine ⟨toList_addLeaves, leaves_char, leaves_list, fun v => ?_, leaves_ofText,
    fun v w => flat_eq_flat_iff, fun _ _ => rfl, fun x => ?_⟩
  · exact ⟨flat_eq_ofText v, isFlat_iff_ofText_leaves, leaves_flat v, leaves_flat v, flat_flat v,
      flat_eq_self_iff.trans isFlat_iff, flat_eq_ofText v⟩
  · exact ⟨Result.flatten_flatten x, Result.rest_map _ x, fun e => Result.map_eq_error⟩

/-- Empty lists leave no trace in the flat form, and a lone character becomes a list. -/
example :
    (list [list [], list [char 'a', list [char 'b', list []]], char 'c']).flat =
        ofText "abc".toList ∧
      (char 'x').flat = ofText "x".toList ∧ (list []).flat = list [] := by
  decide

end Value

end CharGrammar

import Mathlib.Data.List.Infix
import CharGrammar.Grammar.Stock
import CharGrammar.Grammar.Tree
import CharGrammar.Text.Hidden

/-!
What a tree shows of the type of a reader. The name is cut behind its last separator, and the types
in angle brackets have separators of their own. So a type that stands alone is shown by its own
identifier, and one with arguments by the identifier that comes last in them, with the brackets that
close behind it.
-/

namespace CharGrammar

/-! ### The last separator -/

namespace Text

variable {sep s t r : Text}

lemma behindLast?_eq_none_iff (hsep : sep ≠ []) : behindLast? sep s = none ↔ ¬sep <:+: s := by
  induction s with
  | nil => simp [behindLast?, hsep]
  | cons c s ih =>
    rw [behindLast?, Option.or_eq_none_iff, ih, List.infix_cons_iff, not_or, and_comm]
    simp [← List.isPrefixOf_iff_prefix]

/-- What comes in front of the last separator does not matter. -/
lemma behindLast?_append (h : behindLast? sep t = some r) (s : Text) :
    behindLast? sep (s ++ t) = some r := by
  induction s with
  | nil => exact h
  | cons c s ih => rw [List.cons_append, behindLast?, ih, Option.some_or]

/-- A separator is the last one if no other begins inside it or behind it. -/
lemma afterLast_append (hsep : sep ≠ []) (h : ¬sep <:+: sep.tail ++ t) (s : Text) :
    (s ++ (sep ++ t)).afterLast sep = t := by
  obtain ⟨c, u, rfl⟩ := List.exists_cons_of_ne_nil hsep
  have hbegins : (c :: u).isPrefixOf (c :: (u ++ t)) := by
    rw [List.isPrefixOf_iff_prefix]
    exact List.prefix_append (c :: u) t
  have hbehind : behindLast? (c :: u) (c :: u ++ t) = some t := by
    have hno : behindLast? (c :: u) (u ++ t) = none := (behindLast?_eq_none_iff hsep).mpr h
    rw [List.cons_append, behindLast?, hno, if_pos hbegins]
    simp
  rw [afterLast, behindLast?_append hbehind, Option.getD_some]

end Text

/-! ### Type names -/

/-- A name without the characters that hold names together. -/
structure Identifier where
  text : Text
  ne_nil : text ≠ []
  simple : ∀ c ∈ text, c ∉ ":<>, ".toList

/-- The module that a type is in, behind those around it. -/
structure Path where
  outer : List Identifier
  home : Identifier

mutual

/-- A type behind its path, alone or with the types in angle brackets that it is applied to. -/
inductive TypeName where
  | plain (path : Path) (own : Identifier)
  | applied (path : Path) (own : Identifier) (args : TypeNames)

/-- One type name or more, in a row. -/
inductive TypeNames where
  | one (t : TypeName)
  | cons (t : TypeName) (ts : TypeNames)

end

/-- Modules from the outermost one on, with a separator behind each. -/
def Path.text (p : Path) : Text :=
  p.outer.flatMap (fun i => i.text ++ "::".toList) ++ (p.home.text ++ "::".toList)

mutual

def TypeName.text : TypeName → Text
  | .plain path own => path.text ++ own.text
  | .applied path own args => path.text ++ own.text ++ '<' :: args.text ++ ['>']

def TypeNames.text : TypeNames → Text
  | .one t => t.text
  | .cons t ts => t.text ++ ", ".toList ++ ts.text

end

def TypeName.own : TypeName → Identifier
  | .plain _ own | .applied _ own _ => own

mutual

/-- The identifier that comes last in the name. -/
def TypeName.last : TypeName → Identifier
  | .plain _ own => own
  | .applied _ _ args => args.last

def TypeNames.last : TypeNames → Identifier
  | .one t => t.last
  | .cons _ ts => ts.last

end

mutual

/-- The number of brackets that close behind the last identifier. -/
def TypeName.closing : TypeName → Nat
  | .plain _ _ => 0
  | .applied _ _ args => args.closing + 1

def TypeNames.closing : TypeNames → Nat
  | .one t => t.closing
  | .cons _ ts => ts.closing

end

mutual

/-- Behind the last separator there is the last identifier, and then brackets close. -/
lemma TypeName.exists_text_eq : (t : TypeName) → ∃ front, t.text =
    front ++ ("::".toList ++ (t.last.text ++ List.replicate t.closing '>'))
  | .plain path own => by
    refine ⟨path.outer.flatMap (fun i => i.text ++ "::".toList) ++ path.home.text, ?_⟩
    simp [TypeName.text, TypeName.last, TypeName.closing, Path.text]
  | .applied path own args => by
    obtain ⟨front, hargs⟩ := args.exists_text_eq
    refine ⟨path.text ++ own.text ++ '<' :: front, ?_⟩
    simp [TypeName.text, TypeName.last, TypeName.closing, hargs, List.replicate_succ']

lemma TypeNames.exists_text_eq : (ts : TypeNames) → ∃ front, ts.text =
    front ++ ("::".toList ++ (ts.last.text ++ List.replicate ts.closing '>'))
  | .one t => t.exists_text_eq
  | .cons t ts => by
    obtain ⟨front, hlast⟩ := ts.exists_text_eq
    refine ⟨t.text ++ ", ".toList ++ front, ?_⟩
    simp [TypeNames.text, TypeNames.last, TypeNames.closing, hlast]

end

/-! ### What is shown -/

namespace Text

/-- Colons side by side need two of them. -/
lemma not_colons_infix {t : Text} (h : ':' ∉ t) : ¬"::".toList <:+: ':' :: t := by
  intro hinfix
  rcases List.infix_cons_iff.mp hinfix with hbegins | hinside
  · have hnext : [':'] <+: t := (List.cons_prefix_cons.mp hbegins).2
    exact h (hnext.subset List.mem_cons_self)
  · exact h (hinside.subset List.mem_cons_self)

/-- What has no character of `t` in it can begin `s ++ t` only within `s`. -/
lemma prefix_append_iff_of_disjoint {w s t : Text} (hd : w.Disjoint t) :
    w <+: s ++ t ↔ w <+: s := by
  refine ⟨fun h => ?_, List.prefix_append_of_prefix⟩
  rcases List.prefix_or_prefix_of_prefix h (List.prefix_append s t) with hw | ⟨r, rfl⟩
  · exact hw
  · -- what goes beyond `s` begins `t`, so there is nothing of it
    have hr : r <+: t := (List.prefix_append_right_inj s).mp h
    have hnil : r = [] := by
      cases r with
      | nil => rfl
      | cons c r =>
        exact (hd (List.mem_append_right s List.mem_cons_self) (hr.subset List.mem_cons_self)).elim
    rw [hnil, List.append_nil]

end Text

lemma Identifier.notMem_text (i : Identifier) {c : Char} (hc : c ∈ ":<>, ".toList) : c ∉ i.text :=
  fun h => i.simple c h hc

namespace Grammar

lemma shownType_text (t : TypeName) :
    shownType t.text = t.last.text ++ List.replicate t.closing '>' := by
  obtain ⟨front, htext⟩ := t.exists_text_eq
  have hcolon : ':' ∉ t.last.text ++ List.replicate t.closing '>' := by
    refine List.not_mem_append (t.last.notMem_text (by decide)) fun h => ?_
    exact absurd (List.eq_of_mem_replicate h) (by decide)
  rw [shownType, htext]
  exact Text.afterLast_append (by decide) (Text.not_colons_infix hcolon) front

lemma own_prefix_shownType_iff (t : TypeName) :
    t.own.text <+: shownType t.text ↔ t.own.text <+: t.last.text := by
  rw [shownType_text]
  refine Text.prefix_append_iff_of_disjoint fun c hown hbracket => ?_
  obtain rfl := List.eq_of_mem_replicate hbracket
  exact t.own.notMem_text (by decide) hown

/-- **A tree shows the last identifier in the name of a type**, with the brackets that close behind
it. That is the own identifier of a type that stands alone. Of any type the own identifier is in
front exactly if it begins the last one. -/
theorem tree_custom_last (hidden : Char → Bool) (t : TypeName) (p : Grammar) (indent : Text) :
    (custom t.text p).tree hidden indent =
        indent ++ (t.last.text ++ List.replicate t.closing '>') ∧
      (∀ path own, (custom (TypeName.plain path own).text p).tree hidden indent =
        indent ++ own.text) ∧
      (indent ++ t.own.text <+: (custom t.text p).tree hidden indent ↔
        t.own.text <+: t.last.text) := by
  refine ⟨?_, fun path own => ?_, ?_⟩
  · rw [tree, shownType_text]
  · rw [tree, shownType_text, TypeName.closing, List.replicate_zero, List.append_nil]
    rfl
  · rw [tree, List.prefix_append_right_inj, own_prefix_shownType_iff]

/-- The type of `skip`, which has a type with a path of its own for an argument. -/
def skipType : TypeName :=
  .applied ⟨[], ⟨"stock".toList, by decide, by simp⟩⟩ ⟨"Skip".toList, by decide, by simp⟩
    (.one (.plain ⟨[], ⟨"grammar".toList, by decide, by simp⟩⟩
      ⟨"Parser".toList, by decide, by simp⟩))

/-- The tree of `skip` does not begin with its own identifier but shows a part of the argument. -/
theorem skip_not_shown_by_own :
    skip (char 'a') = custom skipType.text (map (Result.map fun _ => .list []) (char 'a')) ∧
      (skip (char 'a')).tree Text.hidden [] = "Parser>".toList ∧
      ¬[] ++ skipType.own.text <+: (skip (char 'a')).tree Text.hidden [] := by
  have htree : (skip (char 'a')).tree Text.hidden [] = "Parser>".toList := by decide
  refine ⟨rfl, htree, ?_⟩
  rw [htree]
  decide

end Grammar

end CharGrammar

import Mathlib.Tactic.Common
import CharGrammar.Grammar.Fold

/-!
The ways to put a row of members together two by two. A grammar folded from a list is one of them,
the one that leans to the left; where the operation is associative they all come to the same.
-/

namespace CharGrammar

/-- A binary tree with members at its leaves. -/
inductive Bracketing (α : Type) where
  | leaf (a : α)
  | node (l r : Bracketing α)

namespace Bracketing

variable {α β : Type}

/-- The members from left to right. -/
def members : Bracketing α → List α
  | leaf a => [a]
  | node l r => l.members ++ r.members

/-- What comes of an operation at every node. -/
def join (op : α → α → α) : Bracketing α → α
  | leaf a => a
  | node l r => op (l.join op) (r.join op)

/-- The same brackets around other members. -/
def map (f : α → β) : Bracketing α → Bracketing β
  | leaf a => leaf (f a)
  | node l r => node (l.map f) (r.map f)

/-- The bracketing that takes the members in one by one. -/
def leftward (a : α) (as : List α) : Bracketing α :=
  as.foldl (fun t b => .node t (.leaf b)) (.leaf a)

lemma members_ne_nil (t : Bracketing α) : t.members ≠ [] := by
  induction t with
  | leaf a => exact List.cons_ne_nil a []
  | node l r ihl ihr => exact List.append_ne_nil_of_left_ne_nil ihl r.members

@[simp] lemma members_map (f : α → β) (t : Bracketing α) :
    (t.map f).members = t.members.map f := by
  induction t with
  | leaf a => rfl
  | node l r ihl ihr => rw [map, members, members, ihl, ihr, List.map_append]

@[simp] lemma members_leftward (a : α) (as : List α) : (leftward a as).members = a :: as := by
  have h (t : Bracketing α) :
      (as.foldl (fun t b => .node t (.leaf b)) t).members = t.members ++ as := by
    induction as generalizing t with
    | nil => simp
    | cons b as ih => rw [List.foldl_cons, ih]; simp [members]
  exact h (.leaf a)

lemma join_leftward (op : α → α → α) (a : α) (as : List α) :
    (leftward a as).join op = as.foldl op a := by
  have h (t : Bracketing α) :
      (as.foldl (fun t b => .node t (.leaf b)) t).join op = as.foldl op (t.join op) := by
    induction as generalizing t with
    | nil => rfl
    | cons b as ih => rw [List.foldl_cons, ih]; rfl
  exact h (.leaf a)

/-- An associative operation does not see the brackets. -/
lemma join_eq_foldl {op : α → α → α} [Std.Associative op] {t : Bracketing α} {a : α} {as : List α}
    (h : t.members = a :: as) : t.join op = as.foldl op a := by
  induction t generalizing a as with
  | leaf b =>
    obtain ⟨rfl, rfl⟩ := List.cons.inj h
    rfl
  | node l r ihl ihr =>
    obtain ⟨b, bs, hl⟩ := List.exists_cons_of_ne_nil l.members_ne_nil
    obtain ⟨c, cs, hr⟩ := List.exists_cons_of_ne_nil r.members_ne_nil
    rw [members, hl, hr, List.cons_append] at h
    obtain ⟨rfl, rfl⟩ := List.cons.inj h
    rw [join, ihl hl, ihr hr, List.foldl_append, List.foldl_cons, List.foldl_assoc]

end Bracketing

namespace Grammar

lemma choice_cons (p : Grammar) (ps : List Grammar) :
    choice (p :: ps) = .ok ((Bracketing.leftward p ps).join alt) := by
  rw [choice, Bracketing.join_leftward]

lemma sequence_cons (p : Grammar) (ps : List Grammar) :
    sequence (p :: ps) = .ok ((Bracketing.leftward p ps).join seq) := by
  rw [sequence, Bracketing.join_leftward]

end Grammar

end CharGrammar

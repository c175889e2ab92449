import Mathlib.Data.List.Nodup
import CharGrammar.Proofs.LastRecord

/-!
No node runs twice. A reading goes through the grammar from left to right and leaves parts out, but
it comes back to nothing: what it records is a part, in order, of one list that is written down
without any text.
-/

namespace CharGrammar.Grammar

/-! ### What there is to record -/

/-- The grammar itself and all grammars in it, each before its parts. -/
def nodes : Grammar → List Grammar
  | char c => [char c]
  | closure f => [closure f]
  | call name => [call name]
  | custom typeName p => custom typeName p :: p.nodes
  | probe id p => probe id p :: p.nodes
  | seq a b => seq a b :: (a.nodes ++ b.nodes)
  | alt a b => alt a b :: (a.nodes ++ b.nodes)
  | map f p => map f p :: p.nodes
  | label l p => label l p :: p.nodes

/-- The operations from left to right: those of a character are its beginning and its end, and
that of a choice stands between its sides. -/
def operations : Grammar → List Trace.Operation
  | char c => [.char c, .char c]
  | closure _ | call _ => []
  | custom _ p | probe _ p | map _ p => p.operations
  | seq a b => a.operations ++ b.operations
  | alt a b => a.operations ++ .fallback :: b.operations
  | label l p => .label l :: p.operations

/-- What can be recorded of a node: an operation, and whether it has an outcome. -/
structure Slot where
  node : Address
  operation : Trace.Operation
  closes : Bool

def Slot.below (i : Nat) (t : Slot) : Slot := { t with node := i :: t.node }

def Emission.slot (m : Emission) : Slot := ⟨m.node, m.operation, m.outcome.isSome⟩

/-- The operations with the nodes that they are of. -/
def slots : Grammar → List Slot
  | char c => [⟨[], .char c, false⟩, ⟨[], .char c, true⟩]
  | closure _ | call _ => []
  | custom _ p | probe _ p | map _ p => p.slots.map (Slot.below 0)
  | seq a b => a.slots.map (Slot.below 0) ++ b.slots.map (Slot.below 1)
  | alt a b => a.slots.map (Slot.below 0) ++ ⟨[], .fallback, true⟩ :: b.slots.map (Slot.below 1)
  | label l p => ⟨[], .label l, false⟩ :: p.slots.map (Slot.below 0)

lemma map_slot_below (i : Nat) (ms : List Emission) :
    (ms.map (Emission.below i)).map Emission.slot = (ms.map Emission.slot).map (Slot.below i) := by
  simp only [List.map_map]
  rfl

lemma map_operation_below (i : Nat) (ts : List Slot) :
    (ts.map (Slot.below i)).map Slot.operation = ts.map Slot.operation := by
  rw [List.map_map]
  rfl

lemma map_operation_slots (g : Grammar) : g.slots.map Slot.operation = g.operations := by
  induction g with
  | char c => rfl
  | closure f => rfl
  | call name => rfl
  | custom typeName p ih => rw [slots, map_operation_below, ih, operations]
  | probe id p ih => rw [slots, map_operation_below, ih, operations]
  | seq a b iha ihb =>
    rw [slots, List.map_append, map_operation_below, map_operation_below, iha, ihb, operations]
  | alt a b iha ihb =>
    rw [slots, List.map_append, List.map_cons, map_operation_below, map_operation_below, iha, ihb,
      operations]
  | map f p ih => rw [slots, map_operation_below, ih, operations]
  | label l p ih => rw [slots, List.map_cons, map_operation_below, ih, operations]

/-- Two for each character, and one for each choice and each label. -/
lemma length_operations (g : Grammar) :
    g.operations.length =
      2 * g.nodes.countP (· matches .char _) + g.nodes.countP (· matches .alt _ _) +
        g.nodes.countP (· matches .label _ _) := by
  induction g with
  | char c => rfl
  | closure f => rfl
  | call name => rfl
  | custom typeName p ih => exact ih
  | probe id p ih => exact ih
  | seq a b iha ihb =>
    simp only [operations, List.length_append, iha, ihb, nodes, Bool.false_eq_true,
      not_false_eq_true, List.countP_cons_of_neg, List.countP_append]
    omega
  | alt a b iha ihb =>
    simp only [operations, List.length_append, List.length_cons, iha, ihb, nodes,
      Bool.false_eq_true, not_false_eq_true, List.countP_cons_of_neg, List.countP_append,
      List.countP_cons_of_pos]
    omega
  | map f p ih => exact ih
  | label l p ih =>
    simp only [operations, List.length_cons, ih, nodes, Bool.false_eq_true, not_false_eq_true,
      List.countP_cons_of_neg, List.countP_cons_of_pos]
    omega

/-! ### Each slot is filled once at most -/

lemma Slot.below_injective (i : Nat) : Function.Injective (Slot.below i) := by
  rintro ⟨p, op, k⟩ ⟨p', op', k'⟩ h
  simpa [Slot.below] using h

lemma nodup_map_below {ts : List Slot} (h : ts.Nodup) (i : Nat) :
    (ts.map (Slot.below i)).Nodup :=
  h.map (Slot.below_injective i)

/-- None of the slots below the root is the root's. -/
lemma root_notMem_map_below (op : Trace.Operation) (k : Bool) (i : Nat) (ts : List Slot) :
    ⟨[], op, k⟩ ∉ ts.map (Slot.below i) := by
  intro h
  obtain ⟨t, -, ht⟩ := List.mem_map.mp h
  simp [Slot.below] at ht

lemma disjoint_map_below (ts us : List Slot) :
    List.Disjoint (ts.map (Slot.below 0)) (us.map (Slot.below 1)) := by
  intro t ht hu
  obtain ⟨a, -, rfl⟩ := List.mem_map.mp ht
  obtain ⟨b, -, hb⟩ := List.mem_map.mp hu
  simp [Slot.below] at hb

lemma nodup_slots (g : Grammar) : g.slots.Nodup := by
  induction g with
  | char c => simp [slots]
  | closure f => exact List.nodup_nil
  | call name => exact List.nodup_nil
  | custom typeName p ih => exact nodup_map_below ih 0
  | probe id p ih => exact nodup_map_below ih 0
  | seq a b iha ihb =>
    exact (nodup_map_below iha 0).append (nodup_map_below ihb 1) (disjoint_map_below _ _)
  | alt a b iha ihb =>
    have hb : (⟨[], .fallback, true⟩ :: b.slots.map (Slot.below 1)).Nodup :=
      List.nodup_cons.mpr ⟨root_notMem_map_below _ _ 1 _, nodup_map_below ihb 1⟩
    refine (nodup_map_below iha 0).append hb ?_
    rw [List.disjoint_cons_right]
    exact ⟨root_notMem_map_below _ _ 0 _, disjoint_map_below _ _⟩
  | map f p ih => exact nodup_map_below ih 0
  | label l p ih =>
    exact List.nodup_cons.mpr ⟨root_notMem_map_below _ _ 0 _, nodup_map_below ih 0⟩

lemma sublist_below {ms : List Emission} {ts : List Slot}
    (h : (ms.map Emission.slot).Sublist ts) (i : Nat) :
    ((ms.map (Emission.below i)).map Emission.slot).Sublist (ts.map (Slot.below i)) := by
  rw [map_slot_below]
  exact h.map _

/-- Alternatives that are not tried and sequences that stop leave slots out, and nothing else
happens to the list. -/
lemma slots_emissions_sublist (g : Grammar) (s : Text) :
    ((g.emissions s).map Emission.slot).Sublist g.slots := by
  induction g generalizing s with
  | char c =>
    obtain ⟨t, o, he, -⟩ := emissions_char c s
    rw [he]
    exact List.Sublist.refl _
  | closure f => exact List.nil_sublist _
  | call name => exact List.nil_sublist _
  | custom typeName p ih => exact sublist_below (ih s) 0
  | probe id p ih => exact sublist_below (ih s) 0
  | seq a b iha ihb =>
    rw [emissions, slots, List.map_append]
    refine (sublist_below (iha s) 0).append ?_
    split
    · exact List.nil_sublist _
    · exact sublist_below (ihb _) 1
  | alt a b iha ihb =>
    rw [emissions, slots, List.map_append]
    refine (sublist_below (iha s) 0).append ?_
    split
    · exact (sublist_below (ihb s) 1).cons_cons _
    · exact List.nil_sublist _
  | map f p ih => exact sublist_below (ih s) 0
  | label l p ih => exact (sublist_below (ih s) 0).cons_cons _

/-- **No node runs twice.** The operations of the records are a part, in order, of those of the
grammar, so their number has a bound that does not know the text. Seen with its node every record
fills a slot of its own. -/
theorem records_sublist_operations (g : Grammar) (l s : Text) :
    ((g.runUnder l s).records.map Trace.Record.operation).Sublist g.operations ∧
      (g.runUnder l s).records.length ≤
        2 * g.nodes.countP (· matches .char _) + g.nodes.countP (· matches .alt _ _) +
          g.nodes.countP (· matches .label _ _) ∧
      (g.runUnder l s).records = (g.emissions s).map (g.recordOf l) ∧
      ((g.emissions s).map Emission.slot).Sublist g.slots ∧ g.slots.Nodup := by
  have hsub : ((g.runUnder l s).records.map Trace.Record.operation).Sublist g.operations := by
    have hops : ((g.emissions s).map (g.recordOf l)).map Trace.Record.operation =
        ((g.emissions s).map Emission.slot).map Slot.operation := by
      rw [List.map_map, List.map_map]
      rfl
    rw [records_runUnder, hops, ← map_operation_slots]
    exact (slots_emissions_sublist g s).map _
  have hlen : (g.runUnder l s).records.length ≤ g.operations.length := by
    simpa using hsub.length_le
  exact ⟨hsub, hlen.trans_eq (length_operations g), records_runUnder g l s,
    slots_emissions_sublist g s, nodup_slots g⟩

/-- The bound is met where every part is tried. -/
example :
    let g := label "sign".toList (alt (char '+') (char '-'))
    (g.runUnder [] "1".toList).records.map Trace.Record.operation = g.operations := by
  decide

end CharGrammar.Grammar

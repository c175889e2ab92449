import Mathlib.Data.List.Infix
import CharGrammar.Proofs.Stateless

/-!
Labels hold where they stand in the grammar. While a text is read the label in force is set and
put back, through errors and alternatives that are given up. What comes of it is lexical scope:
each record has the innermost label around the node that makes it. Neither the label at the start
nor the keeping of records has an influence on the result.
-/

namespace CharGrammar.Grammar

/-! ### Nodes and scopes -/

/-- The way from the root down to a node: the number of the part to take, at each node passed. -/
abbrev Address := List Nat

/-- The grammars right below the root. -/
def parts : Grammar → List Grammar
  | char _ | closure _ | call _ => []
  | custom _ p | probe _ p | map _ p | label _ p => [p]
  | seq a b | alt a b => [a, b]

def node? (g : Grammar) : Address → Option Grammar
  | [] => some g
  | i :: p => g.parts[i]?.bind (·.node? p)

def ownLabel? : Grammar → Option Text
  | label l _ => some l
  | char _ | closure _ | call _ | custom _ _ | probe _ _ | seq _ _ | alt _ _ | map _ _ => none

/-- The labels from the root down to the node at `p`, its own one included. -/
def labelsTo (g : Grammar) (p : Address) : List Text :=
  p.inits.filterMap fun q => (g.node? q).bind ownLabel?

/-- The innermost label on the way down to `p`, or `l` if there is none. -/
def scope (g : Grammar) (l : Text) (p : Address) : Text := (g.labelsTo p).getLast?.getD l

lemma labelsTo_nil (g : Grammar) : g.labelsTo [] = g.ownLabel?.toList := by
  cases h : g.ownLabel? <;> simp [labelsTo, node?, h]

lemma labelsTo_cons {g q : Grammar} {i : Nat} (h : g.parts[i]? = some q) (p : Address) :
    g.labelsTo (i :: p) = g.ownLabel?.toList ++ q.labelsTo p := by
  cases hl : g.ownLabel? <;> simp [labelsTo, node?, h, hl, List.filterMap_map]

@[simp] lemma scope_nil (g : Grammar) (l : Text) : g.scope l [] = g.ownLabel?.getD l := by
  rw [scope, labelsTo_nil]
  cases g.ownLabel? <;> rfl

/-- For everything below it the root is what the surroundings are for the root. -/
lemma scope_cons {g q : Grammar} {i : Nat} (h : g.parts[i]? = some q) (l : Text) (p : Address) :
    g.scope l (i :: p) = q.scope (g.ownLabel?.getD l) p := by
  rw [scope, labelsTo_cons h, List.getLast?_append, scope]
  cases (q.labelsTo p).getLast? with
  | none => cases g.ownLabel? <;> rfl
  | some k => rfl

/-! ### Records without labels -/

/-- A record before it has a label, with the node that makes it. -/
structure Emission where
  node : Address
  text : Text
  operation : Trace.Operation
  outcome : Option Trace.StepOutcome

/-- The emission of part `i`, seen from the grammar it is a part of. -/
def Emission.below (i : Nat) (m : Emission) : Emission := { m with node := i :: m.node }

/-- The record of an emission of `g`, with `l` as the label around `g`. -/
def recordOf (g : Grammar) (l : Text) (m : Emission) : Trace.Record :=
  ⟨m.text, g.scope l m.node, m.operation, m.outcome⟩

/-- What the nodes of a grammar emit while it reads a text. No label comes into it. -/
def emissions : Grammar → Text → List Emission
  | char c, [] => [⟨[], [], .char c, none⟩, ⟨[], [], .char c, some (.failed .emptyInput)⟩]
  | char c, d :: r =>
    [⟨[], d :: r, .char c, none⟩,
      if d = c then ⟨[], r, .char c, some (.matched d)⟩
      else ⟨[], d :: r, .char c, some (.failed (.mismatch c d))⟩]
  | closure _, _ | call _, _ => []
  | custom _ p, s | probe _ p, s | map _ p, s => (p.emissions s).map (Emission.below 0)
  | seq a b, s =>
    (a.emissions s).map (Emission.below 0) ++
      match (a.parse s).taken with
      | .error _ => []
      | .ok (_, r) => (b.emissions r).map (Emission.below 1)
  | alt a b, s =>
    (a.emissions s).map (Emission.below 0) ++
      match (a.parse s).outcome with
      | .error e =>
        ⟨[], s, .fallback, some (.failed e)⟩ :: (b.emissions s).map (Emission.below 1)
      | .ok _ => []
  | label l p, s => ⟨[], s, .label l, none⟩ :: (p.emissions s).map (Emission.below 0)

/-- What a node of this kind makes records of, if of anything. -/
def ownOperation? : Grammar → Option Trace.Operation
  | char c => some (.char c)
  | alt _ _ => some .fallback
  | label l _ => some (.label l)
  | closure _ | call _ | custom _ _ | probe _ _ | seq _ _ | map _ _ => none

/-- The operation is that of the node in `g` that the emission names. -/
def Emission.Of (g : Grammar) (m : Emission) : Prop :=
  (g.node? m.node).bind ownOperation? = some m.operation

section

variable {g q : Grammar} {i : Nat} (h : g.parts[i]? = some q)
include h

lemma map_recordOf_below (l : Text) (ms : List Emission) :
    (ms.map (Emission.below i)).map (g.recordOf l) =
      ms.map (q.recordOf (g.ownLabel?.getD l)) := by
  rw [List.map_map]
  refine List.map_congr_left fun m _ => ?_
  simp [recordOf, Emission.below, scope_cons h]

lemma forall_of_below {ms : List Emission} (hq : ∀ m ∈ ms, m.Of q) :
    ∀ m ∈ ms.map (Emission.below i), m.Of g := by
  rw [List.forall_mem_map]
  intro m hm
  simpa [Emission.Of, Emission.below, node?, h] using hq m hm

end

/-- Every emission is of the node that it names. -/
lemma of_emissions (g : Grammar) (s : Text) : ∀ m ∈ g.emissions s, m.Of g := by
  induction g generalizing s with
  | char c =>
    have hc (t : Text) (o : Option Trace.StepOutcome) :
        Emission.Of (char c) ⟨[], t, .char c, o⟩ := rfl
    cases s with
    | nil => simp [emissions, hc]
    | cons d r => by_cases hd : d = c <;> simp [emissions, hc, hd]
  | closure f => exact List.forall_mem_nil _
  | call name => exact List.forall_mem_nil _
  | custom typeName p ih => exact forall_of_below rfl (ih s)
  | probe id p ih => exact forall_of_below rfl (ih s)
  | seq a b iha ihb =>
    refine List.forall_mem_append.mpr ⟨forall_of_below rfl (iha s), ?_⟩
    split
    · exact List.forall_mem_nil _
    · exact forall_of_below rfl (ihb _)
  | alt a b iha ihb =>
    refine List.forall_mem_append.mpr ⟨forall_of_below rfl (iha s), ?_⟩
    split
    · exact List.forall_mem_cons.mpr ⟨rfl, forall_of_below rfl (ihb s)⟩
    · exact List.forall_mem_nil _
  | map f p ih => exact forall_of_below rfl (ih s)
  | label l p ih => exact List.forall_mem_cons.mpr ⟨rfl, forall_of_below rfl (ih s)⟩

/-- Setting a label and putting the old one back gives each record the label of its scope. -/
lemma steps_eq_map_emissions (g : Grammar) (l s : Text) :
    g.steps l s = (g.emissions s).map (g.recordOf l) := by
  induction g generalizing l s with
  | char c =>
    cases s with
    | nil => simp [steps, emissions, recordOf, ownLabel?]
    | cons d r => by_cases h : d = c <;> simp [steps, emissions, recordOf, ownLabel?, h]
  | closure f => rfl
  | call name => rfl
  | custom typeName p ih =>
    rw [steps, emissions, map_recordOf_below rfl]
    exact ih l s
  | probe id p ih =>
    rw [steps, emissions, map_recordOf_below rfl]
    exact ih l s
  | seq a b iha ihb =>
    rw [steps, emissions, List.map_append, map_recordOf_below rfl, iha]
    refine congrArg _ ?_
    cases a.parse s using Result.byOutcome with
    | error e r => rfl
    | success v r =>
      simp only [Result.taken_success]
      rw [map_recordOf_below rfl]
      exact ihb l r
  | alt a b iha ihb =>
    rw [steps, emissions, List.map_append, map_recordOf_below rfl, iha]
    refine congrArg _ ?_
    cases a.parse s using Result.byOutcome with
    | error e r =>
      simp only [List.map_cons]
      rw [map_recordOf_below rfl, ihb]
      simp [recordOf, ownLabel?]
    | success v r => rfl
  | map f p ih =>
    rw [steps, emissions, map_recordOf_below rfl]
    exact ih l s
  | label k p ih =>
    -- below the label the label around the whole grammar is out of sight
    rw [steps, emissions, List.map_cons, map_recordOf_below rfl, ih]
    simp [recordOf, ownLabel?]

lemma records_runUnder (g : Grammar) (l s : Text) :
    (g.runUnder l s).records = (g.emissions s).map (g.recordOf l) := by
  rw [runUnder_eq, steps_eq_map_emissions]

/-- **The label in force is lexically scoped.** After a reading, failed or not, it is the one from
before. The result is the same from every journal, whatever label is in force and whether or not
records are kept. The new records are the emissions of the nodes, each of its own node and under
the innermost label around it, or the label in force at the start if there is none. -/
theorem read_lexically_scoped (g : Grammar) (s : Text) (j : Journal) :
    (g.read undefinedName s j).2.label = j.label ∧
      (∀ k : Journal, (g.read undefinedName s k).1 = (g.read undefinedName s j).1) ∧
      (g.read undefinedName s j).2.records.toList =
        j.records.toList ++ (if j.tracing then (g.emissions s).map (g.recordOf j.label) else []) ∧
      ∀ m ∈ g.emissions s, m.Of g := by
  refine ⟨?_, fun k => read_fst_eq g s k j, ?_, of_emissions g s⟩
  · rw [read_eq, Journal.label_extend]
  · rw [read_eq, steps_eq_map_emissions]
    cases h : j.tracing <;> simp [Journal.extend, h]

/-- The outer label is back behind the inner one, also where the inner reading has failed. -/
example :
    let g := label "outer".toList (alt (label "inner".toList (char 'a')) (char 'b'))
    (g.run [] true "b".toList).records.map Trace.Record.label =
      ["outer", "inner", "inner", "inner", "outer", "outer", "outer"].map String.toList := by
  decide

end CharGrammar.Grammar

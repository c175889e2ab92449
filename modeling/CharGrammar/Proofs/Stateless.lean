import Mathlib.Tactic.Common
import CharGrammar.Definitions
import CharGrammar.Proofs.ResultAlgebra

/-!
A reading without its journal.

The result of a reading depends on the text alone. What it notes depends on the text and on the
label in force when it begins: the journal grows by the steps and the watched calls that are
defined here without any journal, and its label is put back.
-/

namespace CharGrammar

/-! ### Journals that grow -/

namespace Journal

/-- The journal after these records, which are kept only while tracing, and these calls. -/
def extend (j : Journal) (rs : List Trace.Record) (cs : List Call) : Journal :=
  { j with
    records := if j.tracing then j.records ++ rs.toArray else j.records
    calls := j.calls ++ cs.toArray }

variable (j : Journal)

@[simp] lemma label_extend (rs : List Trace.Record) (cs : List Call) :
    (j.extend rs cs).label = j.label := rfl

@[simp] lemma extend_nil : j.extend [] [] = j := by simp [extend]

@[simp] lemma extend_extend (rs rs' : List Trace.Record) (cs cs' : List Call) :
    (j.extend rs cs).extend rs' cs' = j.extend (rs ++ rs') (cs ++ cs') := by
  by_cases h : j.tracing <;> simp [extend, h]

lemma note_eq_extend (s : Text) (op : Trace.Operation) (o : Option Trace.StepOutcome) :
    j.note s op o = j.extend [⟨s, j.label, op, o⟩] [] := by
  unfold note extend
  split <;> simp

lemma addCall_eq_extend (id s : Text) : j.addCall id s = j.extend [] [⟨id, s⟩] := by
  simp [addCall, extend]

@[simp] lemma label_setLabel (l : Text) : (j.setLabel l).label = l := rfl

/-- A label that is put back leaves no mark on the journal. -/
lemma extend_setLabel (l : Text) (rs : List Trace.Record) (cs : List Call) :
    ((j.setLabel l).extend rs cs).setLabel j.label = j.extend rs cs := rfl

end Journal

namespace Grammar

/-! ### Results -/

lemma readSeq_eq (a b : Reader) (s : Text) (j : Journal) :
    readSeq a b s j =
      match (a s j).1.taken with
      | .error e => (.failure e, (a s j).2)
      | .ok (v, r) => ((b r (a s j).2).1.pairWith v, (b r (a s j).2).2) := by
  unfold readSeq
  rcases a s j with ⟨⟨e | v, r⟩, k⟩
  · rfl
  · simp only [Result.taken, Except.map]
    rcases b r k with ⟨⟨e | w, t⟩, i⟩ <;> rfl

lemma readAlt_eq (a b : Reader) (s : Text) (j : Journal) :
    readAlt a b s j =
      match (a s j).1.outcome with
      | .error e => b s ((a s j).2.note s .fallback (some (.failed e)))
      | .ok _ => a s j := by
  unfold readAlt
  rcases a s j with ⟨⟨e | v, r⟩, k⟩ <;> rfl

/-- Where no name is defined, every call fails and notes nothing. -/
def undefinedName (name : Text) : Reader := fun _ j =>
  (.failure (.described ("undefined ".toList ++ name)), j)

lemma reader_nil (s : Text) :
    Definitions.reader [] (Definitions.depthBound [] s) = undefinedName := by
  funext name
  simp [Definitions.depthBound]
  rfl

/-- The journal has no influence on the result. -/
lemma read_fst_eq (g : Grammar) (s : Text) (j k : Journal) :
    (g.read undefinedName s j).1 = (g.read undefinedName s k).1 := by
  induction g generalizing s j k with
  | char c =>
    cases s with
    | nil => rfl
    | cons d r => simp only [read, readChar]; by_cases h : d = c <;> simp [h]
  | closure f => rfl
  | call name => rfl
  | custom typeName p ih => exact ih s j k
  | probe id p ih => exact ih s _ _
  | seq a b iha ihb =>
    simp only [read, readSeq_eq]
    rw [iha s j k]
    split
    · rfl
    · next v r _ => exact congrArg (Result.pairWith v) (ihb r _ _)
  | alt a b iha ihb =>
    simp only [read, readAlt_eq]
    rw [iha s j k]
    split
    · exact ihb s _ _
    · exact iha s j k
  | map f p ih => exact congrArg f (ih s j k)
  | label l p ih => exact ih s _ _

lemma parse_eq_read (g : Grammar) (s : Text) (j : Journal) :
    g.parse s = (g.read undefinedName s j).1 := by
  rw [← read_fst_eq g s (.blank false) j, ← reader_nil s]
  rfl

section

variable (a b p : Grammar) (s : Text)

@[simp] lemma parse_char_nil (c : Char) : (char c).parse [] = .failure .emptyInput := rfl

@[simp] lemma parse_char_cons (c d : Char) (r : Text) :
    (char c).parse (d :: r) =
      if d = c then .success (.char d) r else .failure (.mismatch c d) := by
  rw [parse_eq_read _ _ (.blank false), read, readChar]
  by_cases h : d = c <;> simp [h]

@[simp] lemma parse_closure (f : Text → Result) : (closure f).parse s = f s := rfl

@[simp] lemma parse_call (name : Text) :
    (call name).parse s = .failure (.described ("undefined ".toList ++ name)) := by
  rw [parse_eq_read _ _ (.blank false)]
  rfl

@[simp] lemma parse_custom (typeName : Text) : (custom typeName p).parse s = p.parse s := rfl

@[simp] lemma parse_probe (id : Text) : (probe id p).parse s = p.parse s := by
  rw [parse_eq_read p s (.addCall (.blank false) id s), parse_eq_read _ s (.blank false)]
  rfl

@[simp] lemma parse_seq : (seq a b).parse s = (a.parse s).andThen b.parse := by
  rw [parse_eq_read _ s (.blank false), read, readSeq_eq, ← parse_eq_read a s]
  cases a.parse s using Result.byOutcome with
  | error e r => rfl
  | success v r => exact congrArg (Result.pairWith v) (parse_eq_read b r _).symm

@[simp] lemma parse_alt : (alt a b).parse s = (a.parse s).orElse (b.parse s) := by
  rw [parse_eq_read _ s (.blank false), read, readAlt_eq, ← parse_eq_read a s]
  cases h : a.parse s using Result.byOutcome with
  | error e r => exact (parse_eq_read b s _).symm
  | success v r => exact (parse_eq_read a s _).symm.trans h

@[simp] lemma parse_map (f : Result → Result) : (map f p).parse s = f (p.parse s) := rfl

@[simp] lemma parse_label (l : Text) : (label l p).parse s = p.parse s := by
  rw [parse_eq_read p s (((Journal.blank false).setLabel l).note s (.label l) none),
    parse_eq_read _ s (.blank false)]
  rfl

end

section

variable {a b : Grammar} {s r t : Text} {u v w : Value} {e : ReadError}

lemma parse_seq_eq_success :
    (seq a b).parse s = .success v r ↔
      ∃ u t, a.parse s = .success u t ∧ ∃ w, b.parse t = .success w r ∧ v = .list [u, w] := by
  rw [parse_seq, Result.andThen_eq_success]

lemma parse_seq_eq_error :
    ((seq a b).parse s).outcome = .error e ↔
      (a.parse s).outcome = .error e ∨
        ∃ u t, a.parse s = .success u t ∧ (b.parse t).outcome = .error e := by
  rw [parse_seq, Result.andThen_eq_error]

lemma parse_seq_of_success (ha : a.parse s = .success u t) (hb : b.parse t = .success w r) :
    (seq a b).parse s = .success (.list [u, w]) r :=
  parse_seq_eq_success.mpr ⟨u, t, ha, w, hb, rfl⟩

lemma parse_alt_eq_success :
    (alt a b).parse s = .success v r ↔
      a.parse s = .success v r ∨
        (∃ e, (a.parse s).outcome = .error e) ∧ b.parse s = .success v r := by
  rw [parse_alt, Result.orElse_eq_success]

lemma parse_alt_eq_error :
    ((alt a b).parse s).outcome = .error e ↔
      (∃ d, (a.parse s).outcome = .error d) ∧ (b.parse s).outcome = .error e := by
  rw [parse_alt, Result.orElse_eq_error]

lemma parse_alt_of_success (ha : a.parse s = .success v r) :
    (alt a b).parse s = .success v r :=
  parse_alt_eq_success.mpr (Or.inl ha)

lemma parse_alt_of_error (ha : (a.parse s).outcome = .error e) :
    (alt a b).parse s = b.parse s := by
  rw [parse_alt, Result.orElse_of_error ha]

lemma parse_map_eq_success {h : Value → Value} :
    (map (Result.map h) a).parse s = .success v r ↔ ∃ w, a.parse s = .success w r ∧ h w = v := by
  rw [parse_map, Result.map_eq_success]

lemma parse_map_eq_error {h : Value → Value} :
    ((map (Result.map h) a).parse s).outcome = .error e ↔ (a.parse s).outcome = .error e := by
  rw [parse_map, Result.map_eq_error]

lemma parse_map_of_success {h : Value → Value} (ha : a.parse s = .success w r) :
    (map (Result.map h) a).parse s = .success (h w) r :=
  parse_map_eq_success.mpr ⟨w, ha, rfl⟩

end

/-! ### Steps and calls -/

/-- The records of a reading that begins under the label `l`. -/
def steps : Grammar → Text → Text → List Trace.Record
  | char c, l, [] =>
    [⟨[], l, .char c, none⟩, ⟨[], l, .char c, some (.failed .emptyInput)⟩]
  | char c, l, d :: r =>
    [⟨d :: r, l, .char c, none⟩,
      if d = c then ⟨r, l, .char c, some (.matched d)⟩
      else ⟨d :: r, l, .char c, some (.failed (.mismatch c d))⟩]
  | closure _, _, _ => []
  | call _, _, _ => []
  | custom _ p, l, s => p.steps l s
  | probe _ p, l, s => p.steps l s
  | seq a b, l, s =>
    a.steps l s ++
      match (a.parse s).taken with
      | .error _ => []
      | .ok (_, r) => b.steps l r
  | alt a b, l, s =>
    a.steps l s ++
      match (a.parse s).outcome with
      | .error e => ⟨s, l, .fallback, some (.failed e)⟩ :: b.steps l s
      | .ok _ => []
  | map _ p, l, s => p.steps l s
  | label l p, _, s => ⟨s, l, .label l, none⟩ :: p.steps l s

/-- The watched calls of a reading, each before those that are made inside it. -/
def watched : Grammar → Text → List Call
  | char _, _ => []
  | closure _, _ => []
  | call _, _ => []
  | custom _ p, s => p.watched s
  | probe id p, s => ⟨id, s⟩ :: p.watched s
  | seq a b, s =>
    a.watched s ++
      match (a.parse s).taken with
      | .error _ => []
      | .ok (_, r) => b.watched r
  | alt a b, s =>
    a.watched s ++
      match (a.parse s).outcome with
      | .error _ => b.watched s
      | .ok _ => []
  | map _ p, s => p.watched s
  | label _ p, s => p.watched s

/-- **A reading without its journal**: the result is that of the text, and the journal grows by
the steps under its label and by the watched calls. -/
theorem read_eq (g : Grammar) (s : Text) (j : Journal) :
    g.read undefinedName s j = (g.parse s, j.extend (g.steps j.label s) (g.watched s)) := by
  refine Prod.ext (parse_eq_read g s j).symm ?_
  induction g generalizing s j with
  | char c =>
    cases s with
    | nil => simp [read, readChar, steps, watched, Journal.note_eq_extend]
    | cons d r =>
      by_cases h : d = c <;> simp [read, readChar, steps, watched, Journal.note_eq_extend, h]
  | closure f => simp [read, steps, watched]
  | call name => simp [read, undefinedName, steps, watched]
  | custom typeName p ih => exact ih s j
  | probe id p ih => simp [read, steps, watched, ih, Journal.addCall_eq_extend]
  | seq a b iha ihb =>
    simp only [read, readSeq_eq, ← parse_eq_read, steps, watched]
    cases h : a.parse s using Result.byOutcome with
    | error e r => simp [iha]
    | success v r => simp [iha, ihb]
  | alt a b iha ihb =>
    simp only [read, readAlt_eq, ← parse_eq_read, steps, watched]
    cases h : a.parse s using Result.byOutcome with
    | error e r => simp [iha, ihb, Journal.note_eq_extend]
    | success v r => simp [iha]
  | map f p ih => exact ih s j
  | label l p ih =>
    simp [read, readLabel, steps, watched, ih, Journal.note_eq_extend, Journal.extend_setLabel]

/-- What a reading from a blank journal shows. -/
theorem run_eq (g : Grammar) (tracing : Bool) (s : Text) :
    g.run [] tracing s =
      ⟨g.parse s, if tracing then g.steps [] s else [], g.watched s⟩ := by
  unfold run
  rw [reader_nil, read_eq]
  cases tracing <;> simp [Journal.extend, Journal.blank]

/-- The same with records, and with a label in force from the start. -/
def runUnder (g : Grammar) (l s : Text) : Reading :=
  let (r, j) := g.read undefinedName s ((Journal.blank true).setLabel l)
  ⟨r, j.records.toList, j.calls.toList⟩

theorem runUnder_eq (g : Grammar) (l s : Text) :
    g.runUnder l s = ⟨g.parse s, g.steps l s, g.watched s⟩ := by
  unfold runUnder
  rw [read_eq]
  simp [Journal.extend, Journal.blank, Journal.setLabel]

lemma runUnder_nil (g : Grammar) (s : Text) : g.runUnder [] s = g.run [] true s := by
  rw [runUnder_eq, run_eq, if_pos rfl]

end Grammar

end CharGrammar

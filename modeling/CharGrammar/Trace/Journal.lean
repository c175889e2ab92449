import CharGrammar.Trace.Record

/-!
What a reading keeps beside its result: the label in force, the records of its steps, and the
calls of watched readers. Records are kept only while tracing.
-/

namespace CharGrammar

/-- A call of the reader watched under `id`, on `text`. -/
structure Call where
  id : Text
  text : Text
deriving DecidableEq

structure Journal where
  tracing : Bool
  label : Text
  records : Array Trace.Record
  calls : Array Call

namespace Journal

/-- Nothing has happened, and no label is in force. -/
def blank (tracing : Bool) : Journal := ⟨tracing, [], #[], #[]⟩

/-- Records a step over `s` under the label in force. -/
def note (j : Journal) (s : Text) (op : Trace.Operation) (o : Option Trace.StepOutcome) :
    Journal :=
  if j.tracing then { j with records := j.records.push ⟨s, j.label, op, o⟩ } else j

def setLabel (j : Journal) (l : Text) : Journal := { j with label := l }

def addCall (j : Journal) (id s : Text) : Journal := { j with calls := j.calls.push ⟨id, s⟩ }

@[simp] theorem label_note (j : Journal) (s : Text) (op : Trace.Operation)
    (o : Option Trace.StepOutcome) : (j.note s op o).label = j.label := by
  unfold note; split <;> rfl

@[simp] theorem tracing_note (j : Journal) (s : Text) (op : Trace.Operation)
    (o : Option Trace.StepOutcome) : (j.note s op o).tracing = j.tracing := by
  unfold note; split <;> simp_all

@[simp] theorem calls_note (j : Journal) (s : Text) (op : Trace.Operation)
    (o : Option Trace.StepOutcome) : (j.note s op o).calls = j.calls := by
  unfold note; split <;> rfl

end Journal

end CharGrammar

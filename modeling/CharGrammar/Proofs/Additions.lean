import CharGrammar.Proofs.Stateless

/-!
Readers that only add to the journal. What they come to and what they note depends on the text and
on the label in force, and all that was noted before stays as it is. Every grammar reads so if the
readers behind the names do, and those of definitions do.
-/

namespace CharGrammar

namespace Reader

/-- What a reader shows that begins under the label `l`, with nothing noted yet. -/
def shows (r : Reader) (l s : Text) : Reading :=
  let (x, j) := r s ((Journal.blank true).setLabel l)
  ⟨x, j.records.toList, j.calls.toList⟩

/-- The label is all that the reader takes from the journal, and records and calls are all that it
adds. -/
def OnlyAdds (r : Reader) : Prop :=
  ∀ s j, r s j =
    ((r.shows j.label s).result, j.extend (r.shows j.label s).records (r.shows j.label s).calls)

variable {r a b : Reader}

lemma onlyAdds_of_eq (f : Text → Text → Reading)
    (h : ∀ s j, r s j =
      ((f j.label s).result, j.extend (f j.label s).records (f j.label s).calls)) :
    r.OnlyAdds := by
  have hshows (l s : Text) : r.shows l s = f l s := by
    simp [shows, h, Journal.extend, Journal.blank, Journal.setLabel]
  intro s j
  rw [hshows, h]

end Reader

namespace Reading

/-- What two readers in sequence show, of which the second runs on what the first leaves. -/
def andThen (x : Reading) (next : Text → Reading) : Reading :=
  match x.result.taken with
  | .error e => ⟨.failure e, x.records, x.calls⟩
  | .ok (v, r) =>
    ⟨(next r).result.pairWith v, x.records ++ (next r).records, x.calls ++ (next r).calls⟩

/-- What two alternatives on `s` show under the label `l`, of which the second runs after a failure
of the first. -/
def orElse (x : Reading) (l s : Text) (y : Reading) : Reading :=
  match x.result.outcome with
  | .error e =>
    ⟨y.result, x.records ++ ⟨s, l, .fallback, some (.failed e)⟩ :: y.records, x.calls ++ y.calls⟩
  | .ok _ => x

end Reading

namespace Grammar

open Reader

variable {a b p : Reader}

lemma onlyAdds_failure (e : Text → ReadError) : OnlyAdds fun s j => (.failure (e s), j) :=
  onlyAdds_of_eq (fun _ s => ⟨.failure (e s), [], []⟩) fun s j => by simp

lemma onlyAdds_readChar (c : Char) : OnlyAdds (readChar c) := by
  refine onlyAdds_of_eq (fun l s => ⟨(char c).parse s, (char c).steps l s, []⟩) fun s j => ?_
  exact read_eq (char c) s j

lemma onlyAdds_readSeq (ha : OnlyAdds a) (hb : OnlyAdds b) : OnlyAdds (readSeq a b) := by
  refine onlyAdds_of_eq (fun l s => (a.shows l s).andThen (b.shows l)) fun s j => ?_
  rw [readSeq_eq, ha s j, Reading.andThen]
  cases (a.shows j.label s).result using Result.byOutcome with
  | error e r => simp
  | success v r => simp [hb r (j.extend _ _)]

lemma onlyAdds_readAlt (ha : OnlyAdds a) (hb : OnlyAdds b) : OnlyAdds (readAlt a b) := by
  refine onlyAdds_of_eq (fun l s => (a.shows l s).orElse l s (b.shows l s)) fun s j => ?_
  rw [readAlt_eq, ha s j, Reading.orElse]
  cases hx : (a.shows j.label s).result using Result.byOutcome with
  | error e r => simp [Journal.note_eq_extend, hb s (j.extend _ _)]
  | success v r => simp [hx]

lemma onlyAdds_readLabel (l : Text) (hp : OnlyAdds p) : OnlyAdds (readLabel l p) := by
  refine onlyAdds_of_eq (fun _ s =>
    ⟨(p.shows l s).result, ⟨s, l, .label l, none⟩ :: (p.shows l s).records, (p.shows l s).calls⟩)
    fun s j => ?_
  simp [readLabel, Journal.note_eq_extend, hp s ((j.setLabel l).extend _ _),
    Journal.extend_setLabel]

/-- A grammar is no worse than the readers behind its names. -/
lemma onlyAdds_read {named : Text → Reader} (h : ∀ name, OnlyAdds (named name)) (g : Grammar) :
    OnlyAdds (g.read named) := by
  induction g with
  | char c => exact onlyAdds_readChar c
  | closure f => exact onlyAdds_of_eq (fun _ s => ⟨f s, [], []⟩) fun s j => by simp [read]
  | call name => exact h name
  | custom typeName p ih => exact ih
  | probe id p ih =>
    refine onlyAdds_of_eq (fun l s => { (p.read named).shows l s with
      calls := ⟨id, s⟩ :: ((p.read named).shows l s).calls }) fun s j => ?_
    simp [read, Journal.addCall_eq_extend, ih s (j.extend _ _)]
  | seq a b iha ihb => exact onlyAdds_readSeq iha ihb
  | alt a b iha ihb => exact onlyAdds_readAlt iha ihb
  | map f p ih =>
    refine onlyAdds_of_eq (fun l s => { (p.read named).shows l s with
      result := f ((p.read named).shows l s).result }) fun s j => ?_
    simp [read, ih s j]
  | label l p ih => exact onlyAdds_readLabel l ih

lemma onlyAdds_undefinedName (name : Text) : OnlyAdds (undefinedName name) :=
  onlyAdds_failure fun _ => .described ("undefined ".toList ++ name)

/-- Names may stand for grammars that call names. -/
lemma onlyAdds_reader (defs : Definitions) (depth : Nat) (name : Text) :
    OnlyAdds (defs.reader depth name) := by
  induction depth generalizing name with
  | zero => exact onlyAdds_failure fun _ => .described ("endless ".toList ++ name)
  | succ depth ih =>
    unfold Definitions.reader
    split
    · exact onlyAdds_failure fun _ => .described ("undefined ".toList ++ name)
    · exact onlyAdds_read ih _

end Grammar

end CharGrammar

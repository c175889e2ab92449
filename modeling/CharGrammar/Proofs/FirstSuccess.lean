import CharGrammar.Grammar.Stock
import CharGrammar.Proofs.Additions
import CharGrammar.Proofs.Bracketing

/-!
Alternatives in a row. Choosing between readers is associative, records and calls included, so a row
of alternatives reads in one way however it is bracketed: the members run in their order until the
first that succeeds, or to the last.
-/

namespace CharGrammar.Grammar

/-- A member of a row that failed, and its error. -/
structure Miss where
  member : Grammar
  error : ReadError

/-- The members run on `s` in their order, each on the journal that the one before it left, and all
of them fail. A fallback is noted behind each. -/
inductive Misses (named : Text → Reader) (s : Text) : Journal → List Miss → Journal → Prop where
  | nil (j : Journal) : Misses named s j [] j
  | cons {m : Grammar} {e : ReadError} {r : Text} {j i k : Journal} {xs : List Miss}
      (hm : m.read named s j = (⟨.error e, r⟩, i))
      (hxs : Misses named s (i.note s .fallback (some (.failed e))) xs k) :
      Misses named s j (⟨m, e⟩ :: xs) k

/-- What a miss adds to the records: those of the member, and the fallback behind it. -/
def Miss.records (named : Text → Reader) (l s : Text) (x : Miss) : List Trace.Record :=
  ((x.member.read named).shows l s).records ++ [⟨s, l, .fallback, some (.failed x.error)⟩]

variable {named : Text → Reader} {s : Text} {i j : Journal} {xs : List Miss} {q : Grammar}
  {rest : List Grammar}

/-! ### Two alternatives -/

lemma readAlt_of_ok {a b : Reader} {v : Value} (h : (a s j).1.outcome = .ok v) :
    readAlt a b s j = a s j := by
  rw [readAlt_eq, h]

lemma readAlt_of_error {a b : Reader} {e : ReadError} {r : Text}
    (h : a s j = (⟨.error e, r⟩, i)) :
    readAlt a b s j = b s (i.note s .fallback (some (.failed e))) := by
  rw [readAlt_eq, h]

/-- Where the second of three is tried, the third is tried behind the same fallbacks. -/
lemma readAlt_assoc (a b c : Reader) : readAlt (readAlt a b) c = readAlt a (readAlt b c) := by
  funext s j
  rcases h : a s j with ⟨⟨e | v, r⟩, i⟩
  · rw [readAlt_of_error h, readAlt_eq, readAlt_of_error h, readAlt_eq]
  · have hok : (a s j).1.outcome = .ok v := by rw [h]
    rw [readAlt_of_ok hok, readAlt_of_ok (b := c) (by rw [readAlt_of_ok hok, hok]),
      readAlt_of_ok hok]

instance : Std.Associative readAlt := ⟨readAlt_assoc⟩

/-! ### Rows of alternatives -/

/-- The first of a row, and the rest of the row for the case that it fails. -/
def readRow (named : Text → Reader) (p : Grammar) (ps : List Grammar) : Reader :=
  (ps.map (·.read named)).foldl readAlt (p.read named)

lemma readRow_cons (p q : Grammar) (ps : List Grammar) :
    readRow named p (q :: ps) = readAlt (p.read named) (readRow named q ps) :=
  List.foldl_assoc

/-- The readers of the members are put together as the members are. -/
lemma read_join_alt (named : Text → Reader) (t : Bracketing Grammar) :
    (t.join .alt).read named = (t.map (·.read named)).join readAlt := by
  induction t with
  | leaf a => rfl
  | node l r ihl ihr =>
    rw [Bracketing.join, read, ihl, ihr]
    rfl

lemma read_join_alt_eq_readRow {t : Bracketing Grammar} {p : Grammar} {ps : List Grammar}
    (h : t.members = p :: ps) : (t.join .alt).read named = readRow named p ps := by
  have hmembers : (t.map (·.read named)).members = p.read named :: ps.map (·.read named) := by
    rw [Bracketing.members_map, h, List.map_cons]
  rw [read_join_alt, Bracketing.join_eq_foldl hmembers, readRow]

/-- What decides a row at `q`: it succeeds there, or nothing comes behind it. -/
def Decides (named : Text → Reader) (s : Text) (q : Grammar) (rest : List Grammar) (i : Journal) :
    Prop :=
  rest = [] ∨ ∃ v, (q.read named s i).1.outcome = .ok v

lemma readRow_of_decides (hq : Decides named s q rest i) :
    readRow named q rest s i = q.read named s i := by
  rcases hq with rfl | ⟨v, hv⟩
  · rfl
  · cases rest with
    | nil => rfl
    | cons p ps => rw [readRow_cons, readAlt_of_ok hv]

/-- Behind misses a row reads as the member that decides it. -/
lemma Misses.readRow_eq (hxs : Misses named s j xs i) (hq : Decides named s q rest i)
    {p : Grammar} {ps : List Grammar} (hps : p :: ps = xs.map Miss.member ++ q :: rest) :
    readRow named p ps s j = q.read named s i := by
  induction hxs generalizing p ps with
  | nil j =>
    obtain ⟨rfl, rfl⟩ := List.cons.inj hps
    exact readRow_of_decides hq
  | @cons m e r j i k xs hm hxs ih =>
    rw [List.map_cons, List.cons_append] at hps
    obtain ⟨rfl, rfl⟩ := List.cons.inj hps
    -- a miss is never the last of the row
    have hne : xs.map Miss.member ++ q :: rest ≠ [] :=
      List.append_ne_nil_of_right_ne_nil _ (List.cons_ne_nil q rest)
    obtain ⟨p', ps', hps'⟩ := List.exists_cons_of_ne_nil hne
    rw [hps', readRow_cons, readAlt_of_error hm]
    exact ih hq hps'.symm

lemma Misses.read_join (hxs : Misses named s j xs i) (hq : Decides named s q rest i)
    {t : Bracketing Grammar} (ht : t.members = xs.map Miss.member ++ q :: rest) :
    (t.join .alt).read named s j = q.read named s i := by
  obtain ⟨p, ps, hps⟩ := List.exists_cons_of_ne_nil t.members_ne_nil
  rw [read_join_alt_eq_readRow hps]
  exact hxs.readRow_eq hq (hps.symm.trans ht)

/-- Every row is decided somewhere. -/
lemma exists_misses (named : Text → Reader) (s : Text) (j : Journal) (p : Grammar)
    (ps : List Grammar) : ∃ xs q rest i, p :: ps = xs.map Miss.member ++ q :: rest ∧
      Misses named s j xs i ∧ Decides named s q rest i := by
  induction ps generalizing p j with
  | nil => exact ⟨[], p, [], j, rfl, .nil j, Or.inl rfl⟩
  | cons p' ps ih =>
    rcases h : p.read named s j with ⟨⟨e | v, r⟩, i⟩
    · obtain ⟨xs, q, rest, k, hps, hxs, hq⟩ := ih (i.note s .fallback (some (.failed e))) p'
      exact ⟨⟨p, e⟩ :: xs, q, rest, k, congrArg (List.cons p) hps, .cons h hxs, hq⟩
    · exact ⟨[], p, p' :: ps, j, rfl, .nil j, Or.inr ⟨v, by rw [h]⟩⟩

/-- Members that only add to the journal fail on the text itself, whatever ran before them, and what
they add adds up. -/
lemma Misses.eq_extend (hxs : Misses named s j xs i)
    (hadd : ∀ x ∈ xs, Reader.OnlyAdds (x.member.read named)) :
    (∀ x ∈ xs, ((x.member.read named).shows j.label s).result.outcome = .error x.error) ∧
      i = j.extend (xs.flatMap (Miss.records named j.label s))
        (xs.flatMap fun x => ((x.member.read named).shows j.label s).calls) := by
  induction hxs with
  | nil j => simp
  | @cons m e r j i k xs hm hxs ih =>
    obtain ⟨hhead, htail⟩ := List.forall_mem_cons.mp hadd
    obtain ⟨hresult, rfl⟩ := Prod.ext_iff.mp ((hhead s j).symm.trans hm)
    rw [Journal.note_eq_extend, Journal.extend_extend] at ih
    obtain ⟨herrors, hk⟩ := ih htail
    refine ⟨List.forall_mem_cons.mpr ⟨congrArg Result.outcome hresult, herrors⟩, ?_⟩
    rw [hk]
    simp [Miss.records]

/-- **The first success wins**, and the last failure if there is none. A choice is one way of
bracketing its members, and in every such way they run on the text itself, each once and in order,
until one decides: the result and the journal are those of its run. If the members only add to the
journal, the records are theirs one after the other, with a fallback behind each that failed. -/
theorem choice_first_success (p : Grammar) (ps : List Grammar) (named : Text → Reader) (s : Text)
    (j : Journal) :
    choice (p :: ps) = .ok ((Bracketing.leftward p ps).join .alt) ∧
      (Bracketing.leftward p ps).members = p :: ps ∧
      ∃ xs q rest i, p :: ps = xs.map Miss.member ++ q :: rest ∧
        Misses named s j xs i ∧ Decides named s q rest i ∧
        (∀ t : Bracketing Grammar, t.members = p :: ps →
          (t.join .alt).read named s j = q.read named s i) ∧
        ((∀ m ∈ p :: ps, Reader.OnlyAdds (m.read named)) →
          (∀ x ∈ xs, ((x.member.read named).shows j.label s).result.outcome = .error x.error) ∧
            q.read named s i =
              (((q.read named).shows j.label s).result,
                j.extend
                  (xs.flatMap (Miss.records named j.label s) ++
                    ((q.read named).shows j.label s).records)
                  ((xs.flatMap fun x => ((x.member.read named).shows j.label s).calls) ++
                    ((q.read named).shows j.label s).calls))) := by
  obtain ⟨xs, q, rest, i, hps, hxs, hq⟩ := exists_misses named s j p ps
  refine ⟨choice_cons p ps, Bracketing.members_leftward p ps, xs, q, rest, i, hps, hxs, hq,
    fun t ht => hxs.read_join hq (ht.trans hps), fun hadd => ?_⟩
  rw [hps, List.forall_mem_append, List.forall_mem_map, List.forall_mem_cons] at hadd
  obtain ⟨hmisses, hdecides, -⟩ := hadd
  obtain ⟨herrors, rfl⟩ := hxs.eq_extend hmisses
  refine ⟨herrors, ?_⟩
  rw [hdecides s _, Journal.extend_extend, Journal.label_extend]

/-- A row of watched members, bracketed to the right. -/
def watchedRow : Bracketing Grammar :=
  .node (.leaf (probe ['1'] (char 'a')))
    (.node (.leaf (probe ['2'] (char 'b'))) (.leaf (probe ['3'] any)))

/-- On `bc` the second member succeeds, and the third, which would succeed too, is not run. -/
theorem choice_first_success_watchedRow :
    watchedRow.members = [probe ['1'] (char 'a'), probe ['2'] (char 'b'), probe ['3'] any] ∧
      (∀ m ∈ watchedRow.members, Reader.OnlyAdds (m.read undefinedName)) ∧
      (∃ g, choice watchedRow.members = .ok g ∧
        g.read undefinedName "bc".toList (.blank true) =
          (watchedRow.join .alt).read undefinedName "bc".toList (.blank true)) ∧
      ((watchedRow.join .alt).run [] true "bc".toList).calls =
        [⟨['1'], "bc".toList⟩, ⟨['2'], "bc".toList⟩] := by
  have hmembers : watchedRow.members =
      [probe ['1'] (char 'a'), probe ['2'] (char 'b'), probe ['3'] any] := rfl
  have hadd : ∀ m ∈ watchedRow.members, Reader.OnlyAdds (m.read undefinedName) :=
    fun m _ => onlyAdds_read onlyAdds_undefinedName m
  obtain ⟨hchoice, hleftward, xs, q, rest, i, hps, hxs, hq, hread, -⟩ :=
    choice_first_success (probe ['1'] (char 'a')) [probe ['2'] (char 'b'), probe ['3'] any]
      undefinedName "bc".toList (.blank true)
  exact ⟨hmembers, hadd, ⟨_, hchoice, (hread _ hleftward).trans (hread _ hmembers).symm⟩, by decide⟩

end CharGrammar.Grammar

import CharGrammar.Grammar.Stock
import CharGrammar.Proofs.Additions
import CharGrammar.Proofs.Bracketing
import CharGrammar.Proofs.Built

/-!
Sequences of a row of members. Each member runs on what the one before it left, and the first that
fails ends it all. However the row is bracketed, the same members run on the same texts, and the
brackets are seen in the nesting of the value and nowhere else.
-/

namespace CharGrammar.Grammar

/-- A member of a row that succeeded, the text that it ran on, and its value. -/
structure Pass where
  member : Grammar
  text : Text
  value : Value

/-- The members run in their order, each on the text and on the journal that the one before it left,
and all of them succeed. -/
inductive Passes (named : Text → Reader) : Text → Journal → List Pass → Text → Journal → Prop where
  | nil (s : Text) (j : Journal) : Passes named s j [] s j
  | cons {m : Grammar} {v : Value} {s r t : Text} {j i k : Journal} {xs : List Pass}
      (hm : m.read named s j = (.success v r, i)) (hxs : Passes named r i xs t k) :
      Passes named s j (⟨m, s, v⟩ :: xs) t k

/-- What the run of a passing member adds to the records. -/
def Pass.records (named : Text → Reader) (l : Text) (x : Pass) : List Trace.Record :=
  ((x.member.read named).shows l x.text).records

/-- What it adds to the calls. -/
def Pass.calls (named : Text → Reader) (l : Text) (x : Pass) : List Call :=
  ((x.member.read named).shows l x.text).calls

variable {named : Text → Reader} {s r q : Text} {i j k : Journal} {xs ys : List Pass} {v w : Value}
  {e : ReadError}

/-! ### Two in sequence -/

section

variable {a b : Reader}

lemma readSeq_of_success (ha : a s j = (.success v r, i)) (hb : b r i = (.success w q, k)) :
    readSeq a b s j = (.success (.list [v, w]) q, k) := by
  simp [readSeq_eq, ha, hb]

lemma readSeq_of_failure_left (ha : a s j = (.failure e, k)) :
    readSeq a b s j = (.failure e, k) := by
  simp [readSeq_eq, ha]

lemma readSeq_of_failure_right (ha : a s j = (.success v r, i)) (hb : b r i = (.failure e, k)) :
    readSeq a b s j = (.failure e, k) := by
  simp [readSeq_eq, ha, hb]

end

/-! ### Rows in sequence -/

lemma passes_append_iff :
    Passes named s j (xs ++ ys) q k ↔
      ∃ r i, Passes named s j xs r i ∧ Passes named r i ys q k := by
  induction xs generalizing s j with
  | nil =>
    constructor
    · exact fun h => ⟨s, j, .nil s j, h⟩
    · rintro ⟨r, i, ⟨⟩, h⟩
      exact h
  | cons x xs ih =>
    constructor
    · rintro (_ | ⟨hm, hxs⟩)
      obtain ⟨r, i, hfront, hback⟩ := ih.mp hxs
      exact ⟨r, i, .cons hm hfront, hback⟩
    · rintro ⟨r, i, _ | ⟨hm, hfront⟩, hback⟩
      exact .cons hm (ih.mpr ⟨r, i, hfront, hback⟩)

/-- Where all members pass, every bracketing succeeds, and its value has the leaves of theirs. -/
lemma Passes.read_join (hxs : Passes named s j xs q k) {t : Bracketing Grammar}
    (ht : t.members = xs.map Pass.member) :
    ∃ v, v.leaves = xs.flatMap (·.value.leaves) ∧
      (t.join .seq).read named s j = (.success v q, k) := by
  induction t generalizing s j xs q k with
  | leaf m =>
    obtain ⟨x, rfl, rfl⟩ := List.map_eq_singleton_iff.mp ht.symm
    obtain _ | ⟨hm, ⟨⟩⟩ := hxs
    exact ⟨_, by simp, hm⟩
  | node l r ihl ihr =>
    obtain ⟨ys, zs, rfl, hl, hr⟩ := List.map_eq_append_iff.mp ht.symm
    obtain ⟨r', i, hys, hzs⟩ := passes_append_iff.mp hxs
    obtain ⟨v, hv, hreadl⟩ := ihl hys hl.symm
    obtain ⟨w, hw, hreadr⟩ := ihr hzs hr.symm
    exact ⟨.list [v, w], by simp [hv, hw], readSeq_of_success hreadl hreadr⟩

/-- Where a member fails behind others that pass, every bracketing fails as it does, and nothing
runs behind it. -/
lemma Passes.read_join_failure (hxs : Passes named s j xs q i) {m : Grammar}
    (hm : m.read named q i = (.failure e, k)) {ms : List Grammar} {t : Bracketing Grammar}
    (ht : t.members = xs.map Pass.member ++ m :: ms) :
    (t.join .seq).read named s j = (.failure e, k) := by
  induction t generalizing s j xs ms with
  | leaf p =>
    rcases List.singleton_eq_append_iff.mp ht with ⟨hnil, hp⟩ | ⟨-, hnil⟩
    · obtain rfl := List.map_eq_nil_iff.mp hnil
      obtain ⟨⟩ := hxs
      obtain ⟨rfl, -⟩ := List.cons.inj hp
      exact hm
    · exact absurd hnil (List.cons_ne_nil m ms)
  | node l r ihl ihr =>
    -- the failing member is on the right if all members on the left pass
    have hright (ps : List Grammar) (hl : xs.map Pass.member = l.members ++ ps)
        (hr : r.members = ps ++ m :: ms) :
        ((Bracketing.node l r).join .seq).read named s j = (.failure e, k) := by
      obtain ⟨ys, zs, rfl, hys, rfl⟩ := List.map_eq_append_iff.mp hl
      obtain ⟨r', i', hpass, hzs⟩ := passes_append_iff.mp hxs
      obtain ⟨v, -, hreadl⟩ := hpass.read_join hys.symm
      exact readSeq_of_failure_right hreadl (ihr hzs hr)
    rcases List.append_eq_append_iff.mp ht with ⟨ps, hl, hr⟩ | ⟨ps, hl, hps⟩
    · exact hright ps hl hr
    · cases ps with
      | nil => exact hright [] (by simpa using hl.symm) hps.symm
      | cons p ps =>
        obtain ⟨rfl, -⟩ := List.cons.inj hps
        exact readSeq_of_failure_left (ihl hxs hl)

/-- The bracketing of a folded sequence nests the values to the left. -/
lemma Passes.read_foldl (hxs : Passes named r i xs q k) {g : Grammar}
    (hg : g.read named s j = (.success v r, i)) :
    ((xs.map Pass.member).foldl .seq g).read named s j =
      (.success ((xs.map Pass.value).foldl (fun v w => .list [v, w]) v) q, k) := by
  induction hxs generalizing g v with
  | nil => exact hg
  | cons hm hxs ih => exact ih (readSeq_of_success hg hm)

/-- A row passes as a whole, or some member of it fails behind others that pass. -/
lemma exists_passes (named : Text → Reader) (s : Text) (j : Journal) (ps : List Grammar) :
    ∃ xs q i ms, ps = xs.map Pass.member ++ ms ∧ Passes named s j xs q i ∧
      ∀ m ∈ ms.head?, ∃ e, (m.read named q i).1.outcome = .error e := by
  induction ps generalizing s j with
  | nil => exact ⟨[], s, j, [], rfl, .nil s j, nofun⟩
  | cons p ps ih =>
    rcases h : p.read named s j with ⟨⟨e | v, r⟩, i⟩
    · exact ⟨[], s, j, p :: ps, rfl, .nil s j, by simp [h]⟩
    · obtain ⟨xs, q, k, ms, rfl, hxs, hms⟩ := ih r i
      exact ⟨⟨p, s, v⟩ :: xs, q, k, ms, rfl, .cons h hxs, hms⟩

/-- What members add that only add to the journal adds up. -/
lemma Passes.eq_extend (hxs : Passes named s j xs q k)
    (hadd : ∀ x ∈ xs, Reader.OnlyAdds (x.member.read named)) :
    k = j.extend (xs.flatMap (Pass.records named j.label))
      (xs.flatMap (Pass.calls named j.label)) := by
  induction hxs with
  | nil s j => simp
  | @cons m v s r t j i k xs hm hxs ih =>
    obtain ⟨hhead, htail⟩ := List.forall_mem_cons.mp hadd
    obtain ⟨-, rfl⟩ := Prod.ext_iff.mp ((hhead s j).symm.trans hm)
    rw [ih htail]
    simp [Pass.records, Pass.calls]

/-- **Sequences fail fast.** A folded sequence is one way of bracketing its members, and in every
such way they run each once and in order, on the text that the one before left. If all of them pass,
the sequence succeeds with the rest of the last one and a value over theirs, which the fold nests to
the left. Otherwise the first that fails gives its error and nothing runs behind it. The journal is
that of the last run: if the members only add to it, it grows by what they add, one after the
other. -/
theorem sequence_fail_fast {p : Grammar} {ps : List Grammar} {named : Text → Reader}
    (htidy : ∀ m ∈ p :: ps, ∀ s j, (m.read named s j).1.Tidy) (s : Text) (j : Journal) :
    sequence (p :: ps) = .ok ((Bracketing.leftward p ps).join .seq) ∧
      (Bracketing.leftward p ps).members = p :: ps ∧
      ∃ xs q i ms, p :: ps = xs.map Pass.member ++ ms ∧ Passes named s j xs q i ∧
        match ms with
        | [] =>
          (∃ v vs, xs.map Pass.value = v :: vs ∧
            ((Bracketing.leftward p ps).join .seq).read named s j =
              (.success (vs.foldl (fun v w => .list [v, w]) v) q, i)) ∧
          (∀ t : Bracketing Grammar, t.members = p :: ps →
            ∃ v, v.leaves = xs.flatMap (·.value.leaves) ∧
              (t.join .seq).read named s j = (.success v q, i)) ∧
          ((∀ m ∈ p :: ps, Reader.OnlyAdds (m.read named)) →
            i = j.extend (xs.flatMap (Pass.records named j.label))
              (xs.flatMap (Pass.calls named j.label)))
        | m :: _ =>
          ∃ e k, m.read named q i = (.failure e, k) ∧
            (∀ t : Bracketing Grammar, t.members = p :: ps →
              (t.join .seq).read named s j = (.failure e, k)) ∧
            ((∀ m ∈ p :: ps, Reader.OnlyAdds (m.read named)) →
              k = j.extend
                (xs.flatMap (Pass.records named j.label) ++
                  ((m.read named).shows j.label q).records)
                (xs.flatMap (Pass.calls named j.label) ++
                  ((m.read named).shows j.label q).calls)) := by
  obtain ⟨xs, q, i, ms, hps, hxs, hms⟩ := exists_passes named s j (p :: ps)
  refine ⟨sequence_cons p ps, Bracketing.members_leftward p ps, xs, q, i, ms, hps, hxs, ?_⟩
  have hfront (hadd : ∀ m ∈ p :: ps, Reader.OnlyAdds (m.read named)) :
      ∀ x ∈ xs, Reader.OnlyAdds (x.member.read named) := by
    rw [hps, List.forall_mem_append, List.forall_mem_map] at hadd
    exact hadd.1
  cases ms with
  | nil =>
    rw [List.append_nil] at hps
    refine ⟨?_, fun t ht => hxs.read_join (ht.trans hps), fun hadd => hxs.eq_extend (hfront hadd)⟩
    cases hxs with
    | nil => exact absurd hps (List.cons_ne_nil p ps)
    | cons hm hxs =>
      obtain ⟨rfl, rfl⟩ := List.cons.inj hps
      exact ⟨_, _, rfl, by rw [Bracketing.join_leftward]; exact hxs.read_foldl hm⟩
  | cons m ms =>
    have hmem : m ∈ p :: ps := by rw [hps]; simp
    obtain ⟨e, he⟩ := hms m rfl
    have hm : m.read named q i = (.failure e, (m.read named q i).2) :=
      Prod.ext ((htidy m hmem q i).eq_failure he) rfl
    refine ⟨e, _, hm, fun t ht => hxs.read_join_failure hm (ht.trans hps), fun hadd => ?_⟩
    obtain rfl := hxs.eq_extend (hfront hadd)
    rw [hadd m hmem q _, Journal.extend_extend, Journal.label_extend]

/-- A row of watched members, bracketed to the right. -/
def watchedSequence : Bracketing Grammar :=
  .node (.leaf (probe ['1'] (char 'a')))
    (.node (.leaf (probe ['2'] (take 2))) (.leaf (probe ['3'] (char 'd'))))

/-- On `abcx` the last member fails behind three characters, in the folded sequence too. -/
theorem sequence_fail_fast_watchedSequence :
    (∀ m ∈ watchedSequence.members, ∀ s j, (m.read undefinedName s j).1.Tidy) ∧
      (∃ g, sequence watchedSequence.members = .ok g ∧
        g.read undefinedName "abcx".toList (.blank true) =
          (watchedSequence.join .seq).read undefinedName "abcx".toList (.blank true)) ∧
      ((watchedSequence.join .seq).run [] true "abcx".toList).calls =
        [⟨['1'], "abcx".toList⟩, ⟨['2'], "bcx".toList⟩, ⟨['3'], "x".toList⟩] := by
  have htake (s : Text) : ((take 2).parse s).Tidy := by
    rw [take, parse_closure]
    split <;> simp
  have htidy : ∀ m ∈ watchedSequence.members, ∀ s j, (m.read undefinedName s j).1.Tidy := by
    intro m hm s j
    rw [← parse_eq_read]
    have hcases : m = probe ['1'] (char 'a') ∨ m = probe ['2'] (take 2) ∨
        m = probe ['3'] (char 'd') := by
      simpa [watchedSequence, Bracketing.members] using hm
    rcases hcases with rfl | rfl | rfl <;> rw [parse_probe]
    · exact tidy_parse_char 'a' s
    · exact htake s
    · exact tidy_parse_char 'd' s
  obtain ⟨hsequence, hleftward, xs, q, i, ms, hps, hxs, hms⟩ :=
    sequence_fail_fast htidy "abcx".toList (.blank true)
  refine ⟨htidy, ⟨_, hsequence, ?_⟩, by decide⟩
  cases ms with
  | nil =>
    obtain ⟨-, hpass, -⟩ := hms
    obtain ⟨v, -, hread⟩ := hpass watchedSequence rfl
    have hfails : ((watchedSequence.join .seq).read undefinedName "abcx".toList
        (.blank true)).1.outcome = .error (.mismatch 'd' 'x') := by decide
    rw [hread] at hfails
    cases hfails
  | cons m ms =>
    obtain ⟨e, k, -, hall, -⟩ := hms
    exact (hall _ hleftward).trans (hall watchedSequence rfl).symm

end CharGrammar.Grammar

import CharGrammar.Result
import CharGrammar.Trace.Journal

/-!
Grammars and how they read. A grammar is a tree over literal characters, closures and named
readers; reading a text with it gives a result and goes on writing the journal.

Sequencing stops at the first failure. Of two alternatives the first success wins, and the
failure that is reported is the second one's.
-/

namespace CharGrammar

/-- Reads a text with the journal so far. -/
abbrev Reader := Text → Journal → Result × Journal

inductive Grammar where
  /-- One literal character. -/
  | char (c : Char)
  /-- A closure, which writes nothing into the journal. -/
  | closure (read : Text → Result)
  /-- The reader that goes by a name when the text is read. -/
  | call (name : Text)
  /-- A reader of its own type, which the tree shows instead of what is inside. -/
  | custom (typeName : Text) (p : Grammar)
  /-- A watched reader: each call is noted before it runs. -/
  | probe (id : Text) (p : Grammar)
  | seq (a b : Grammar)
  | alt (a b : Grammar)
  /-- A transform of every result, failures included. -/
  | map (f : Result → Result) (p : Grammar)
  | label (text : Text) (p : Grammar)

namespace Grammar

/-- Reads one literal character. The outcome is noted over what is left after a match, and over
the whole text after a failure. -/
def readChar (c : Char) : Reader := fun s j =>
  let j := j.note s (.char c) none
  match s with
  | [] => (.failure .emptyInput, j.note s (.char c) (some (.failed .emptyInput)))
  | d :: r =>
    if d = c then (.success (.char d) r, j.note r (.char c) (some (.matched d)))
    else (.failure (.mismatch c d), j.note s (.char c) (some (.failed (.mismatch c d))))

/-- Runs `b` on what `a` leaves, and pairs the two values. -/
def readSeq (a b : Reader) : Reader := fun s j =>
  match a s j with
  | (⟨.error e, _⟩, j) => (.failure e, j)
  | (⟨.ok v, r⟩, j) =>
    match b r j with
    | (⟨.error e, _⟩, j) => (.failure e, j)
    | (⟨.ok w, r⟩, j) => (.success (.list [v, w]) r, j)

/-- Runs `b` on the same text after a failure of `a`. -/
def readAlt (a b : Reader) : Reader := fun s j =>
  match a s j with
  | (⟨.error e, _⟩, j) => b s (j.note s .fallback (some (.failed e)))
  | (⟨.ok v, r⟩, j) => (⟨.ok v, r⟩, j)

/-- Puts the label into force for one reading and the label before it back afterwards. -/
def readLabel (l : Text) (p : Reader) : Reader := fun s j =>
  let outer := j.label
  let (r, j) := p s ((j.setLabel l).note s (.label l) none)
  (r, j.setLabel outer)

/-- Reads with a grammar; `named` says what runs under a name. -/
def read (named : Text → Reader) : Grammar → Reader
  | char c => readChar c
  | closure f => fun s j => (f s, j)
  | call name => named name
  | custom _ p => p.read named
  | probe id p => fun s j => p.read named s (j.addCall id s)
  | seq a b => readSeq (a.read named) (b.read named)
  | alt a b => readAlt (a.read named) (b.read named)
  | map f p => fun s j =>
    let (r, j) := p.read named s j
    (f r, j)
  | label l p => readLabel l (p.read named)

end Grammar

end CharGrammar

import CharGrammar.Text.Quoted

/-!
The values that readers give: a single character, or a list of values of any nesting. A value
is reduced to its leaf characters, written down in brackets, or spelled out in words.
-/

namespace CharGrammar

inductive Value where
  | char (c : Char)
  | list (items : List Value)

namespace Value

mutual

def decEq : (v w : Value) → Decidable (v = w)
  | .char c, .char d =>
    if h : c = d then isTrue (congrArg char h) else isFalse fun e => h (char.inj e)
  | .list vs, .list ws =>
    match itemsDecEq vs ws with
    | isTrue h => isTrue (congrArg list h)
    | isFalse h => isFalse fun e => h (list.inj e)
  | .char _, .list _ => isFalse nofun
  | .list _, .char _ => isFalse nofun

def itemsDecEq : (vs ws : List Value) → Decidable (vs = ws)
  | [], [] => isTrue rfl
  | v :: vs, w :: ws =>
    match decEq v w with
    | isFalse h => isFalse fun e => h (List.cons.inj e).1
    | isTrue h =>
      match itemsDecEq vs ws with
      | isTrue hs => isTrue (h ▸ hs ▸ rfl)
      | isFalse hs => isFalse fun e => hs (List.cons.inj e).2
  | [], _ :: _ => isFalse nofun
  | _ :: _, [] => isFalse nofun

end

instance : DecidableEq Value := decEq

/-- The flat list of the characters of a text. -/
def ofText (s : Text) : Value := .list (s.map .char)

def char? : Value → Option Char
  | .char c => some c
  | .list _ => none

def items? : Value → Option (List Value)
  | .char _ => none
  | .list vs => some vs

/-! ### Leaves -/

mutual

/-- Adds the leaf characters behind `acc`, depth first and from left to right. -/
def addLeaves (acc : Array Char) : Value → Array Char
  | .char c => acc.push c
  | .list vs => addItemLeaves acc vs

def addItemLeaves (acc : Array Char) : List Value → Array Char
  | [] => acc
  | v :: vs => addItemLeaves (addLeaves acc v) vs

end

def leaves (v : Value) : Text := (v.addLeaves #[]).toList

mutual

theorem toList_addLeaves (acc : Array Char) :
    (v : Value) → (v.addLeaves acc).toList = acc.toList ++ v.leaves
  | .char c => by simp [addLeaves, leaves]
  | .list vs => by
    simp only [addLeaves, leaves]
    rw [toList_addItemLeaves acc vs, toList_addItemLeaves #[] vs]; simp

theorem toList_addItemLeaves (acc : Array Char) :
    (vs : List Value) → (addItemLeaves acc vs).toList = acc.toList ++ vs.flatMap leaves
  | [] => by simp [addItemLeaves]
  | v :: vs => by rw [addItemLeaves, toList_addItemLeaves, toList_addLeaves]; simp

end

@[simp] theorem leaves_char (c : Char) : (char c).leaves = [c] := rfl

@[simp] theorem leaves_list (vs : List Value) : (list vs).leaves = vs.flatMap leaves := by
  simp [leaves, addLeaves, toList_addItemLeaves]

@[simp] theorem leaves_ofText (s : Text) : (ofText s).leaves = s := by
  simp [ofText, List.flatMap_map]

/-- The text of a value is its leaf characters in order. -/
abbrev text (v : Value) : Text := v.leaves

def isChar : Value → Bool
  | .char _ => true
  | .list _ => false

/-- A list of characters and of nothing else. -/
def isFlat : Value → Bool
  | .char _ => false
  | .list vs => vs.all isChar

/-- The flat list of the leaves; a value that is flat already is kept. -/
def flat (v : Value) : Value := if v.isFlat then v else ofText v.leaves

theorem map_char_flatMap_leaves {vs : List Value} (h : vs.all isChar) :
    (vs.flatMap leaves).map char = vs := by
  induction vs with
  | nil => rfl
  | cons v vs ih =>
    rw [List.all_cons, Bool.and_eq_true] at h
    cases v with
    | char c => simp [ih h.2]
    | list ws => exact absurd h.1 nofun

theorem flat_eq_ofText (v : Value) : v.flat = ofText v.leaves := by
  unfold flat
  split
  · next h =>
    cases v with
    | char c => exact absurd h nofun
    | list vs =>
      rw [ofText, leaves_list]
      exact congrArg list (map_char_flatMap_leaves h).symm
  · rfl

@[simp] theorem leaves_flat (v : Value) : v.flat.leaves = v.leaves := by simp [flat_eq_ofText]

/-! ### Written forms -/

mutual

/-- Characters escaped between single quotes, lists in brackets. -/
def written : Value → Text
  | .char c => '\x27' :: Text.escapeChar c ++ ['\x27']
  | .list vs => '[' :: [',', ' '].intercalate (writtenItems vs) ++ [']']

def writtenItems : List Value → List Text
  | [] => []
  | v :: vs => written v :: writtenItems vs

end

@[simp] theorem writtenItems_eq_map (vs : List Value) : writtenItems vs = vs.map written := by
  induction vs with
  | nil => rfl
  | cons v vs ih => simp [writtenItems, ih]

mutual

/-- The kind of each value in words, around its quoted character or its items in brackets. -/
def spelled (hidden : Char → Bool) : Value → Text
  | .char c => "Char(".toList ++ Text.quoteChar hidden c ++ ")".toList
  | .list vs =>
    "List([".toList ++ [',', ' '].intercalate (spelledItems hidden vs) ++ "])".toList

def spelledItems (hidden : Char → Bool) : List Value → List Text
  | [] => []
  | v :: vs => spelled hidden v :: spelledItems hidden vs

end

@[simp] theorem spelledItems_eq_map (hidden : Char → Bool) (vs : List Value) :
    spelledItems hidden vs = vs.map (spelled hidden) := by
  induction vs with
  | nil => rfl
  | cons v vs ih => simp [spelledItems, ih]

@[simp] theorem spelled_char (hidden : Char → Bool) (c : Char) :
    spelled hidden (char c) = "Char(".toList ++ Text.quoteChar hidden c ++ ")".toList := rfl

@[simp] theorem spelled_list (hidden : Char → Bool) (vs : List Value) :
    spelled hidden (list vs) =
      "List([".toList ++ [',', ' '].intercalate (vs.map (spelled hidden)) ++ "])".toList := by
  rw [← spelledItems_eq_map]; rfl

end Value

end CharGrammar

import CharGrammar.Value
import CharGrammar.Error

/-!
The result of one reading: a value or an error, and the text that is left. Readers build results
with `success` and `failure`; a failure leaves no text.
-/

namespace CharGrammar

/-- What a reading comes to, the rest of the text apart. -/
abbrev Outcome := Except ReadError Value

instance Outcome.decEq : DecidableEq Outcome
  | .ok v, .ok w =>
    if h : v = w then isTrue (congrArg Except.ok h) else isFalse fun e => h (Except.ok.inj e)
  | .error d, .error e =>
    if h : d = e then isTrue (congrArg Except.error h)
    else isFalse fun k => h (Except.error.inj k)
  | .ok _, .error _ => isFalse nofun
  | .error _, .ok _ => isFalse nofun

structure Result where
  outcome : Outcome
  rest : Text
deriving DecidableEq

namespace Result

def success (v : Value) (rest : Text) : Result := ⟨.ok v, rest⟩

/-- No position is reported for a failure: the rest is empty. -/
def failure (e : ReadError) : Result := ⟨.error e, []⟩

@[simp] theorem outcome_success (v : Value) (s : Text) : (success v s).outcome = .ok v := rfl
@[simp] theorem rest_success (v : Value) (s : Text) : (success v s).rest = s := rfl
@[simp] theorem outcome_failure (e : ReadError) : (failure e).outcome = .error e := rfl
@[simp] theorem rest_failure (e : ReadError) : (failure e).rest = [] := rfl

/-- Changes the value of a success; a failure stays as it is. -/
def map (f : Value → Value) (r : Result) : Result := { r with outcome := r.outcome.map f }

@[simp] theorem map_success (f : Value → Value) (v : Value) (s : Text) :
    (success v s).map f = success (f v) s := rfl
@[simp] theorem map_failure (f : Value → Value) (e : ReadError) :
    (failure e).map f = failure e := rfl
@[simp] theorem rest_map (f : Value → Value) (r : Result) : (r.map f).rest = r.rest :=
  rfl

/-- Reduces the value of a success to the flat list of its leaves. -/
def flatten : Result → Result := map Value.flat

/-- The value together with the rest, or the error alone. -/
def taken (r : Result) : Except ReadError (Value × Text) := r.outcome.map (·, r.rest)

def ofTaken : Except ReadError (Value × Text) → Result
  | .ok (v, s) => success v s
  | .error e => failure e

@[simp] theorem taken_ofTaken (t : Except ReadError (Value × Text)) : (ofTaken t).taken = t := by
  cases t <;> rfl

def spelled (hidden : Char → Bool) (r : Result) : Text :=
  let outcome := match r.outcome with
    | .ok v => "Ok(".toList ++ v.spelled hidden ++ ")".toList
    | .error e => "Err(".toList ++ e.spelled hidden ++ ")".toList
  "ParseResult \x7b outcome: ".toList ++ outcome ++ ", remaining: ".toList ++
    Text.quoteText hidden r.rest ++ " \x7d".toList

@[simp] theorem spelled_ok (hidden : Char → Bool) (v : Value) (s : Text) :
    spelled hidden ⟨.ok v, s⟩ =
      "ParseResult \x7b outcome: ".toList ++ ("Ok(".toList ++ v.spelled hidden ++ ")".toList) ++
        ", remaining: ".toList ++ Text.quoteText hidden s ++ " \x7d".toList := rfl
@[simp] theorem spelled_error (hidden : Char → Bool) (e : ReadError) (s : Text) :
    spelled hidden ⟨.error e, s⟩ =
      "ParseResult \x7b outcome: ".toList ++ ("Err(".toList ++ e.spelled hidden ++ ")".toList) ++
        ", remaining: ".toList ++ Text.quoteText hidden s ++ " \x7d".toList := rfl

end Result

end CharGrammar

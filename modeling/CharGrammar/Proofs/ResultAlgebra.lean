import Mathlib.Tactic.Common
import CharGrammar.Result

/-!
Results one after the other: the rest of a success is read on, or an error gives way to another
result.
-/

namespace CharGrammar.Result

/-- A result is a success, or an error with any rest. -/
@[elab_as_elim]
theorem byOutcome {P : Result → Prop} (success : ∀ v r, P (.success v r))
    (error : ∀ e r, P ⟨.error e, r⟩) (x : Result) : P x :=
  match x with
  | ⟨.ok v, r⟩ => success v r
  | ⟨.error e, r⟩ => error e r

@[simp] lemma success_inj {v w : Value} {r t : Text} :
    success v r = success w t ↔ v = w ∧ r = t := by
  simp [success]

@[simp] lemma failure_inj {d e : ReadError} : failure d = failure e ↔ d = e := by
  simp [failure]

@[simp] lemma error_ne_success (e : ReadError) (r : Text) (v : Value) (t : Text) :
    ⟨.error e, r⟩ ≠ success v t := by
  simp [success]

@[simp] lemma success_ne_failure (v : Value) (r : Text) (e : ReadError) :
    success v r ≠ failure e := by
  simp [success, failure]

@[simp] lemma failure_ne_success (e : ReadError) (v : Value) (r : Text) :
    failure e ≠ success v r := by
  simp [success, failure]

@[simp] lemma error_eq_failure {d e : ReadError} {r : Text} :
    ⟨.error d, r⟩ = failure e ↔ d = e ∧ r = [] := by
  simp [failure]

@[simp] lemma taken_success (v : Value) (r : Text) : (success v r).taken = .ok (v, r) := rfl
@[simp] lemma taken_error (e : ReadError) (r : Text) : taken ⟨.error e, r⟩ = .error e := rfl
@[simp] lemma taken_failure (e : ReadError) : (failure e).taken = .error e := rfl

@[simp] lemma map_error (f : Value → Value) (e : ReadError) (r : Text) :
    map f ⟨.error e, r⟩ = ⟨.error e, r⟩ := rfl

lemma map_eq_success {f : Value → Value} {x : Result} {v : Value} {r : Text} :
    x.map f = success v r ↔ ∃ w, x = success w r ∧ f w = v := by
  cases x using byOutcome <;> simp [and_comm]

@[simp] lemma map_eq_error {f : Value → Value} {x : Result} {e : ReadError} :
    (x.map f).outcome = .error e ↔ x.outcome = .error e := by
  cases x using byOutcome <;> simp

/-- A success with `v` in front of its value. -/
def pairWith (v : Value) (x : Result) : Result :=
  ofTaken (x.taken.map fun (w, r) => (.list [v, w], r))

@[simp] lemma pairWith_success (v w : Value) (r : Text) :
    (success w r).pairWith v = success (.list [v, w]) r := rfl
@[simp] lemma pairWith_error (v : Value) (e : ReadError) (r : Text) :
    pairWith v ⟨.error e, r⟩ = failure e := rfl
@[simp] lemma pairWith_failure (v : Value) (e : ReadError) :
    (failure e).pairWith v = failure e := rfl

lemma pairWith_eq_success {u : Value} {x : Result} {v : Value} {r : Text} :
    x.pairWith u = success v r ↔ ∃ w, x = success w r ∧ v = .list [u, w] := by
  cases x using byOutcome with
  | error e t => simp
  | success w t => simp [and_comm, eq_comm]

@[simp] lemma pairWith_eq_error {v : Value} {x : Result} {e : ReadError} :
    (x.pairWith v).outcome = .error e ↔ x.outcome = .error e := by
  cases x using byOutcome <;> simp

/-- What becomes of a result if `next` reads the rest of a success. -/
def andThen (x : Result) (next : Text → Result) : Result :=
  match x.taken with
  | .error e => failure e
  | .ok (v, r) => (next r).pairWith v

@[simp] lemma andThen_success (v : Value) (r : Text) (next : Text → Result) :
    (success v r).andThen next = (next r).pairWith v := rfl
@[simp] lemma andThen_error (e : ReadError) (r : Text) (next : Text → Result) :
    andThen ⟨.error e, r⟩ next = failure e := rfl
@[simp] lemma andThen_failure (e : ReadError) (next : Text → Result) :
    (failure e).andThen next = failure e := rfl

lemma andThen_eq_success {x : Result} {next : Text → Result} {v : Value} {r : Text} :
    x.andThen next = success v r ↔
      ∃ u t, x = success u t ∧ ∃ w, next t = success w r ∧ v = .list [u, w] := by
  cases x using byOutcome with
  | error e t => simp
  | success u t =>
    rw [andThen_success, pairWith_eq_success]
    constructor
    · exact fun h => ⟨u, t, rfl, h⟩
    · rintro ⟨u', t', hx, h⟩
      obtain ⟨rfl, rfl⟩ := success_inj.mp hx
      exact h

lemma andThen_eq_error {x : Result} {next : Text → Result} {e : ReadError} :
    (x.andThen next).outcome = .error e ↔
      x.outcome = .error e ∨ ∃ u t, x = success u t ∧ (next t).outcome = .error e := by
  cases x using byOutcome with
  | error d t => simp
  | success u t =>
    rw [andThen_success, pairWith_eq_error]
    constructor
    · exact fun h => Or.inr ⟨u, t, rfl, h⟩
    · rintro (h | ⟨u', t', hx, h⟩)
      · exact absurd h nofun
      · obtain ⟨rfl, rfl⟩ := success_inj.mp hx
        exact h

/-- What becomes of a result if `y` takes the place of an error. -/
def orElse (x y : Result) : Result :=
  match x.outcome with
  | .error _ => y
  | .ok _ => x

@[simp] lemma orElse_success (v : Value) (r : Text) (y : Result) :
    (success v r).orElse y = success v r := rfl
@[simp] lemma orElse_error (e : ReadError) (r : Text) (y : Result) :
    orElse ⟨.error e, r⟩ y = y := rfl
@[simp] lemma orElse_failure (e : ReadError) (y : Result) : (failure e).orElse y = y := rfl

lemma orElse_of_error {x y : Result} {e : ReadError} (h : x.outcome = .error e) :
    x.orElse y = y := by
  rw [orElse, h]

lemma orElse_eq_success {x y : Result} {v : Value} {r : Text} :
    x.orElse y = success v r ↔
      x = success v r ∨ (∃ e, x.outcome = .error e) ∧ y = success v r := by
  cases x using byOutcome <;> simp

lemma orElse_eq_error {x y : Result} {e : ReadError} :
    (x.orElse y).outcome = .error e ↔
      (∃ d, x.outcome = .error d) ∧ y.outcome = .error e := by
  cases x using byOutcome <;> simp

/-! ### Errors that leave nothing -/

/-- An error leaves no text. -/
def Tidy (x : Result) : Prop := ∀ e, x.outcome = .error e → x.rest = []

@[simp] lemma tidy_success (v : Value) (r : Text) : (success v r).Tidy := nofun

@[simp] lemma tidy_failure (e : ReadError) : (failure e).Tidy := fun _ _ => rfl

@[simp] lemma tidy_error {e : ReadError} {r : Text} : Tidy ⟨.error e, r⟩ ↔ r = [] :=
  ⟨fun h => h e rfl, fun h _ _ => h⟩

lemma tidy_pairWith (v : Value) (x : Result) : (x.pairWith v).Tidy := by
  cases x using byOutcome <;> simp

lemma Tidy.map {x : Result} (h : x.Tidy) (f : Value → Value) : (x.map f).Tidy := by
  cases x using byOutcome with
  | error e r => exact h
  | success v r => simp

lemma Tidy.eq_failure {x : Result} (h : x.Tidy) {e : ReadError} (he : x.outcome = .error e) :
    x = failure e := by
  obtain ⟨o, r⟩ := x
  obtain rfl : o = .error e := he
  obtain rfl : r = [] := h e rfl
  rfl

/-- Tidy results that are successes with the same rests agree in all but values and errors. -/
lemma Tidy.eq_of_success_iff {x y : Result} (hx : x.Tidy) (hy : y.Tidy)
    (h : ∀ r, (∃ v, x = success v r) ↔ ∃ v, y = success v r) :
    x.outcome.isOk = y.outcome.isOk ∧ x.rest = y.rest := by
  cases x using byOutcome with
  | success v r =>
    obtain ⟨w, rfl⟩ := (h r).mp ⟨v, rfl⟩
    exact ⟨rfl, rfl⟩
  | error e r =>
    cases y using byOutcome with
    | success w t =>
      obtain ⟨v, hv⟩ := (h t).mpr ⟨w, rfl⟩
      exact absurd hv (error_ne_success e r v t)
    | error d t =>
      obtain rfl : r = [] := tidy_error.mp hx
      obtain rfl : t = [] := tidy_error.mp hy
      exact ⟨rfl, rfl⟩

end CharGrammar.Result

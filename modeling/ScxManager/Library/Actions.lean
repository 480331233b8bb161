import Mathlib.Tactic.Common

/-!
# Actions with errors, panics and a log

An action runs on a state and ends with a value, with an error, or in a panic. However it
ends, it leaves a state behind and the list of the steps it performed. Nothing is rolled
back: a failure keeps the state and the log it had reached.

`wp` turns a claim about one run of an action into a claim about its parts. Its rules are
equivalences, so rewriting with them loses nothing.
-/

namespace Actions

universe u v w x

/-- How an action ends. A panic is not visible to the caller as an error. -/
inductive Outcome (E : Type v) (A : Type w) where
  | ok (value : A)
  | err (error : E)
  | panic (message : String)
  deriving DecidableEq

/-- The end of one run: its outcome, the state it leaves and the steps it performed. -/
structure Ended (S : Type u) (T : Type x) (E : Type v) (A : Type w) where
  outcome : Outcome E A
  state : S
  log : List T

/-- A computation over states `S` performing steps `T`, with errors `E` and results `A`. -/
structure Action (S : Type u) (T : Type x) (E : Type v) (A : Type w) where
  run : S → Ended S T E A

variable {S : Type u} {T : Type x} {E : Type v} {A B : Type w}

namespace Action

/-- End at once with a value, performing nothing. -/
def pure (value : A) : Action S T E A := ⟨fun s => ⟨.ok value, s, []⟩⟩

/-- Run the second action on what the first one leaves, unless the first one failed. -/
def bind (first : Action S T E A) (next : A → Action S T E B) : Action S T E B where
  run s :=
    match first.run s with
    | ⟨.ok value, s', log⟩ =>
      let rest := (next value).run s'
      ⟨rest.outcome, rest.state, log ++ rest.log⟩
    | ⟨.err error, s', log⟩ => ⟨.err error, s', log⟩
    | ⟨.panic message, s', log⟩ => ⟨.panic message, s', log⟩

instance : Monad (Action S T E) where
  pure := pure
  bind := bind

/-- Read the state. -/
def get : Action S T E S := ⟨fun s => ⟨.ok s, s, []⟩⟩

/-- Change the state without performing a step. -/
def modify (change : S → S) : Action S T E PUnit := ⟨fun s => ⟨.ok ⟨⟩, change s, []⟩⟩

/-- Perform one logged step that changes the state. -/
def perform (step : T) (change : S → S) : Action S T E PUnit := ⟨fun s => ⟨.ok ⟨⟩, change s, [step]⟩⟩

/-- End with an error. -/
def fail (error : E) : Action S T E A := ⟨fun s => ⟨.err error, s, []⟩⟩

/-- End in a panic. -/
def panics (message : String) : Action S T E A := ⟨fun s => ⟨.panic message, s, []⟩⟩

/-- A pure computation that may fail. -/
def lift : Except E A → Action S T E A
  | .ok value => pure value
  | .error error => fail error

/-- Run an action only if the condition holds. -/
def when (c : Prop) [Decidable c] (action : Action S T E PUnit) : Action S T E PUnit :=
  if c then action else pure ⟨⟩

/-- Rewrite the error of an action. -/
def mapError (change : E → E) (action : Action S T E A) : Action S T E A where
  run s :=
    match action.run s with
    | ⟨.err error, s', log⟩ => ⟨.err (change error), s', log⟩
    | ended => ended

/-- Go on after an error as if the action had succeeded; a panic is not caught. -/
def swallow (action : Action S T E PUnit) : Action S T E PUnit where
  run s :=
    match action.run s with
    | ⟨.err _, s', log⟩ => ⟨.ok ⟨⟩, s', log⟩
    | ended => ended

end Action

/-- The run of `action` from `s` ends as `post` says. -/
def wp (action : Action S T E A) (post : Outcome E A → S → List T → Prop) (s : S) : Prop :=
  post (action.run s).outcome (action.run s).state (action.run s).log

/-- A weaker postcondition holds where a stronger one does. -/
theorem wp_mono {action : Action S T E A} {strong weak : Outcome E A → S → List T → Prop} {s : S}
    (h : ∀ outcome s' log, strong outcome s' log → weak outcome s' log)
    (hstrong : wp action strong s) : wp action weak s :=
  h _ _ _ hstrong

variable {post : Outcome E A → S → List T → Prop} {s : S}

/-- Sequencing: the second action starts where the first one ended, and the logs are joined. -/
@[simp] theorem wp_bind (first : Action S T E B) (next : B → Action S T E A) :
    wp (first >>= next) post s ↔
      wp first (fun outcome s' log => match outcome with
        | .ok value => wp (next value) (fun o s'' rest => post o s'' (log ++ rest)) s'
        | .err error => post (.err error) s' log
        | .panic message => post (.panic message) s' log) s := by
  change wp (Action.bind first next) post s ↔ _
  unfold wp Action.bind
  dsimp only
  rcases first.run s with ⟨outcome, s', log⟩
  cases outcome <;> rfl

@[simp] theorem wp_get (post : Outcome E S → S → List T → Prop) :
    wp (Action.get : Action S T E S) post s ↔ post (.ok s) s [] := Iff.rfl

section Unit

variable {done : Outcome E PUnit → S → List T → Prop}

@[simp] theorem wp_modify (change : S → S) :
    wp (Action.modify change : Action S T E PUnit) done s ↔ done (.ok ⟨⟩) (change s) [] := Iff.rfl

@[simp] theorem wp_perform (step : T) (change : S → S) :
    wp (Action.perform step change : Action S T E PUnit) done s ↔
      done (.ok ⟨⟩) (change s) [step] := Iff.rfl

/-- Swallowing turns an error into success and changes nothing else. -/
@[simp] theorem wp_swallow (action : Action S T E PUnit) :
    wp action.swallow done s ↔
      wp action (fun outcome s' log => match outcome with
        | .err _ => done (.ok ⟨⟩) s' log
        | outcome => done outcome s' log) s := by
  unfold wp Action.swallow
  dsimp only
  rcases action.run s with ⟨outcome, s', log⟩
  cases outcome <;> rfl

end Unit

@[simp] theorem wp_fail (error : E) :
    wp (Action.fail error : Action S T E A) post s ↔ post (.err error) s [] := Iff.rfl

/-- A lifted computation ends as the computation does, in the same state. -/
@[simp] theorem wp_lift (value : Except E A) :
    wp (Action.lift value : Action S T E A) post s ↔
      match value with
      | .ok a => post (.ok a) s []
      | .error e => post (.err e) s [] := by
  cases value <;> rfl

/-- Rewriting errors changes nothing but the error. -/
@[simp] theorem wp_mapError (change : E → E) (action : Action S T E A) :
    wp (action.mapError change) post s ↔
      wp action (fun outcome s' log => match outcome with
        | .err error => post (.err (change error)) s' log
        | outcome => post outcome s' log) s := by
  unfold wp Action.mapError
  dsimp only
  rcases action.run s with ⟨outcome, s', log⟩
  cases outcome <;> rfl

/-- Sequencing through a known end of the first action. -/
theorem wp_seq {first : Action S T E B} {next : B → Action S T E A}
    {mid : Outcome E B → S → List T → Prop} (hfirst : wp first mid s)
    (hok : ∀ value s' log, mid (.ok value) s' log →
      wp (next value) (fun o s'' rest => post o s'' (log ++ rest)) s')
    (herr : ∀ error s' log, mid (.err error) s' log → post (.err error) s' log)
    (hpanic : ∀ message s' log, mid (.panic message) s' log → post (.panic message) s' log) :
    wp (first >>= next) post s := by
  rw [wp_bind]
  refine wp_mono ?_ hfirst
  intro outcome s' log hmid
  cases outcome with
  | ok value => exact hok value s' log hmid
  | err error => exact herr error s' log hmid
  | panic message => exact hpanic message s' log hmid

end Actions

import ScxManager.Failures

/-!
# What a failed copy leaves

A copy that is denied does not touch the file at `config_path`. One that is allowed and then fails may
leave anything there, since `cp` truncates its destination before it writes to it. The copy is the last
step of every call, so nothing else that a call does depends on this.
-/

namespace ScxManager

open Actions

variable {S B : Type}

/-- Leave something at `config_path`, or leave the file there alone. -/
def System.leave (left : Option (List B)) (system : System S B) : System S B :=
  { system with configFile := left.or system.configFile }

/-- A call with what its copy, the last of its steps, leaves at `config_path` should it run and fail. -/
def Call.actionLeaving (L : ScxLoader S B) (o : Outcomes) (left : Option (List B)) (call : Call) :
    LibCall S B Unit := do
  call.action L o
  Action.when (o.copy = .exited false) (Action.modify (App.mapSystem (System.leave left)))

/-- A call that succeeds although its copy failed leaves something; all else is as in the call. -/
theorem Call.actionLeaving_run (L : ScxLoader S B) (o : Outcomes) (left : Option (List B))
    (call : Call) (app : App S B) :
    (call.actionLeaving L o left).run app =
      let ended := (call.action L o).run app
      { ended with state :=
        if ended.outcome = .ok () ∧ o.copy = .exited false then
          ended.state.mapSystem (System.leave left)
        else ended.state } := by
  change (Action.bind (call.action L o) _).run app = _
  unfold Action.bind Action.when
  dsimp only
  rcases (call.action L o).run app with ⟨outcome, state, log⟩
  cases outcome with
  | ok value =>
    by_cases hcopy : o.copy = .exited false
    · simp [hcopy, Action.modify]
    · simp [hcopy, Action.pure]
  | err error => simp
  | panic message => simp

/-- A failed copy that leaves the file alone is one of the calls without leftovers. -/
theorem Call.actionLeaving_none (L : ScxLoader S B) (o : Outcomes) (call : Call) (app : App S B) :
    (call.actionLeaving L o none).run app = (call.action L o).run app := by
  rw [Call.actionLeaving_run]
  dsimp only
  have hnone : ((call.action L o).run app).state.mapSystem (System.leave none) =
      ((call.action L o).run app).state := rfl
  rw [hnone, ite_self]

/-- What is left does not touch how a call ends. -/
theorem Call.actionLeaving_answers (L : ScxLoader S B) (o : Outcomes) (left : Option (List B))
    (call : Call) (app : App S B) :
    call.Answers L o app ((call.actionLeaving L o left).run app).outcome
      ((call.actionLeaving L o left).run app).log := by
  rw [Call.actionLeaving_run]
  exact call.action_answers L o app

/-- A call that returns and gets as far as its copy has run it, with or without success. -/
theorem Call.Returns.copy_cases {L : ScxLoader S B} {o : Outcomes} {call : Call} {app : App S B}
    (h : call.Returns L o app) (hcopy : call.ReachesCopy L o app.config) :
    o.copy = .exited true ∨ o.copy = .exited false := by
  cases hresult : o.copy with
  | notSpawned => exact absurd hresult (h.1 hcopy)
  | exited success =>
    cases success with
    | true => exact .inl rfl
    | false => exact .inr rfl

/-- What a call that returns puts at `config_path`, if anything: its configuration if its copy goes
through, and what is left there if it fails. -/
def Call.puts (L : ScxLoader S B) (o : Outcomes) (left : Option (List B)) (call : Call)
    (config : Config S) : Option (List B) :=
  if call.ReachesCopy L o config then
    match o.copy with
    | .exited true => (L.toToml (call.memory L config)).toOption
    | .exited false => left
    | .notSpawned => none
  else none

/-- A call that returns leaves in memory what it makes of the configuration there, and at `config_path`
what it puts there. -/
theorem Call.actionLeaving_effect (L : ScxLoader S B) (o : Outcomes) (left : Option (List B))
    (call : Call) (app : App S B)
    (hreturned : ∀ message, ((call.actionLeaving L o left).run app).outcome ≠ .panic message) :
    let app' := ((call.actionLeaving L o left).run app).state
    app'.config = call.memory L app.config ∧
      app'.system.configFile = (call.puts L o left app.config).or app.system.configFile := by
  rw [Call.actionLeaving_run] at hreturned ⊢
  have heffect := (call.action_ends L o app).effect hreturned
  have hanswers := call.action_answers L o app
  dsimp only at hreturned ⊢
  unfold Call.puts
  generalize ((call.action L o).run app).outcome = outcome at hreturned hanswers
  cases hanswers with
  | aborted => exact absurd rfl (hreturned _)
  | failed _ hcopy =>
    rw [if_neg (by simp), if_neg hcopy]
    exact ⟨heffect.memory, heffect.kept fun hinstalls => hcopy hinstalls.1⟩
  | done hreturns hcopy =>
    rw [if_pos hcopy]
    obtain hcopied | hfailed := hreturns.copy_cases hcopy
    · obtain ⟨toml, htoml, hfile⟩ := heffect.installed ⟨hcopy, hcopied⟩
      rw [heffect.memory] at htoml
      rw [hcopied, if_neg (by simp), htoml, hfile]
      exact ⟨heffect.memory, rfl⟩
    · have hkept := heffect.kept fun hinstalls => by simpa [hfailed] using hinstalls.2
      rw [hfailed, if_pos ⟨rfl, rfl⟩]
      refine ⟨heffect.memory, ?_⟩
      exact congrArg left.or hkept

/-- A call that installs puts its configuration at `config_path`. -/
theorem Call.puts_of_installs {L : ScxLoader S B} {o : Outcomes} {call : Call} {config : Config S}
    (left : Option (List B)) (h : call.Installs L o config) :
    ∃ toml, L.toToml (call.memory L config) = .ok toml ∧ call.puts L o left config = some toml := by
  have hstages : Stages L o (call.memory L config) := by
    cases call with
    | apply => exact h.1.2
    | disable => exact h.1.1
  cases htoml : L.toToml (call.memory L config) with
  | error error => simp [Stages, htoml, Except.isOk, Except.toBool] at hstages
  | ok toml =>
    refine ⟨toml, rfl, ?_⟩
    rw [Call.puts, if_pos h.1, h.2, htoml]
    rfl

/-- A call whose copy fails puts at `config_path` what is left there. -/
theorem Call.puts_of_failed {L : ScxLoader S B} {o : Outcomes} {call : Call} {config : Config S}
    (left : Option (List B)) (hcopy : call.ReachesCopy L o config) (hfailed : o.copy = .exited false) :
    call.puts L o left config = left := by
  rw [Call.puts, if_pos hcopy, hfailed]

/-- What a call puts at `config_path` is its configuration or what its failed copy leaves. -/
theorem Call.puts_eq_some {L : ScxLoader S B} {o : Outcomes} {left : Option (List B)} {call : Call}
    {config : Config S} {content : List B} (h : call.puts L o left config = some content) :
    L.toToml (call.memory L config) = .ok content ∨ o.copy = .exited false ∧ left = some content := by
  unfold Call.puts at h
  obtain ⟨-, hcontent⟩ := Option.ite_none_right_eq_some.mp h
  split at hcontent
  next => exact .inl (toOption_eq_some.mp hcontent)
  next hcopy => exact .inr ⟨hcopy, hcontent⟩
  next => cases hcontent

end ScxManager

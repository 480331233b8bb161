import ScxManager.Library.Plans
import ScxManager.Sessions

/-!
# The plan of a call

A call is a sequence of external steps, some of which end it when they fail, while the failures of others
are only printed. Read so, each call is a plan, and what it performs and how it ends is what carrying out
its plan performs and how that ends. The steps of a plan are in one order, so a call never repeats a step
and never goes back.
-/

namespace ScxManager

open Actions Plans

variable {S B : Type}

/-- A child process, if one is needed: only that it cannot be spawned ends the call. -/
def childItem (needed : Option Command) (result : Spawned) :
    Item (Performed S) (Outcome Error Unit) :=
  match needed, result with
  | none, _ => ⟨[], none⟩
  | some command, .exited success => ⟨[⟨.command command, success⟩], none⟩
  | some command, .notSpawned =>
    ⟨[⟨.command command, false⟩], some (.panic "failed to execute child process")⟩

/-- A step whose failure ends the call with an error. -/
def fallibleItem (step : Step S) (answer : Except Error Unit) (context : Error → Error) :
    Item (Performed S) (Outcome Error Unit) :=
  match answer with
  | .ok _ => ⟨[⟨step, true⟩], none⟩
  | .error error => ⟨[⟨step, false⟩], some (.err (context error))⟩

/-- Something that may fail before any step is performed. -/
def checkItem {A : Type} (checked : Except Error A) (context : Error → Error) :
    Item (Performed S) (Outcome Error Unit) :=
  match checked with
  | .ok _ => ⟨[], none⟩
  | .error error => ⟨[], some (.err (context error))⟩

/-- The answer of a write, without how much was written. -/
def Written.answer : Written → Except Error Unit
  | .done => .ok ()
  | .failed error _ => .error error

/-- Staging a configuration. -/
def stagingItems (L : ScxLoader S B) (o : Outcomes) (config : Config S) (context : Error → Error) :
    List (Item (Performed S) (Outcome Error Unit)) :=
  [checkItem (L.toToml config) context, fallibleItem .createStaging o.create context,
    fallibleItem .writeStaging o.writeAll.answer context]

/-- The plan of an apply call after its scheduler and mode are accepted. -/
def acceptedItems (L : ScxLoader S B) (o : Outcomes) (scxSched : S) (schedMode : SchedMode)
    (schedArgs : List String) (app : App S B) : List (Item (Performed S) (Outcome Error Unit)) :=
  ⟨[switchPerformed L o scxSched schedMode schedArgs app.config], none⟩ ::
    childItem (enableCommand o app.system) o.enableLoader ::
      (stagingItems L o (applied L scxSched schedMode schedArgs app.config)
        (Error.context "Cannot write scx_loader config to file") ++
          [childItem (some .copyConfig) o.copy])

/-- The plan of a call. -/
def Call.plan (L : ScxLoader S B) (o : Outcomes) (call : Call) (app : App S B) :
    List (Item (Performed S) (Outcome Error Unit)) :=
  match call with
  | .apply scxName scxMode extraFlags =>
    childItem (legacyCommand o app.system) o.scxService ::
      match accepted L scxName scxMode with
      | some (scxSched, schedMode) =>
        acceptedItems L o scxSched schedMode (schedArgsOf extraFlags) app
      | none => [checkItem (getScxFlagsForMode L app.config scxName scxMode) id]
  | .disable =>
    stagingItems L o (disabled app.config)
        (fun error => (error.context "Failed to edit config file").context
          "Cannot disable scx_loader") ++
      [fallibleItem .stopScheduler o.stop (Error.context "Cannot disable scx_loader"),
        childItem (some .copyConfig) o.copy]

/-- A child process that the call goes on after is an item that goes on. -/
theorem ChildEnds.item_ok {needed : Option Command} {result : Spawned} {app app' : App S B} {log}
    (h : ChildEnds needed result app (.ok ()) app' log) :
    childItem needed result = ⟨log, none⟩ := by
  cases h with
  | notNeeded hneeded => rw [hneeded]; rfl
  | exited command success hneeded hresult => rw [hneeded, hresult]; rfl

/-- A child process that ends the call is an item that does. -/
theorem ChildEnds.item_panic {needed : Option Command} {result : Spawned} {app app' : App S B}
    {message : String} {log} (h : ChildEnds needed result app (.panic message) app' log) :
    childItem needed result = ⟨log, some (.panic message)⟩ := by
  cases h with
  | panicked command hneeded hresult => rw [hneeded, hresult]; rfl

/-- The last child process ends the call in any case. -/
theorem ChildEnds.carryOut_last {needed : Option Command} {result : Spawned} {app app' : App S B}
    {outcome} {log} (h : ChildEnds needed result app outcome app' log) :
    carryOut (.ok ()) [childItem needed result] = ⟨log, outcome⟩ := by
  obtain ⟨-, rfl⟩ | ⟨-, message, rfl⟩ := h.outcome_eq
  · rw [h.item_ok, carryOut_cons_goes rfl]
    simp [carryOut]
  · rw [h.item_panic, carryOut_cons_ends rfl]

/-- Staging that ends in an error ends the plan. -/
theorem WriteEnds.carryOut_err {L : ScxLoader S B} {o : Outcomes} {app app' : App S B} {error} {log}
    (h : WriteEnds L o app (.err error) app' log) (context : Error → Error)
    (rest : List (Item (Performed S) (Outcome Error Unit))) (finish : Outcome Error Unit) :
    carryOut finish (stagingItems L o app.config context ++ rest) = ⟨log, .err (context error)⟩ := by
  cases h with
  | notSerialised error htoml =>
    simp [stagingItems, checkItem, htoml, carryOut]
  | notCreated toml error htoml hcreate =>
    simp [stagingItems, checkItem, fallibleItem, htoml, hcreate, carryOut]
  | cut toml error units htoml hcreate hwrite =>
    simp [stagingItems, checkItem, fallibleItem, Written.answer, htoml, hcreate, hwrite, carryOut]

/-- Staging in full goes on with the plan. -/
theorem WriteEnds.carryOut_ok {L : ScxLoader S B} {o : Outcomes} {app app' : App S B} {log}
    (h : WriteEnds L o app (.ok ()) app' log) (context : Error → Error)
    (rest : List (Item (Performed S) (Outcome Error Unit))) (finish : Outcome Error Unit) :
    carryOut finish (stagingItems L o app.config context ++ rest) =
      ⟨log ++ (carryOut finish rest).log, (carryOut finish rest).result⟩ := by
  cases h with
  | written toml htoml hcreate hwrite =>
    simp [stagingItems, checkItem, fallibleItem, Written.answer, htoml, hcreate, hwrite, carryOut]

/-- Every end of an apply call is that of its plan. -/
theorem ApplyEnds.carryOut {L : ScxLoader S B} {o : Outcomes} {scxName : String} {scxMode : UInt32}
    {extraFlags : String} {app app' : App S B} {outcome} {log}
    (h : ApplyEnds L o scxName scxMode extraFlags app outcome app' log) :
    Plans.carryOut (.ok ()) ((Call.apply scxName scxMode extraFlags).plan L o app) = ⟨log, outcome⟩ := by
  unfold Call.plan
  dsimp only
  cases h with
  | legacyPanics hlegacy => rw [hlegacy.item_panic, carryOut_cons_ends rfl]
  | rejected hlegacy hflags =>
    rw [hlegacy.item_ok, carryOut_cons_goes rfl, not_accepted_of_error hflags]
    simp [checkItem, hflags, Plans.carryOut]
  | enablePanics hlegacy haccepted henable =>
    rw [hlegacy.item_ok, carryOut_cons_goes rfl, haccepted]
    dsimp only
    unfold acceptedItems
    rw [carryOut_cons_goes rfl, henable.item_panic, carryOut_cons_ends rfl]
    rfl
  | notWritten hlegacy haccepted henable hwrite =>
    obtain ⟨hconfig, -, -⟩ := ApplyEnds.prepared hlegacy henable
    have hstaging := hwrite.carryOut_err (Error.context "Cannot write scx_loader config to file")
      [childItem (some .copyConfig) o.copy] (.ok ())
    rw [App.mapConfig_config, hconfig] at hstaging
    rw [hlegacy.item_ok, carryOut_cons_goes rfl, haccepted]
    dsimp only
    unfold acceptedItems
    rw [carryOut_cons_goes rfl, henable.item_ok, carryOut_cons_goes rfl, hstaging]
    rfl
  | written hlegacy haccepted henable hwrite hcopy =>
    obtain ⟨hconfig, -, -⟩ := ApplyEnds.prepared hlegacy henable
    have hstaging := hwrite.carryOut_ok (Error.context "Cannot write scx_loader config to file")
      [childItem (some .copyConfig) o.copy] (.ok ())
    rw [App.mapConfig_config, hconfig, hcopy.carryOut_last] at hstaging
    rw [hlegacy.item_ok, carryOut_cons_goes rfl, haccepted]
    dsimp only
    unfold acceptedItems
    rw [carryOut_cons_goes rfl, henable.item_ok, carryOut_cons_goes rfl, hstaging]
    rfl

/-- Every end of a disable call is that of its plan. -/
theorem DisableEnds.carryOut {L : ScxLoader S B} {o : Outcomes} {app app' : App S B} {outcome} {log}
    (h : DisableEnds L o app outcome app' log) :
    Plans.carryOut (.ok ()) (Call.disable.plan L o app) = ⟨log, outcome⟩ := by
  unfold Call.plan
  dsimp only
  cases h with
  | notWritten hwrite => exact hwrite.carryOut_err _ _ _
  | notStopped hwrite hstop =>
    refine (hwrite.carryOut_ok _ _ _).trans ?_
    simp [fallibleItem, hstop, Plans.carryOut]
  | stopped hwrite hstop hcopy =>
    refine (hwrite.carryOut_ok _ _ _).trans ?_
    have hgoes : (fallibleItem (S := S) .stopScheduler o.stop
        (Error.context "Cannot disable scx_loader")) = ⟨[⟨.stopScheduler, true⟩], none⟩ := by
      simp [fallibleItem, hstop]
    rw [hgoes, carryOut_cons_goes rfl, hcopy.carryOut_last]
    rfl

/-- The place of a step among the steps of calls. -/
def Step.stage : Step S → ℕ
  | .command .disableScx => 0
  | .command .stopScx => 0
  | .switchScheduler _ _ => 1
  | .switchSchedulerWithArgs _ _ => 1
  | .command .enableScxLoader => 2
  | .createStaging => 3
  | .writeStaging => 4
  | .stopScheduler => 5
  | .command .copyConfig => 6

/-- The places of the steps of a plan. -/
def stages (plan : List (Item (Performed S) (Outcome Error Unit))) : List ℕ :=
  (steps plan).map fun p => p.step.stage

@[simp] theorem stages_nil : stages ([] : List (Item (Performed S) (Outcome Error Unit))) = [] := rfl

@[simp] theorem stages_cons (item : Item (Performed S) (Outcome Error Unit))
    (rest : List (Item (Performed S) (Outcome Error Unit))) :
    stages (item :: rest) = item.performed.map (fun p => p.step.stage) ++ stages rest := by
  simp [stages, steps]

@[simp] theorem stages_childItem (needed : Option Command) (result : Spawned) :
    (childItem (S := S) needed result).performed.map (fun p => p.step.stage) =
      (needed.map fun command => (Step.command command : Step S).stage).toList := by
  cases needed with
  | none => rfl
  | some command => cases result <;> rfl

@[simp] theorem stages_fallibleItem (step : Step S) (answer : Except Error Unit)
    (context : Error → Error) :
    (fallibleItem step answer context).performed.map (fun p => p.step.stage) = [step.stage] := by
  cases answer <;> rfl

@[simp] theorem stages_checkItem {A : Type} (checked : Except Error A) (context : Error → Error) :
    (checkItem (S := S) checked context).performed.map (fun p => p.step.stage) = [] := by
  cases checked <;> rfl

/-- Whether the legacy service is in the way or not, its place is the first one. -/
theorem stages_legacy (o : Outcomes) (system : System S B) :
    (legacyCommand o system).map (fun command => (Step.command command : Step S).stage) = none ∨
      (legacyCommand o system).map (fun command => (Step.command command : Step S).stage) =
        some 0 := by
  cases hneeded : legacyCommand o system with
  | none => exact .inl rfl
  | some command =>
    obtain rfl | rfl := legacyCommand_eq_some hneeded
    · exact .inr rfl
    · exact .inr rfl

/-- If the loader service is enabled, then after the switch. -/
theorem stages_enable (o : Outcomes) (system : System S B) :
    (enableCommand o system).map (fun command => (Step.command command : Step S).stage) = none ∨
      (enableCommand o system).map (fun command => (Step.command command : Step S).stage) =
        some 2 := by
  cases hneeded : enableCommand o system with
  | none => exact .inl rfl
  | some command =>
    rw [enableCommand_eq_some hneeded]
    exact .inr rfl

/-- The switch request has one place, whichever it is. -/
@[simp] theorem stage_switchPerformed (L : ScxLoader S B) (o : Outcomes) (scxSched : S)
    (schedMode : SchedMode) (schedArgs : List String) (config : Config S) :
    (switchPerformed L o scxSched schedMode schedArgs config).step.stage = 1 := by
  unfold switchPerformed
  split <;> rfl

/-- Every plan goes through its steps in one order. -/
theorem pairwise_stages (L : ScxLoader S B) (o : Outcomes) (call : Call) (app : App S B) :
    (stages (call.plan L o app)).Pairwise (· < ·) := by
  cases call with
  | disable =>
    have hstages : stages (Call.disable.plan L o app) =
        [Step.createStaging, .writeStaging, .stopScheduler, .command .copyConfig].map
          (Step.stage (S := S)) := by
      simp [Call.plan, stagingItems]
    rw [hstages]
    exact (by decide : ([3, 4, 5, 6] : List ℕ).Pairwise (· < ·))
  | apply scxName scxMode extraFlags =>
    unfold Call.plan
    dsimp only
    rw [stages_cons, stages_childItem]
    cases haccepted : accepted L scxName scxMode with
    | none =>
      obtain hlegacy | hlegacy := stages_legacy o app.system
      · simp [hlegacy]
      · simp [hlegacy]
    | some pair =>
      have haccepted : stages (acceptedItems L o pair.1 pair.2 (schedArgsOf extraFlags) app) =
          1 :: (((enableCommand o app.system).map fun command =>
            (Step.command command : Step S).stage).toList ++
              [Step.createStaging, .writeStaging, .command .copyConfig].map (Step.stage (S := S))) := by
        simp [acceptedItems, stagingItems]
      rw [haccepted]
      obtain hlegacy | hlegacy := stages_legacy o app.system
      · obtain henable | henable := stages_enable o app.system
        · rw [hlegacy, henable]
          exact (by decide : ([1, 3, 4, 6] : List ℕ).Pairwise (· < ·))
        · rw [hlegacy, henable]
          exact (by decide : ([1, 2, 3, 4, 6] : List ℕ).Pairwise (· < ·))
      · obtain henable | henable := stages_enable o app.system
        · rw [hlegacy, henable]
          exact (by decide : ([0, 1, 3, 4, 6] : List ℕ).Pairwise (· < ·))
        · rw [hlegacy, henable]
          exact (by decide : ([0, 1, 2, 3, 4, 6] : List ℕ).Pairwise (· < ·))

/-- Whatever the call, the state and the outcomes of the external steps: what a call performs and how it
ends is what carrying out its plan gives, up to the item that ends it. So every call performs its steps
in one order, none of them twice. -/
theorem call_carries_out_plan (L : ScxLoader S B) (o : Outcomes) (call : Call) (app : App S B) :
    let ended := (call.action L o).run app
    carryOut (.ok ()) (call.plan L o app) = ⟨ended.log, ended.outcome⟩ ∧
      ended.log.Pairwise (fun p q => p.step.stage < q.step.stage) := by
  intro ended
  have hends := call.action_ends L o app
  change call.Ends L o app ended.outcome ended.state ended.log at hends
  have hplan : carryOut (.ok ()) (call.plan L o app) = ⟨ended.log, ended.outcome⟩ := by
    cases call with
    | apply scxName scxMode extraFlags => exact ApplyEnds.carryOut hends
    | disable => exact DisableEnds.carryOut hends
  refine ⟨hplan, ?_⟩
  have hprefix := log_carryOut_isPrefix (.ok ()) (call.plan L o app)
  rw [hplan] at hprefix
  exact (List.pairwise_map.mp (pairwise_stages L o call app)).sublist hprefix.sublist

end ScxManager

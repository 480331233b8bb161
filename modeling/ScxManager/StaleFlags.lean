import ScxManager.Coherence
import ScxManager.Daemon

/-!
# Flags that the daemon has not read

There are three copies of the configuration: in memory, at `config_path`, and the one the daemon read
when it last started. An apply call that asks for other arguments changes the first one for its
scheduler and mode; a call that installs brings the second one up to date, and a restart the third one.
From these events alone one can tell which schedulers and modes the daemon may not resolve as the
instance does. All others are switched to by mode safely.
-/

namespace ScxManager

variable {S B : Type}

/-- Two configurations resolve a scheduler and mode alike. -/
def SameFlags (L : ScxLoader S B) (config config' : Config S) (p : S × SchedMode) : Prop :=
  L.getScxFlagsForMode config p.1 p.2 = L.getScxFlagsForMode config' p.1 p.2

/-- The schedulers and modes whose flags may differ in memory from those in the file, and from those
the daemon has read. -/
structure Stale (S : Type) where
  unsaved : S × SchedMode → Prop
  unread : S × SchedMode → Prop

/-- All copies are the same. -/
def Stale.fresh : Stale S := ⟨fun _ => False, fun _ => False⟩

/-- The event gives a scheduler and mode other arguments than they have. -/
def Event.Changes (L : ScxLoader S B) (app : App S B) (event : Event S) (p : S × SchedMode) : Prop :=
  match event with
  | .call (.apply scxName scxMode extraFlags) _ =>
    accepted L scxName scxMode = some p ∧
      ¬ SwitchesByMode L p.1 p.2 (schedArgsOf extraFlags) app.config
  | _ => False

/-- What may be stale after an event. -/
def Stale.after (L : ScxLoader S B) (app : App S B) (stale : Stale S) (event : Event S) : Stale S :=
  match event with
  | .call call o =>
    { unsaved := fun p => ¬ call.Installs L o app.config ∧ (stale.unsaved p ∨ event.Changes L app p)
      unread := fun p => stale.unread p ∨ event.Changes L app p }
  | .restart _ _ => { stale with unread := stale.unsaved }

/-- What is not listed as stale is not: the file holds a configuration that resolves like memory what is
saved, and the daemon resolves like memory what it has read. -/
structure KnowsStale (L : ScxLoader S B) (st : App S B × Stale S) : Prop where
  saved : ∃ stored, initConfig L st.1.system.configFile = .ok stored ∧
    ∀ p, ¬ st.2.unsaved p → SameFlags L stored st.1.config p
  read : ∀ p, ¬ st.2.unread p → SameFlags L st.1.system.daemon.config st.1.config p

/-- A call leaves the flags in memory that it does not change. -/
theorem sameFlags_memory {L : ScxLoader S B} {app : App S B} {call : Call} {o : Outcomes}
    {p : S × SchedMode} (h : ¬ (Event.call call o).Changes L app p) :
    SameFlags L app.config (call.memory L app.config) p := by
  classical
  unfold SameFlags
  cases call with
  | apply scxName scxMode extraFlags =>
    unfold Call.memory
    dsimp only
    cases haccepted : accepted L scxName scxMode with
    | none => rfl
    | some pair =>
      dsimp only
      rw [getScxFlagsForMode_applied]
      by_cases hsame : p = pair
      · subst hsame
        rw [if_pos ⟨rfl, rfl⟩]
        have hmode : SwitchesByMode L p.1 p.2 (schedArgsOf extraFlags) app.config := by
          by_contra hnot
          exact h ⟨haccepted, hnot⟩
        exact hmode.symm
      · rw [if_neg fun hpair => hsame (Prod.ext hpair.1 hpair.2)]
  | disable =>
    have hflags : L.getScxFlagsForMode (disabled app.config) p.1 p.2 =
        L.getScxFlagsForMode app.config p.1 p.2 := getScxFlagsForMode_congr rfl
    exact hflags.symm

/-- Every event leaves what is stale known. -/
theorem knowsStale_step (L : ScxLoader S B) (st : App S B × Stale S) (event : Event S)
    (st' : App S B × Stale S) (h : KnowsStale L st)
    (hstep : Runs.recorded (App.step L) (Stale.after L) st event = some st') : KnowsStale L st' := by
  obtain ⟨app, stale⟩ := st
  obtain ⟨app', happ', rfl⟩ := Option.map_eq_some_iff.mp hstep
  obtain ⟨⟨stored, hstored, hsaved⟩, hread⟩ := h
  dsimp only at hstored hsaved hread
  cases event with
  | call call o =>
    have heffect := App.step_call happ'
    constructor
    case saved =>
      dsimp only
      by_cases hinstalls : call.Installs L o app.config
      · exact ⟨app'.config, heffect.initConfig_installed hinstalls, fun p _ => rfl⟩
      · refine ⟨stored, ?_, fun p hp => ?_⟩
        · rw [heffect.kept hinstalls]
          exact hstored
        · have hneither : ¬ (stale.unsaved p ∨ (Event.call call o).Changes L app p) :=
            fun h => hp ⟨hinstalls, h⟩
          rw [not_or] at hneither
          rw [heffect.memory]
          exact (hsaved p hneither.1).trans (sameFlags_memory hneither.2)
    case read =>
      intro p hp
      dsimp only at hp ⊢
      have hneither : ¬ (stale.unread p ∨ (Event.call call o).Changes L app p) := hp
      rw [not_or] at hneither
      rw [heffect.memory, heffect.daemonConfig]
      exact (hread p hneither.1).trans (sameFlags_memory hneither.2)
  | restart fallback running =>
    obtain rfl : app.mapSystem (System.restart L fallback running) = app' := Option.some.inj happ'
    refine ⟨⟨stored, hstored, hsaved⟩, fun p hp => ?_⟩
    have hdaemon : (app.mapSystem (System.restart L fallback running)).system.daemon.config =
        stored := by
      change ((initConfig L app.system.configFile).toOption).getD fallback = stored
      rw [hstored]
      rfl
    dsimp only
    rw [hdaemon]
    exact hsaved p hp

/-- The event applies a scheduler and mode. -/
def Event.Applies (L : ScxLoader S B) (p : S × SchedMode) : Event S → Prop
  | .call (.apply scxName scxMode _) _ => accepted L scxName scxMode = some p
  | _ => False

/-- Along every session that starts with one configuration in memory, in the file and in the daemon, an
apply call for a scheduler and mode that are not stale for the daemon runs as asked: whichever way the
daemon is asked to switch, it runs the arguments built from the flags. -/
theorem session_runs_fresh {L : ScxLoader S B} {app₀ app : App S B} {stale : Stale S}
    {events : List (Event S)} (hcoherent : Coherent L app₀)
    (hread : app₀.system.daemon.config = app₀.config)
    (hrun : Runs.run (Runs.recorded (App.step L) (Stale.after L)) (app₀, .fresh) events =
      some (app, stale)) (event : Event S)
    (hfresh : ∀ p, event.Applies L p → ¬ stale.unread p) : RunsAsAsked L app event := by
  have hfirst : KnowsStale L (app₀, .fresh) := by
    refine ⟨⟨app₀.config, hcoherent, fun p _ => rfl⟩, fun p _ => ?_⟩
    dsimp only
    rw [hread]
    rfl
  have hknows : KnowsStale L (app, stale) := Runs.run_invariant (knowsStale_step L) hfirst hrun
  rw [runsAsAsked_iff]
  rcases event with ⟨⟨scxName, scxMode, extraFlags⟩ | -, o⟩ | -
  · intro scxSched schedMode haccepted _ _ hmode
    have hsame := hknows.read (scxSched, schedMode) (hfresh _ haccepted)
    exact hmode.trans hsame.symm
  · trivial
  · trivial

/-- Flags are applied and installed, and the daemon is restarted: applying them again is safe, though
others were applied in between. -/
theorem session_runs_fresh_rusty :
    ∃ app stale, Runs.run (Runs.recorded (App.step sampleLoader) (Stale.after sampleLoader))
        (startedApp ⟨none, none, ∅⟩, .fresh)
        [.call (.apply "scx_rusty" 2 "-k") .succeed, .restart ⟨none, none, ∅⟩ none,
          .call (.apply "scx_bpfland" 0 "-m") .succeed] = some (app, stale) ∧
      RunsAsAsked sampleLoader app (.call (.apply "scx_rusty" 2 "-k") .succeed) := by
  have hcoherent : Coherent sampleLoader (startedApp ⟨none, none, ∅⟩) := rfl
  have hrun : Runs.run (Runs.recorded (App.step sampleLoader) (Stale.after sampleLoader))
      (startedApp ⟨none, none, ∅⟩, .fresh)
      [.call (.apply "scx_rusty" 2 "-k") .succeed, .restart ⟨none, none, ∅⟩ none,
        .call (.apply "scx_bpfland" 0 "-m") .succeed] = some (_, _) := rfl
  refine ⟨_, _, hrun, session_runs_fresh hcoherent rfl hrun _ ?_⟩
  intro p hp hunread
  have hrusty : p = (.rusty, .powerSave) := (Option.some.inj hp).symm
  subst hrusty
  obtain hunsaved | ⟨hbpfland, -⟩ := hunread
  · exact hunsaved.1 ⟨⟨rfl, rfl, rfl, rfl⟩, rfl⟩
  · exact absurd hbpfland (by decide)

end ScxManager

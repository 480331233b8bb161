import ScxManager.Daemon
import ScxManager.FlagsField

/-!
# The words of the flags field

Applying trims the text of the field of all white space, but splits it at the space character only. So
a tab between two words stays inside an argument, and a second space makes an empty one. The arguments
are the words of the text exactly where single spaces are between them.
-/

namespace ScxManager

open Actions

variable {S B : Type}

/-- The words of a text, the longest runs in it without white space. -/
def flagWords (text : String) : List String := (Words.words isSpace text.toList).map String.ofList

/-- The words of a text are separated by one space character each. -/
def SingleSpaced (text : String) : Prop := Words.SingleSpaced isSpace ' ' (trimmed text).toList

/-- Arguments that are the words of a text; none is empty, and none has white space in it. -/
structure AreWordsOf (args : List String) (text : String) : Prop where
  words : args = flagWords text
  nonempty : "" ∉ args
  noSpace : ∀ arg ∈ args, ∀ c ∈ arg.toList, isSpace c = false

/-- The words of a text are such. -/
theorem flagWords_areWordsOf (text : String) : AreWordsOf (flagWords text) text := by
  have hwords : ∀ arg ∈ flagWords text, arg.toList ≠ [] ∧ ∀ c ∈ arg.toList, isSpace c = false := by
    intro arg harg
    obtain ⟨word, hword, rfl⟩ := List.mem_map.mp harg
    rw [String.toList_ofList]
    exact Words.mem_words hword
  exact ⟨rfl, fun h => (hwords "" h).1 rfl, fun arg harg => (hwords arg harg).2⟩

/-- The arguments built from a text are its words exactly if single spaces separate them. -/
theorem schedArgsOf_trimmed_eq_flagWords_iff (text : String) :
    schedArgsOf (trimmed text) = flagWords text ↔ SingleSpaced text := by
  unfold SingleSpaced flagWords
  rw [schedArgsOf_eq, map_ofList_eq_iff, List.map_map]
  unfold trimmed
  rw [String.toList_ofList, ← Words.split_trim_eq_words_iff (by decide)]
  simp

/-- Two texts give the same arguments exactly if they differ only in the white space at their ends. -/
theorem schedArgsOf_trimmed_inj {text text' : String} :
    schedArgsOf (trimmed text) = schedArgsOf (trimmed text') ↔ trimmed text = trimmed text' := by
  constructor
  · intro h
    rw [← joinArgs_schedArgsOf (trimmed text), h, joinArgs_schedArgsOf]
  · intro h
    rw [h]

/-- Requests for different arguments are logged differently. -/
theorem switchPerformed_inj {L : ScxLoader S B} {o : Outcomes} {scxSched : S} {scxMode : SchedMode}
    {args args' : List String} {config : Config S} :
    switchPerformed L o scxSched scxMode args config =
      switchPerformed L o scxSched scxMode args' config ↔ args = args' := by
  constructor
  · intro h
    have hstep := congrArg Performed.step h
    unfold switchPerformed at hstep
    dsimp only at hstep
    by_cases hmode : SwitchesByMode L scxSched scxMode args config
    · rw [if_pos hmode] at hstep
      by_cases hmode' : SwitchesByMode L scxSched scxMode args' config
      · exact hmode.trans hmode'.symm
      · rw [if_neg hmode'] at hstep
        cases hstep
    · rw [if_neg hmode] at hstep
      by_cases hmode' : SwitchesByMode L scxSched scxMode args' config
      · rw [if_pos hmode'] at hstep
        cases hstep
      · rw [if_neg hmode'] at hstep
        exact (Step.switchSchedulerWithArgs.inj hstep).2
  · intro h
    rw [h]

namespace SchedExtWindow

/-- Applying hands arguments to the daemon and, unless the process aborts, to the configuration. -/
structure HandsArgs (L : ScxLoader S B) (o : Outcomes) (w : SchedExtWindow S B) (scxSched : S)
    (schedMode : SchedMode) (args : List String) : Prop where
  requested : switches (w.applying L o).log =
    [switchPerformed L o scxSched schedMode args w.app.config]
  stored : (∀ message, (w.applying L o).outcome ≠ .panic message) →
    (w.applying L o).state.config = applied L scxSched schedMode args w.app.config

/-- Applying hands on the arguments built from the text of the field, and no others. -/
theorem handsArgs_iff {L : ScxLoader S B} {o : Outcomes} {w : SchedExtWindow S B} {scxSched : S}
    {schedMode : SchedMode} {args : List String}
    (haccepted : accepted L w.applyRequest.scxSched w.applyRequest.schedMode.toRaw =
      some (scxSched, schedMode))
    (hspawns : Spawns (legacyCommand o w.app.system) o.scxService) :
    w.HandsArgs L o scxSched schedMode args ↔ schedArgsOf w.applyRequest.extraFlags = args := by
  have hends := applySchedulerChange_ends L o w.applyRequest.scxSched
    w.applyRequest.schedMode.toRaw w.applyRequest.extraFlags w.app
  have hrequested := (hends.requested haccepted hspawns).1
  constructor
  · intro h
    have hlog := List.head_eq_of_cons_eq (hrequested.symm.trans h.requested)
    exact switchPerformed_inj.mp hlog
  · intro h
    rw [h] at hrequested
    refine ⟨hrequested, fun hreturned => ?_⟩
    have hmemory := (hends.effect hreturned).memory
    simp only [Call.memory, haccepted, h] at hmemory
    exact hmemory

/-- The arguments of the text in the field are its words, and are handed on as such, exactly if single
spaces separate them. Two texts give the same arguments exactly if they differ only in the white space
at their ends, so texts of the same words with single spaces between them make the same request. -/
theorem applyRequest_words_iff (L : ScxLoader S B) (w : SchedExtWindow S B) :
    (AreWordsOf (schedArgsOf w.applyRequest.extraFlags) w.flagsEdit ↔ SingleSpaced w.flagsEdit) ∧
    (∀ o scxSched schedMode,
      accepted L w.applyRequest.scxSched w.applyRequest.schedMode.toRaw =
        some (scxSched, schedMode) →
      Spawns (legacyCommand o w.app.system) o.scxService →
        (w.HandsArgs L o scxSched schedMode (flagWords w.flagsEdit) ↔ SingleSpaced w.flagsEdit)) ∧
    (∀ text, schedArgsOf { w with flagsEdit := text }.applyRequest.extraFlags =
      schedArgsOf w.applyRequest.extraFlags ↔ trimmed text = trimmed w.flagsEdit) ∧
    (SingleSpaced w.flagsEdit → ∀ text, SingleSpaced text →
      flagWords text = flagWords w.flagsEdit →
        { w with flagsEdit := text }.applyRequest = w.applyRequest) := by
  have hwords : schedArgsOf w.applyRequest.extraFlags = flagWords w.flagsEdit ↔
      SingleSpaced w.flagsEdit := schedArgsOf_trimmed_eq_flagWords_iff w.flagsEdit
  refine ⟨?_, ?_, ?_, ?_⟩
  · rw [← hwords]
    constructor
    · exact AreWordsOf.words
    · intro h
      rw [h]
      exact flagWords_areWordsOf w.flagsEdit
  · intro o scxSched schedMode haccepted hspawns
    rw [handsArgs_iff haccepted hspawns, hwords]
  · intro text
    exact schedArgsOf_trimmed_inj
  · intro hsingle text hsingle' hsame
    have htrimmed : trimmed text = trimmed w.flagsEdit := by
      rw [← schedArgsOf_trimmed_inj, (schedArgsOf_trimmed_eq_flagWords_iff text).mpr hsingle', hsame]
      exact (hwords.mpr hsingle).symm
    unfold applyRequest
    dsimp only
    rw [htrimmed]

/-- Two spaces between two flags make an empty argument. -/
theorem two_spaces_empty_arg :
    ¬ ∀ w : SchedExtWindow SampleSched (Config SampleSched),
      AreWordsOf (schedArgsOf w.applyRequest.extraFlags) w.flagsEdit := by
  intro h
  have hnonempty := (h { sampleWindow with flagsEdit := "-a  -b" }).nonempty
  revert hnonempty
  decide

end SchedExtWindow

end ScxManager

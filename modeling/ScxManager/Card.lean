import ScxManager.InfoPanel
import ScxManager.Library.Runs

/-!
# Histories of the card

The card is filled piecemeal by two operations, one for the scheduler half and one for the profile
half. Each of them sets all that can be seen of its half, and nothing of the other one. After any
history of calls each half therefore shows what its last call asked for.
-/

namespace ScxManager

/-- A call of one of the operations that fill the card. -/
inductive CardCall where
  | schedulerInfo (info : SchedulerInfo) (found : Bool)
  | profileInfo (profileName : String) (info : ProfileInfo) (visible : Bool)

namespace CardCall

def apply (panel : InfoPanel) : CardCall → InfoPanel
  | schedulerInfo info found => applySchedulerInfo panel info found
  | profileInfo profileName info visible => applyProfileInfo panel profileName info visible

/-- The arguments of a call for the scheduler half. -/
def schedulerArgs : CardCall → Option (SchedulerInfo × Bool)
  | schedulerInfo info found => some (info, found)
  | profileInfo _ _ _ => none

/-- The arguments of a call for the profile half. -/
def profileArgs : CardCall → Option (String × ProfileInfo × Bool)
  | schedulerInfo _ _ => none
  | profileInfo profileName info visible => some (profileName, info, visible)

end CardCall

/-- The card after a history of calls. -/
def afterCalls (panel : InfoPanel) (calls : List CardCall) : InfoPanel :=
  calls.foldl CardCall.apply panel

def lastSchedulerArgs (calls : List CardCall) : Option (SchedulerInfo × Bool) :=
  (calls.filterMap CardCall.schedulerArgs).getLast?

def lastProfileArgs (calls : List CardCall) : Option (String × ProfileInfo × Bool) :=
  (calls.filterMap CardCall.profileArgs).getLast?

/-- What the card has in its scheduler half. -/
structure SchedulerHalf where
  title : Label
  tagline : Label
  summary : Label
  hwRow : ChipRow
  wlRow : ChipRow
  fallback : Bool

/-- What can be seen of the profile half; the name and the description only with the section. -/
structure ProfileHalf where
  divider : Bool
  profileSection : Bool
  texts : Option (String × String)

def InfoPanel.schedulerHalf (panel : InfoPanel) : SchedulerHalf where
  title := panel.title
  tagline := panel.tagline
  summary := panel.summary
  hwRow := panel.hwRow
  wlRow := panel.wlRow
  fallback := panel.fallback

def InfoPanel.profileHalf (panel : InfoPanel) : ProfileHalf where
  divider := panel.divider
  profileSection := panel.profileSection
  texts := if panel.profileSection then some (panel.profileName, panel.profileDesc) else none

/-- A row has exactly some chips, all of them in its layout, and is visible if there are any. -/
def ChipRow.Holds (row : ChipRow) (labels : List String) : Prop :=
  row.layout = some labels ∧ row.chips = labels ∧ (row.visible = true ↔ labels ≠ [])

/-- The scheduler half shows what a call for it asks for. -/
structure SchedulerHalf.Shows (half : SchedulerHalf) (info : SchedulerInfo) (found : Bool) :
    Prop where
  title : half.title.visible = true ↔ found = true
  tagline : half.tagline.visible = true ↔ found = true
  summary : half.summary.visible = true ↔ found = true
  texts : found = true →
    half.title.text = info.title ∧ half.tagline.text = info.tagline ∧ half.summary.text = info.summary
  fallback : half.fallback = true ↔ found = false
  hwRow : half.hwRow.Holds (if found then info.hardware else [])
  wlRow : half.wlRow.Holds (if found then info.workloads else [])

/-- The profile half shows what a call for it asks for. -/
structure ProfileHalf.Shows (half : ProfileHalf) (profileName : String) (info : ProfileInfo)
    (visible : Bool) : Prop where
  divider : half.divider = true ↔ half.profileSection = true
  profileSection : half.profileSection = true ↔
    visible = true ∧ info.found = true ∧ info.description ≠ ""
  texts : half.profileSection = true → half.texts = some (profileName, info.description)

/-- A call for the profile half leaves the scheduler half as it is. -/
theorem applyProfileInfo_schedulerHalf (panel : InfoPanel) (profileName : String)
    (info : ProfileInfo) (visible : Bool) :
    (applyProfileInfo panel profileName info visible).schedulerHalf = panel.schedulerHalf := by
  unfold applyProfileInfo
  split <;> rfl

/-- A call for the scheduler half leaves the profile half as it is. -/
theorem applySchedulerInfo_profileHalf (panel : InfoPanel) (info : SchedulerInfo) (found : Bool) :
    (applySchedulerInfo panel info found).profileHalf = panel.profileHalf := by
  unfold applySchedulerInfo
  split <;> rfl

/-- A call for the scheduler half does to every card what it does to a new one. -/
theorem applySchedulerInfo_schedulerHalf (panel : InfoPanel) (info : SchedulerInfo) (found : Bool) :
    (applySchedulerInfo panel info found).schedulerHalf =
      (applySchedulerInfo buildInfoCard info found).schedulerHalf := by
  unfold applySchedulerInfo
  simp only [rebuildChipRow_eq]
  split <;> rfl

/-- What can be seen after a call for the profile half is on every card what it is on a new one. -/
theorem applyProfileInfo_profileHalf (panel : InfoPanel) (profileName : String) (info : ProfileInfo)
    (visible : Bool) :
    (applyProfileInfo panel profileName info visible).profileHalf =
      (applyProfileInfo buildInfoCard profileName info visible).profileHalf := by
  unfold applyProfileInfo
  split <;> rfl

/-- What a call for the scheduler half asks for is shown. -/
theorem applySchedulerInfo_shows (panel : InfoPanel) (info : SchedulerInfo) (found : Bool) :
    (applySchedulerInfo panel info found).schedulerHalf.Shows info found := by
  unfold applySchedulerInfo
  simp only [rebuildChipRow_eq]
  cases found with
  | true => constructor <;> simp [InfoPanel.schedulerHalf, ChipRow.Holds]
  | false => constructor <;> simp [InfoPanel.schedulerHalf, ChipRow.Holds]

/-- What a call for the profile half asks for is shown. -/
theorem applyProfileInfo_shows (panel : InfoPanel) (profileName : String) (info : ProfileInfo)
    (visible : Bool) :
    (applyProfileInfo panel profileName info visible).profileHalf.Shows profileName info visible := by
  have hshown : (!visible || !info.found || info.description.isEmpty) = false ↔
      visible = true ∧ info.found = true ∧ info.description ≠ "" := by
    simp [and_assoc]
  unfold applyProfileInfo
  split
  case isTrue hhidden =>
    have hnot : ¬ (visible = true ∧ info.found = true ∧ info.description ≠ "") := by
      rw [← hshown, hhidden]
      exact Bool.noConfusion
    exact ⟨Iff.rfl, iff_of_false Bool.false_ne_true hnot, fun h => absurd h Bool.false_ne_true⟩
  case isFalse hvisible =>
    rw [Bool.not_eq_true] at hvisible
    exact ⟨Iff.rfl, iff_of_true rfl (hshown.mp hvisible), fun _ => rfl⟩

/-- After a history the scheduler half is what the last call for it makes of a new card. -/
theorem afterCalls_schedulerHalf (panel : InfoPanel) (calls : List CardCall) :
    (afterCalls panel calls).schedulerHalf =
      ((lastSchedulerArgs calls).map fun args =>
        (applySchedulerInfo buildInfoCard args.1 args.2).schedulerHalf).getD panel.schedulerHalf := by
  refine Runs.foldl_last_write (fun panel call => ?_) panel calls
  cases call with
  | schedulerInfo info found => exact applySchedulerInfo_schedulerHalf panel info found
  | profileInfo profileName info visible =>
    exact applyProfileInfo_schedulerHalf panel profileName info visible

/-- After a history the profile half is what the last call for it makes of a new card. -/
theorem afterCalls_profileHalf (panel : InfoPanel) (calls : List CardCall) :
    (afterCalls panel calls).profileHalf =
      ((lastProfileArgs calls).map fun args =>
        (applyProfileInfo buildInfoCard args.1 args.2.1 args.2.2).profileHalf).getD
          panel.profileHalf := by
  refine Runs.foldl_last_write (fun panel call => ?_) panel calls
  cases call with
  | schedulerInfo info found => exact applySchedulerInfo_profileHalf panel info found
  | profileInfo profileName info visible =>
    exact applyProfileInfo_profileHalf panel profileName info visible

/-- After a history of calls on a card each half is what the last call for it, alone, makes of a new
card, and shows what that call asks for; a half that no call was for is as it was at first. Whatever
the history was, the next call does not change the half that it is not for. -/
theorem card_shows_latest (panel : InfoPanel) (calls : List CardCall) :
    let card := afterCalls panel calls
    (match lastSchedulerArgs calls with
      | none => card.schedulerHalf = panel.schedulerHalf
      | some (info, found) =>
        card.schedulerHalf = (applySchedulerInfo buildInfoCard info found).schedulerHalf ∧
          card.schedulerHalf.Shows info found) ∧
      (match lastProfileArgs calls with
      | none => card.profileHalf = panel.profileHalf
      | some (profileName, info, visible) =>
        card.profileHalf = (applyProfileInfo buildInfoCard profileName info visible).profileHalf ∧
          card.profileHalf.Shows profileName info visible) ∧
      (∀ info found, (applySchedulerInfo card info found).profileHalf = card.profileHalf) ∧
      ∀ profileName info visible,
        (applyProfileInfo card profileName info visible).schedulerHalf = card.schedulerHalf := by
  intro card
  have hscheduler := afterCalls_schedulerHalf panel calls
  have hprofile := afterCalls_profileHalf panel calls
  refine ⟨?_, ?_, applySchedulerInfo_profileHalf card, applyProfileInfo_schedulerHalf card⟩
  · cases hlast : lastSchedulerArgs calls with
    | none => rw [hscheduler, hlast]; rfl
    | some args =>
      rw [hlast] at hscheduler
      refine ⟨hscheduler, ?_⟩
      rw [hscheduler]
      exact applySchedulerInfo_shows buildInfoCard args.1 args.2
  · cases hlast : lastProfileArgs calls with
    | none => rw [hprofile, hlast]; rfl
    | some args =>
      rw [hlast] at hprofile
      refine ⟨hprofile, ?_⟩
      rw [hprofile]
      exact applyProfileInfo_shows buildInfoCard args.1 args.2.1 args.2.2

end ScxManager

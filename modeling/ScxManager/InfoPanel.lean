import Mathlib.Data.Finmap

/-!
# The catalog and the card that shows it

The catalog resolves a scheduler name and a profile name to the texts the card shows. The card
keeps for each of its widgets whether it was last asked to be shown; what can be seen also depends
on the window around it.
-/

namespace ScxManager

structure SchedulerInfo where
  found : Bool := false
  title : String := ""
  tagline : String := ""
  summary : String := ""
  hardware : List String := []
  workloads : List String := []
  deriving DecidableEq

structure ProfileInfo where
  found : Bool := false
  description : String := ""
  deriving DecidableEq

structure ProfileEntry where
  description : String
  byScheduler : Finmap fun _ : String => String

/-- The catalog, as it was read once from the resource. -/
structure SchedulerMetadata where
  valid : Bool
  schedulers : Finmap fun _ : String => SchedulerInfo
  profiles : Finmap fun _ : String => ProfileEntry

def SchedulerMetadata.isValid (metadata : SchedulerMetadata) : Bool := metadata.valid

def SchedulerMetadata.scheduler (metadata : SchedulerMetadata) (name : String) : SchedulerInfo :=
  (metadata.schedulers.lookup name).getD {}

/-- The description for the active scheduler if there is one, and else the generic one. -/
def SchedulerMetadata.profile (metadata : SchedulerMetadata) (name activeScheduler : String) :
    ProfileInfo :=
  match metadata.profiles.lookup name with
  | none => {}
  | some entry =>
    { found := true
      description := (entry.byScheduler.lookup activeScheduler).getD entry.description }

/-- A label of the card. -/
structure Label where
  text : String
  visible : Bool
  deriving DecidableEq

/-- A row of chips: the texts of the chips that are items of its layout, if it has one, and of those
that are its children. -/
structure ChipRow where
  layout : Option (List String)
  chips : List String
  visible : Bool
  deriving DecidableEq

/-- The widgets of the card. The two labels of the profile section are shown with it. -/
structure InfoPanel where
  title : Label
  tagline : Label
  summary : Label
  hwRow : ChipRow
  wlRow : ChipRow
  divider : Bool
  profileSection : Bool
  profileName : String
  profileDesc : String
  fallback : Bool
  deriving DecidableEq

/-- A card in its neutral state, everything empty and hidden. -/
def buildInfoCard : InfoPanel where
  title := ⟨"", false⟩
  tagline := ⟨"", false⟩
  summary := ⟨"", false⟩
  hwRow := ⟨some [], [], false⟩
  wlRow := ⟨some [], [], false⟩
  divider := false
  profileSection := false
  profileName := ""
  profileDesc := ""
  fallback := false

/-- Delete one child of a row. -/
def ChipRow.deleteChip (row : ChipRow) (chip : String) : ChipRow :=
  { row with chips := row.chips.erase chip }

/-- A widget that has a layout already keeps it. -/
def ChipRow.setLayout (row : ChipRow) (flow : List String) : ChipRow :=
  { row with layout := row.layout.or (some flow) }

/-- Make a chip in a row and add it to the layout. -/
def ChipRow.addChip (row : ChipRow) (label : String) : ChipRow :=
  { row with layout := row.layout.map (· ++ [label]), chips := row.chips ++ [label] }

/-- Replace the chips of a row: the layout goes first, then the chips that it leaves behind. -/
def rebuildChipRow (row : ChipRow) (labels : List String) : ChipRow :=
  let row := if row.layout.isSome then { row with layout := none } else row
  let oldChips := row.chips
  let row := oldChips.foldl ChipRow.deleteChip row
  let row := row.setLayout []
  labels.foldl ChipRow.addChip row

def applySchedulerInfo (panel : InfoPanel) (info : SchedulerInfo) (found : Bool) : InfoPanel :=
  if found then
    { panel with
      title := ⟨info.title, true⟩
      tagline := ⟨info.tagline, true⟩
      summary := ⟨info.summary, true⟩
      hwRow := { rebuildChipRow panel.hwRow info.hardware with visible := !info.hardware.isEmpty }
      wlRow := { rebuildChipRow panel.wlRow info.workloads with visible := !info.workloads.isEmpty }
      fallback := false }
  else
    { panel with
      title := ⟨"", false⟩
      tagline := ⟨"", false⟩
      summary := ⟨"", false⟩
      hwRow := { rebuildChipRow panel.hwRow [] with visible := false }
      wlRow := { rebuildChipRow panel.wlRow [] with visible := false }
      fallback := true }

/-- A hidden section keeps the texts it had. -/
def applyProfileInfo (panel : InfoPanel) (profileName : String) (info : ProfileInfo)
    (visible : Bool) : InfoPanel :=
  if !visible || !info.found || info.description.isEmpty then
    { panel with profileSection := false, divider := false }
  else
    { panel with
      profileName := profileName
      profileDesc := info.description
      profileSection := true
      divider := true }

/-- Deleting chips one by one leaves the layout alone. -/
theorem ChipRow.foldl_deleteChip (row : ChipRow) (chips : List String) :
    chips.foldl ChipRow.deleteChip row = { row with chips := chips.foldl List.erase row.chips } := by
  induction chips generalizing row with
  | nil => rfl
  | cons chip rest ih => exact ih (row.deleteChip chip)

/-- Deleting all chips leaves none. -/
theorem foldl_erase_self (chips : List String) : chips.foldl List.erase chips = [] := by
  induction chips with
  | nil => rfl
  | cons chip rest ih =>
    rw [List.foldl_cons, List.erase_cons_head]
    exact ih

/-- Chips are added at the end, to the row and to its layout. -/
theorem ChipRow.foldl_addChip (flow chips labels : List String) (visible : Bool) :
    labels.foldl ChipRow.addChip ⟨some flow, chips, visible⟩ =
      ⟨some (flow ++ labels), chips ++ labels, visible⟩ := by
  induction labels generalizing flow chips with
  | nil => simp
  | cons label rest ih =>
    have hrest := ih (flow ++ [label]) (chips ++ [label])
    rw [List.append_assoc, List.append_assoc] at hrest
    exact hrest

/-- A rebuilt row has a chip for each label and no others, all of them in its layout, whatever the row had
before. -/
theorem rebuildChipRow_eq (row : ChipRow) (labels : List String) :
    rebuildChipRow row labels = ⟨some labels, labels, row.visible⟩ := by
  have hlayout : (if row.layout.isSome then { row with layout := none } else row) =
      ⟨none, row.chips, row.visible⟩ := by
    obtain ⟨layout, chips, visible⟩ := row
    cases layout <;> rfl
  unfold rebuildChipRow
  rw [hlayout]
  dsimp only
  rw [ChipRow.foldl_deleteChip, foldl_erase_self]
  exact ChipRow.foldl_addChip [] [] labels row.visible

/-- A section that is not to be seen is hidden together with the divider. -/
theorem applyProfileInfo_hidden (panel : InfoPanel) (profileName : String) (info : ProfileInfo) :
    applyProfileInfo panel profileName info false =
      { panel with profileSection := false, divider := false } := rfl

/-- A section that is to be seen shows the profile and its description, if there is one. -/
theorem applyProfileInfo_visible (panel : InfoPanel) (profileName : String) {info : ProfileInfo}
    (hfound : info.found = true) (hdescription : info.description ≠ "") :
    applyProfileInfo panel profileName info true =
      { panel with
        profileName := profileName
        profileDesc := info.description
        profileSection := true
        divider := true } := by
  have hempty : info.description.isEmpty = false := by simpa using hdescription
  simp [applyProfileInfo, hfound, hempty]

end ScxManager

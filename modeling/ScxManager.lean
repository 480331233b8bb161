import ScxManager.Library.Actions
import ScxManager.Library.Runs
import ScxManager.Library.Greedy
import ScxManager.Library.Copies
import ScxManager.Library.Wrap
import ScxManager.Library.Polling
import ScxManager.Library.Drafts
import ScxManager.Library.Plans
import ScxManager.Bridge
import ScxManager.CallEnds
import ScxManager.Sessions
import ScxManager.Settings
import ScxManager.Failures
import ScxManager.Leftovers
import ScxManager.Coherence
import ScxManager.Daemon
import ScxManager.Instances
import ScxManager.Staging
import ScxManager.Flags
import ScxManager.InfoPanel
import ScxManager.Window
import ScxManager.Profiles
import ScxManager.ActiveProfile
import ScxManager.FlagsField
import ScxManager.FlowLayout
import ScxManager.Card
import ScxManager.Catalog
import ScxManager.Handles
import ScxManager.FailedApply
import ScxManager.FlagWords
import ScxManager.Services
import ScxManager.Running
import ScxManager.Retries
import ScxManager.StoredLists
import ScxManager.StaleFlags
import ScxManager.Lineages
import ScxManager.WindowSessions
import ScxManager.Desk
import ScxManager.WindowCard
import ScxManager.ChipRows
import ScxManager.HandleLedger
import ScxManager.Facade
import ScxManager.Dialogs
import ScxManager.Reopening
import ScxManager.KernelLabel
import ScxManager.Lifetimes
import ScxManager.CallPlan

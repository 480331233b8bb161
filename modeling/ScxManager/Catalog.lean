import ScxManager.InfoPanel

/-!
# Loading the catalog

The catalog is read once from a document with three levels, which is flattened into two tables.
Whatever is missing in the document, or has another type than expected, reads as empty. Only a
resource that cannot be read, or that is not an object, leaves the catalog invalid and empty.
-/

namespace ScxManager

/-- A value of a document. An object lists each of its keys once; nothing is asked of the order. The
value of a number is never used. -/
inductive QJsonValue where
  | undefined
  | null
  | bool (value : Bool)
  | double
  | string (value : String)
  | array (values : List QJsonValue)
  | object (keys : List String) (nodup : keys.Nodup) (members : String → QJsonValue)

structure QJsonObject where
  keys : List String
  nodup : keys.Nodup
  members : String → QJsonValue

/-- The value of a key; undefined if the object does not have it. -/
def QJsonObject.value (object : QJsonObject) (key : String) : QJsonValue :=
  if key ∈ object.keys then object.members key else .undefined

namespace QJsonValue

def toString : QJsonValue → String
  | string value => value
  | _ => ""

def toArray : QJsonValue → List QJsonValue
  | array values => values
  | _ => []

def toObject : QJsonValue → QJsonObject
  | object keys nodup members => ⟨keys, nodup, members⟩
  | _ => ⟨[], List.nodup_nil, fun _ => undefined⟩

def isObject : QJsonValue → Bool
  | object _ _ _ => true
  | _ => false

/-- The texts of an array, in its order. -/
def toTexts (value : QJsonValue) : List String := value.toArray.map toString

end QJsonValue

/-- A table with one entry for each key of an object. -/
def tableOf {β : Type} (object : QJsonObject) (entry : QJsonValue → β) : Finmap fun _ : String => β :=
  object.keys.foldl (fun table name => table.insert name (entry (object.value name))) ∅

namespace SchedulerMetadata

def schedulerEntry (value : QJsonValue) : SchedulerInfo :=
  let entry := value.toObject
  { found := true
    title := (entry.value "title").toString
    tagline := (entry.value "tagline").toString
    summary := (entry.value "summary").toString
    hardware := (entry.value "hardware").toTexts
    workloads := (entry.value "workloads").toTexts }

def profileEntry (value : QJsonValue) : ProfileEntry :=
  let entry := value.toObject
  { description := (entry.value "description").toString
    byScheduler := tableOf (entry.value "byScheduler").toObject QJsonValue.toString }

/-- A catalog that has read nothing. -/
def unread : SchedulerMetadata := ⟨false, ∅, ∅⟩

/-- Read the catalog. The file is none if it cannot be opened, and the document is none if its text
cannot be parsed. -/
def load (fromJson : List UInt8 → Option QJsonValue) (file : Option (List UInt8)) :
    SchedulerMetadata :=
  match file with
  | none => unread
  | some data =>
    match fromJson data with
    | none => unread
    | some document =>
      if !document.isObject then unread
      else
        let root := document.toObject
        { valid := true
          schedulers := tableOf (root.value "schedulers").toObject schedulerEntry
          profiles := tableOf (root.value "profiles").toObject profileEntry }

def hasScheduler (metadata : SchedulerMetadata) (name : String) : Bool :=
  (metadata.schedulers.lookup name).isSome

end SchedulerMetadata

/-- A loop that sets an entry for each of some keys leaves the other ones as they are. -/
theorem lookup_foldl_insert {β : Type} (entry : String → β) (keys : List String)
    (table : Finmap fun _ : String => β) (name : String) :
    (keys.foldl (fun table name => table.insert name (entry name)) table).lookup name =
      if name ∈ keys then some (entry name) else table.lookup name := by
  induction keys generalizing table with
  | nil => rw [if_neg List.not_mem_nil]; rfl
  | cons key rest ih =>
    rw [List.foldl_cons, ih]
    by_cases hrest : name ∈ rest
    · rw [if_pos hrest, if_pos (List.mem_cons_of_mem key hrest)]
    · rw [if_neg hrest]
      by_cases hkey : name = key
      · rw [hkey, Finmap.lookup_insert, if_pos List.mem_cons_self]
      · rw [Finmap.lookup_insert_of_ne _ hkey, if_neg (List.not_mem_cons_of_ne_of_not_mem hkey hrest)]

/-- The table of an object has an entry exactly for its keys. -/
theorem lookup_tableOf {β : Type} (object : QJsonObject) (entry : QJsonValue → β) (name : String) :
    (tableOf object entry).lookup name =
      if name ∈ object.keys then some (entry (object.value name)) else none :=
  lookup_foldl_insert (fun name => entry (object.value name)) object.keys ∅ name

namespace SchedulerMetadata

/-- The object that was read, if one was. -/
def readObject (fromJson : List UInt8 → Option QJsonValue) (file : Option (List UInt8)) :
    Option QJsonObject :=
  ((file.bind fromJson).filter QJsonValue.isObject).map QJsonValue.toObject

/-- The answers about schedulers are those of an object with an entry for each of them. -/
structure ListsSchedulers (metadata : SchedulerMetadata) (schedulers : QJsonObject) : Prop where
  hasScheduler : ∀ name, metadata.hasScheduler name = true ↔ name ∈ schedulers.keys
  found : ∀ name, (metadata.scheduler name).found = true ↔ name ∈ schedulers.keys
  texts : ∀ name ∈ schedulers.keys,
    let entry := (schedulers.value name).toObject
    let info := metadata.scheduler name
    info.title = (entry.value "title").toString ∧
      info.tagline = (entry.value "tagline").toString ∧
      info.summary = (entry.value "summary").toString ∧
      info.hardware = (entry.value "hardware").toArray.map QJsonValue.toString ∧
      info.workloads = (entry.value "workloads").toArray.map QJsonValue.toString

/-- The answers about profiles are those of an object with an entry for each of them. -/
structure ListsProfiles (metadata : SchedulerMetadata) (profiles : QJsonObject) : Prop where
  found : ∀ name active, (metadata.profile name active).found = true ↔ name ∈ profiles.keys
  description : ∀ name ∈ profiles.keys, ∀ active,
    let entry := (profiles.value name).toObject
    let byScheduler := (entry.value "byScheduler").toObject
    (metadata.profile name active).description =
      if active ∈ byScheduler.keys then (byScheduler.value active).toString
      else (entry.value "description").toString

/-- A lookup in a table of scheduler entries. -/
theorem scheduler_eq {metadata : SchedulerMetadata} {schedulers : QJsonObject}
    (h : metadata.schedulers = tableOf schedulers schedulerEntry) (name : String) :
    metadata.scheduler name =
      if name ∈ schedulers.keys then schedulerEntry (schedulers.value name) else {} := by
  unfold scheduler
  rw [h, lookup_tableOf]
  by_cases hname : name ∈ schedulers.keys
  · rw [if_pos hname, if_pos hname]; rfl
  · rw [if_neg hname, if_neg hname]; rfl

/-- A table of scheduler entries answers as its object says. -/
theorem listsSchedulers_of_eq {metadata : SchedulerMetadata} {schedulers : QJsonObject}
    (h : metadata.schedulers = tableOf schedulers schedulerEntry) :
    metadata.ListsSchedulers schedulers := by
  constructor
  case hasScheduler =>
    intro name
    unfold SchedulerMetadata.hasScheduler
    rw [h, lookup_tableOf]
    simp
  case found =>
    intro name
    rw [scheduler_eq h]
    by_cases hname : name ∈ schedulers.keys
    · rw [if_pos hname]
      exact iff_of_true rfl hname
    · rw [if_neg hname]
      exact iff_of_false Bool.false_ne_true hname
  case texts =>
    intro name hname entry info
    have hinfo : info = schedulerEntry (schedulers.value name) :=
      (scheduler_eq h name).trans (if_pos hname)
    rw [hinfo]
    exact ⟨rfl, rfl, rfl, rfl, rfl⟩

/-- A table of profile entries answers as its object says. -/
theorem listsProfiles_of_eq {metadata : SchedulerMetadata} {profiles : QJsonObject}
    (h : metadata.profiles = tableOf profiles profileEntry) : metadata.ListsProfiles profiles := by
  constructor
  case found =>
    intro name active
    unfold profile
    rw [h, lookup_tableOf]
    by_cases hname : name ∈ profiles.keys
    · rw [if_pos hname]
      exact iff_of_true rfl hname
    · rw [if_neg hname]
      exact iff_of_false Bool.false_ne_true hname
  case description =>
    intro name hname active entry byScheduler
    unfold profile
    rw [h, lookup_tableOf, if_pos hname]
    change ((tableOf byScheduler QJsonValue.toString).lookup active).getD _ = _
    rw [lookup_tableOf]
    by_cases hactive : active ∈ byScheduler.keys
    · rw [if_pos hactive, if_pos hactive]; rfl
    · rw [if_neg hactive, if_neg hactive]; rfl

/-- A catalog that has read nothing finds nothing. -/
theorem unread_found (name active : String) :
    unread.hasScheduler name = false ∧ (unread.scheduler name).found = false ∧
      (unread.profile name active).found = false :=
  ⟨rfl, rfl, rfl⟩

/-- An object is read if the resource holds one. -/
theorem readObject_eq_some {fromJson : List UInt8 → Option QJsonValue} {file : Option (List UInt8)}
    {root : QJsonObject} :
    readObject fromJson file = some root ↔ ∃ data document, file = some data ∧
      fromJson data = some document ∧ document.isObject = true ∧ document.toObject = root := by
  unfold readObject
  simp only [Option.map_eq_some_iff, Option.filter_eq_some_iff, Option.bind_eq_some_iff]
  constructor
  · intro ⟨document, ⟨⟨data, hfile, hparse⟩, hobject⟩, hroot⟩
    exact ⟨data, document, hfile, hparse, hobject, hroot⟩
  · intro ⟨data, document, hfile, hparse, hobject, hroot⟩
    exact ⟨document, ⟨⟨data, hfile, hparse⟩, hobject⟩, hroot⟩

/-- An object that is read is flattened into the two tables. -/
theorem load_of_readObject {fromJson : List UInt8 → Option QJsonValue} {file : Option (List UInt8)}
    {root : QJsonObject} (h : readObject fromJson file = some root) :
    load fromJson file =
      { valid := true
        schedulers := tableOf (root.value "schedulers").toObject schedulerEntry
        profiles := tableOf (root.value "profiles").toObject profileEntry } := by
  obtain ⟨data, document, hfile, hparse, hobject, hroot⟩ := readObject_eq_some.mp h
  simp only [load, hfile, hparse, hobject, hroot]
  rfl

/-- Without an object the catalog stays as it was initialised. -/
theorem load_of_not_readObject {fromJson : List UInt8 → Option QJsonValue}
    {file : Option (List UInt8)} (h : readObject fromJson file = none) :
    load fromJson file = unread := by
  unfold load
  cases file with
  | none => rfl
  | some data =>
    dsimp only
    cases hparse : fromJson data with
    | none => rfl
    | some document =>
      cases hobject : document.isObject with
      | false => simp only [hobject]; rfl
      | true =>
        rw [readObject_eq_some.mpr ⟨data, document, rfl, hparse, hobject, rfl⟩] at h
        cases h

/-- Whatever the resource holds, the catalog is valid exactly if it was read and is an object. Then all
answers are those of the entries of that object, and otherwise nothing is found. -/
theorem load_agrees (fromJson : List UInt8 → Option QJsonValue) (file : Option (List UInt8)) :
    let metadata := load fromJson file
    (metadata.isValid = true ↔ ∃ data document,
        file = some data ∧ fromJson data = some document ∧ document.isObject = true) ∧
      match readObject fromJson file with
      | some root =>
        metadata.isValid = true ∧ metadata.ListsSchedulers (root.value "schedulers").toObject ∧
          metadata.ListsProfiles (root.value "profiles").toObject
      | none =>
        metadata.isValid = false ∧ ∀ name active, metadata.hasScheduler name = false ∧
          (metadata.scheduler name).found = false ∧ (metadata.profile name active).found = false := by
  intro metadata
  cases hread : readObject fromJson file with
  | some root =>
    have hload : metadata = _ := load_of_readObject hread
    obtain ⟨data, document, hfile, hparse, hobject, -⟩ := readObject_eq_some.mp hread
    rw [hload]
    exact ⟨iff_of_true rfl ⟨data, document, hfile, hparse, hobject⟩, rfl,
      listsSchedulers_of_eq rfl, listsProfiles_of_eq rfl⟩
  | none =>
    have hload : metadata = unread := load_of_not_readObject hread
    have hnone : ¬ ∃ data document,
        file = some data ∧ fromJson data = some document ∧ document.isObject = true := by
      intro ⟨data, document, hfile, hparse, hobject⟩
      rw [readObject_eq_some.mpr ⟨data, document, hfile, hparse, hobject, rfl⟩] at hread
      cases hread
    rw [hload]
    exact ⟨iff_of_false Bool.false_ne_true hnone, rfl, unread_found⟩

/-- An entry that is not an object is listed, with nothing in it. -/
example :
    let schedulers := QJsonValue.object ["scx_rusty"] (List.nodup_singleton _) fun _ => .null
    let root := QJsonValue.object ["schedulers"] (List.nodup_singleton _) fun _ => schedulers
    (load (fun _ => some root) (some [])).scheduler "scx_rusty" = { found := true } := by
  decide

end SchedulerMetadata

end ScxManager

import AifHandoff.Lib.Keyed
import AifHandoff.Shared.RuntimeStagePolicy
import Mathlib.Data.String.Basic

/-!
Which runtime profile a task runs on (`data/index.ts`).

A task may name a profile, a project names one per mode, and the caller may name a system
default. Three functions choose among them: one for a single task, one that leaves some
profiles out, and one for a list of tasks that reads projects, profiles and usage in bulk.
A `SELECT` without an order returns rows in the order of the table.
-/

namespace AifHandoff.Data.RuntimeProfiles

open Shared Shared.RuntimeStagePolicy

/-! ### Rows -/

structure RuntimeProfileRow where
  id : String
  projectId : Option String := none
  name : String
  runtimeId : String
  providerId : String
  transport : Option String := none
  baseUrl : Option String := none
  apiKeyEnvVar : Option String := none
  defaultModel : Option String := none
  headersJson : String := "\x7b\x7d"
  optionsJson : String := "\x7b\x7d"
  enabled : Bool := true
  runtimeLimitSnapshotJson : Option String := none
  runtimeLimitUpdatedAt : Option String := none
  createdAt : String
  updatedAt : String

inductive UsageEventOutcome where
  | success | missingUsage | failed
  deriving DecidableEq, Repr

/-- The columns of a usage event that the lookups read; `ν` is the type of numbers. -/
structure UsageEventRow (ν : Type) where
  profileId : Option String
  outcome : UsageEventOutcome
  inputTokens : Nat
  outputTokens : Nat
  totalTokens : Nat
  costUsd : Option ν
  createdAt : String

structure ProjectRow where
  id : String
  defaultTaskRuntimeProfileId : Option String
  defaultPlanRuntimeProfileId : Option String
  defaultReviewRuntimeProfileId : Option String
  defaultChatRuntimeProfileId : Option String

/-- `RuntimeResolvableTask`. -/
structure TaskRow where
  id : String
  projectId : String
  runtimeProfileId : Option String

/-- Primary keys are distinct, and none is empty. -/
structure PrimaryKeys (ids : List String) : Prop where
  distinct : ids.Nodup
  filled : "" ∉ ids

/-- The tables that the resolution reads. -/
structure Store (ν : Type) where
  tasks : List TaskRow
  projects : List ProjectRow
  runtimeProfiles : List RuntimeProfileRow
  usageEvents : List (UsageEventRow ν)
  taskKeys : PrimaryKeys (tasks.map (·.id))
  projectKeys : PrimaryKeys (projects.map (·.id))
  profileKeys : PrimaryKeys (runtimeProfiles.map (·.id))

/-- Readers of stored texts: the number of a JSON text, and the limit snapshot of a profile. -/
structure Env (ν σ : Type) extends PolicyEnv ν where
  readNumber : List Char → ν
  parseRuntimeLimitSnapshot : Option String → Option σ

variable {ν σ : Type}

namespace Store

variable (store : Store ν)

def findTaskById (id : String) : Option TaskRow := store.tasks.find? (·.id = id)

def findProjectById (id : String) : Option ProjectRow := store.projects.find? (·.id = id)

def findRuntimeProfileById (id : String) : Option RuntimeProfileRow :=
  store.runtimeProfiles.find? (·.id = id)

end Store

/-- The key under which a row is found. -/
theorem find?_key_eq {α : Type} {rows : List α} {key : α → String} {row : α}
    (keys : PrimaryKeys (rows.map key)) (inside : row ∈ rows) :
    rows.find? (key · = key row) = some row := by
  obtain ⟨distinct, -⟩ := keys
  induction rows with
  | nil => cases inside
  | cons first rest ih =>
    rw [List.map_cons, List.nodup_cons] at distinct
    rcases List.mem_cons.mp inside with rfl | later
    · simp
    · have other : ¬ key first = key row := by
        intro same
        exact distinct.1 (same ▸ List.mem_map_of_mem later)
      rw [List.find?_cons_of_neg (by simpa using other)]
      exact ih later distinct.2

theorem find?_key_empty {α : Type} {rows : List α} {key : α → String}
    (keys : PrimaryKeys (rows.map key)) : rows.find? (key · = "") = none := by
  rw [List.find?_eq_none]
  intro row inside empty
  exact keys.filled (of_decide_eq_true empty ▸ List.mem_map_of_mem inside)

/-! ### Usage of a profile -/

structure RuntimeProfileUsage (ν : Type) where
  inputTokens : Nat
  outputTokens : Nat
  totalTokens : Nat
  costUsd : Option ν

structure RuntimeProfileUsageState (ν : Type) where
  lastUsage : RuntimeProfileUsage ν
  lastUsageAt : String

def toRuntimeProfileUsage (row : UsageEventRow ν) : RuntimeProfileUsage ν where
  inputTokens := row.inputTokens
  outputTokens := row.outputTokens
  totalTokens := row.totalTokens
  costUsd := row.costUsd

/-- `max(created_at)` over the successful events of a profile. -/
def latestCreatedAt (events : List (UsageEventRow ν)) (profileId : String) : Option String :=
  ((events.filter fun event => event.profileId = some profileId ∧ event.outcome = .success).map
    (·.createdAt)).max?

/-- `latest_usage_by_profile`: one row per profile with a successful event. -/
def latestUsageByProfile (events : List (UsageEventRow ν)) (profileIds : List String) :
    List (String × String) :=
  profileIds.filterMap fun profileId => (latestCreatedAt events profileId).map (profileId, ·)

/-- The first row of each profile goes into the map. -/
def collectUsage (usageByProfileId : List (String × RuntimeProfileUsageState ν)) :
    List (UsageEventRow ν) → List (String × RuntimeProfileUsageState ν)
  | [] => usageByProfileId
  | row :: rows =>
    match row.profileId with
    | none => collectUsage usageByProfileId rows
    | some profileId =>
      if profileId.isEmpty || (usageByProfileId.lookup profileId).isSome then
        collectUsage usageByProfileId rows
      else
        collectUsage (Keyed.set Prod.fst usageByProfileId
          (profileId, ⟨toRuntimeProfileUsage row, row.createdAt⟩)) rows

def findLatestRuntimeProfileUsageByIds (events : List (UsageEventRow ν))
    (profileIds : List String) : List (String × RuntimeProfileUsageState ν) :=
  let uniqueProfileIds := (profileIds.filter (!·.isEmpty)).eraseDups
  if uniqueProfileIds.isEmpty then []
  else
    let latest := latestUsageByProfile events uniqueProfileIds
    -- The join does not ask for the outcome again: an event of another outcome at the same
    -- instant as the latest successful one takes part.
    collectUsage [] <| events.filter fun event => latest.any fun (profileId, createdAt) =>
      event.profileId = some profileId ∧ event.createdAt = createdAt

/-- The usage of one profile: its first event at the instant of its latest success. -/
def usageOf (events : List (UsageEventRow ν)) (profileId : String) :
    Option (RuntimeProfileUsageState ν) :=
  (events.find? fun event =>
    event.profileId = some profileId ∧ latestCreatedAt events profileId = some event.createdAt).map
    fun event => ⟨toRuntimeProfileUsage event, event.createdAt⟩

section Usage

variable {events rows : List (UsageEventRow ν)} {profileIds : List String} {profileId : String}

theorem collectUsage_lookup {found : List (String × RuntimeProfileUsageState ν)}
    (filled : profileId ≠ "") :
    (collectUsage found rows).lookup profileId =
      (found.lookup profileId).or ((rows.find? (·.profileId = some profileId)).map
        fun row => ⟨toRuntimeProfileUsage row, row.createdAt⟩) := by
  induction rows generalizing found with
  | nil => simp [collectUsage]
  | cons row rows ih =>
    rw [collectUsage]
    cases named : row.profileId with
    | none => simp [ih, named]
    | some other =>
      by_cases same : other = profileId
      · subst same
        have noSkip : other.isEmpty = false := by simpa using filled
        cases known : found.lookup other with
        | none => simp [noSkip, known, ih, Keyed.lookup_set, named]
        | some usage => simp [known, ih]
      · have notFirst : (row.profileId = some profileId) = False := by simp [named, same]
        simp only [List.find?_cons, notFirst, decide_false]
        split
        · exact ih
        · rw [ih, Keyed.lookup_set, if_neg (Ne.symm same)]

theorem mem_latestUsageByProfile_iff {createdAt : String} :
    (profileId, createdAt) ∈ latestUsageByProfile events profileIds ↔
      profileId ∈ profileIds ∧ latestCreatedAt events profileId = some createdAt := by
  simp only [latestUsageByProfile, List.mem_filterMap, Option.map_eq_some_iff, Prod.mk.injEq]
  constructor
  · rintro ⟨id, inside, at_, latest, rfl, rfl⟩
    exact ⟨inside, latest⟩
  · rintro ⟨inside, latest⟩
    exact ⟨profileId, inside, createdAt, latest, rfl, rfl⟩

/-- Usage read in bulk is the usage of each profile by itself. -/
theorem findLatestRuntimeProfileUsageByIds_lookup (filled : profileId ≠ "")
    (listed : profileId ∈ profileIds) :
    (findLatestRuntimeProfileUsageByIds events profileIds).lookup profileId =
      usageOf events profileId := by
  have unique : profileId ∈ (profileIds.filter (!·.isEmpty)).eraseDups := by
    simpa [List.mem_eraseDups, List.mem_filter, listed] using filled
  have someId : ((profileIds.filter (!·.isEmpty)).eraseDups).isEmpty = false :=
    List.isEmpty_eq_false_iff_exists_mem.mpr ⟨_, unique⟩
  rw [findLatestRuntimeProfileUsageByIds]
  simp only [someId, Bool.false_eq_true, if_false]
  rw [collectUsage_lookup filled, List.find?_filter, List.lookup_nil, Option.none_or, usageOf]
  congr 2
  funext event
  by_cases own : event.profileId = some profileId
  · simp only [own, true_and, and_true, decide_true, Bool.decide_eq_true]
    rw [Bool.eq_iff_iff, List.any_eq_true, decide_eq_true_eq]
    constructor
    · rintro ⟨⟨id, createdAt⟩, inside, joined⟩
      obtain ⟨same, at_⟩ : some profileId = some id ∧ event.createdAt = createdAt := by
        simpa using joined
      cases same
      rw [at_]
      exact (mem_latestUsageByProfile_iff.mp inside).2
    · intro latest
      exact ⟨(profileId, event.createdAt),
        mem_latestUsageByProfile_iff.mpr ⟨unique, latest⟩, by simp⟩
  · simp [own]

end Usage

/-! ### Profiles as they are answered -/

def parseRuntimeObject (env : Env ν σ) (raw : String) : Option (Record ν) :=
  if raw.isEmpty then none
  else match Json.parse env.readNumber raw.toList with
    | some (.obj fields) => some fields
    | _ => none

def parseRuntimeHeaders (env : Env ν σ) (raw : String) : List (String × String) :=
  ((parseRuntimeObject env raw).getD []).filterMap fun (key, value) =>
    if key = "__proto__" then none else (readString value).map (key, ·)

structure RuntimeProfile (ν σ : Type) where
  id : String
  projectId : Option String
  name : String
  runtimeId : String
  providerId : String
  transport : Option String
  baseUrl : Option String
  apiKeyEnvVar : Option String
  defaultModel : Option String
  headers : List (String × String)
  options : Record ν
  enabled : Bool
  runtimeLimitSnapshot : Option σ
  runtimeLimitUpdatedAt : Option String
  lastUsage : Option (RuntimeProfileUsage ν)
  lastUsageAt : Option String
  createdAt : String
  updatedAt : String

def toRuntimeProfileResponse (env : Env ν σ) (row : RuntimeProfileRow)
    (usageState : Option (RuntimeProfileUsageState ν)) : RuntimeProfile ν σ where
  id := row.id
  projectId := row.projectId
  name := row.name
  runtimeId := row.runtimeId
  providerId := row.providerId
  transport := row.transport
  baseUrl := row.baseUrl
  apiKeyEnvVar := row.apiKeyEnvVar
  defaultModel := row.defaultModel
  headers := parseRuntimeHeaders env row.headersJson
  options := (parseRuntimeObject env row.optionsJson).getD []
  enabled := row.enabled
  runtimeLimitSnapshot := env.parseRuntimeLimitSnapshot row.runtimeLimitSnapshotJson
  runtimeLimitUpdatedAt := row.runtimeLimitUpdatedAt
  lastUsage := usageState.map (·.lastUsage)
  lastUsageAt := usageState.map (·.lastUsageAt)
  createdAt := row.createdAt
  updatedAt := row.updatedAt

def runtimeProfileAllowedForStage (env : Env ν σ) (profile : RuntimeProfileRow)
    (stage : RuntimeStage) : Bool :=
  (evaluateRuntimeProfileStageCapability env.toPolicyEnv
    { id := profile.id, runtimeId := profile.runtimeId, providerId := profile.providerId,
      options := (parseRuntimeObject env profile.optionsJson).getD [] } stage).allowed

/-! ### Resolution -/

def getProjectRuntimeProfileId (project : Option ProjectRow) (mode : RuntimeProfileMode) :
    Option String :=
  match mode with
  | .chat => project.bind (·.defaultChatRuntimeProfileId)
  | .plan =>
    (project.bind (·.defaultPlanRuntimeProfileId)).or
      (project.bind (·.defaultTaskRuntimeProfileId))
  | .review =>
    (project.bind (·.defaultReviewRuntimeProfileId)).or
      (project.bind (·.defaultTaskRuntimeProfileId))
  | .task => project.bind (·.defaultTaskRuntimeProfileId)

inductive EffectiveRuntimeProfileSource where
  | taskOverride | projectDefault | systemDefault | none
  deriving DecidableEq, Repr

structure EffectiveRuntimeProfileSelection (ν σ : Type) where
  source : EffectiveRuntimeProfileSource
  profile : Option (RuntimeProfile ν σ)
  taskRuntimeProfileId : Option String
  projectRuntimeProfileId : Option String
  systemRuntimeProfileId : Option String
  stage : RuntimeStage
  profileMode : RuntimeProfileMode

structure Candidate where
  source : EffectiveRuntimeProfileSource
  profileId : Option String

/-- The candidates in their order of precedence. -/
def candidatesOf (taskRuntimeProfileId projectRuntimeProfileId systemRuntimeProfileId :
    Option String) : List Candidate :=
  [⟨.taskOverride, taskRuntimeProfileId⟩, ⟨.projectDefault, projectRuntimeProfileId⟩,
    ⟨.systemDefault, systemRuntimeProfileId⟩]

/-- The text, unless it is missing or empty. -/
def truthy (text : Option String) : Option String := text.filter (!·.isEmpty)

theorem truthy_some {text : String} (filled : text ≠ "") : truthy (some text) = some text := by
  simpa [truthy] using filled

@[simp] theorem truthy_empty : truthy (some "") = none := by decide

structure ResolveInput where
  taskId : Option String := none
  projectId : Option String := none
  mode : Option RuntimeStageOrProfileMode := none
  systemDefaultRuntimeProfileId : Option String := none

namespace ResolveInput

variable (input : ResolveInput) (store : Store ν)

def stage : RuntimeStage := normalizeRuntimeStage (input.mode.getD (.mode .task))

def profileMode : RuntimeProfileMode := runtimeProfileModeForStage (input.mode.getD (.mode .task))

def task : Option TaskRow := (truthy input.taskId).bind store.findTaskById

def project : Option ProjectRow :=
  (truthy (input.projectId.or ((input.task store).map (·.projectId)))).bind store.findProjectById

def taskRuntimeProfileId : Option String := (input.task store).bind (·.runtimeProfileId)

def projectRuntimeProfileId : Option String :=
  getProjectRuntimeProfileId (input.project store) input.profileMode

def candidates : List Candidate :=
  candidatesOf (input.taskRuntimeProfileId store) (input.projectRuntimeProfileId store)
    input.systemDefaultRuntimeProfileId

/-- The answer that all returns of the functions share. -/
def selection (source : EffectiveRuntimeProfileSource) (profile : Option (RuntimeProfile ν σ)) :
    EffectiveRuntimeProfileSelection ν σ where
  source := source
  profile := profile
  taskRuntimeProfileId := input.taskRuntimeProfileId store
  projectRuntimeProfileId := input.projectRuntimeProfileId store
  systemRuntimeProfileId := input.systemDefaultRuntimeProfileId
  stage := input.stage
  profileMode := input.profileMode

end ResolveInput

/-- A profile with its own usage. -/
def profileResponse (env : Env ν σ) (store : Store ν) (profile : RuntimeProfileRow) :
    RuntimeProfile ν σ :=
  toRuntimeProfileResponse env profile
    ((findLatestRuntimeProfileUsageByIds store.usageEvents [profile.id]).lookup profile.id)

/-- The loop of `resolveEffectiveRuntimeProfile`. -/
def resolveLoop (env : Env ν σ) (store : Store ν) (input : ResolveInput) :
    List Candidate → EffectiveRuntimeProfileSelection ν σ
  | [] => input.selection store .none none
  | candidate :: rest =>
    match truthy candidate.profileId with
    | none => resolveLoop env store input rest
    | some profileId =>
      match store.findRuntimeProfileById profileId with
      | none => resolveLoop env store input rest
      | some profile =>
        if !profile.enabled || !runtimeProfileAllowedForStage env profile input.stage then
          resolveLoop env store input rest
        else input.selection store candidate.source (some (profileResponse env store profile))

def resolveEffectiveRuntimeProfile (env : Env ν σ) (store : Store ν) (input : ResolveInput) :
    EffectiveRuntimeProfileSelection ν σ :=
  resolveLoop env store input (input.candidates store)

/-- The loop of `resolveEffectiveRuntimeProfileExcluding`. -/
def resolveExcludingLoop (env : Env ν σ) (store : Store ν) (input : ResolveInput)
    (excluded : List String) : List Candidate → EffectiveRuntimeProfileSelection ν σ
  | [] => input.selection store .none none
  | candidate :: rest =>
    match truthy candidate.profileId with
    | none => resolveExcludingLoop env store input excluded rest
    | some profileId =>
      if excluded.contains profileId then resolveExcludingLoop env store input excluded rest
      else match store.findRuntimeProfileById profileId with
        | none => resolveExcludingLoop env store input excluded rest
        | some profile =>
          if !profile.enabled || !runtimeProfileAllowedForStage env profile input.stage then
            resolveExcludingLoop env store input excluded rest
          else
            input.selection store candidate.source (some (profileResponse env store profile))

def resolveEffectiveRuntimeProfileExcluding (env : Env ν σ) (store : Store ν)
    (input : ResolveInput) (excludedRuntimeProfileIds : List String) :
    EffectiveRuntimeProfileSelection ν σ :=
  resolveExcludingLoop env store input excludedRuntimeProfileIds (input.candidates store)

/-! ### Resolution of a list -/

/-- What the bulk resolution reads before it goes through the tasks. -/
structure Bulk (ν : Type) where
  projectById : List (String × ProjectRow)
  candidatesByTaskId : List (String × List Candidate)
  profileById : List (String × RuntimeProfileRow)
  usageByProfileId : List (String × RuntimeProfileUsageState ν)

/-- `new Map(rows.map((row) => [row.id, row]))` of the rows `WHERE id IN ids`. -/
def rowsById {α : Type} (key : α → String) (rows : List α) (ids : List String) :
    List (String × α) :=
  Keyed.setAll Prod.fst [] ((rows.filter fun row => ids.contains (key row)).map
    fun row => (key row, row))

/-- The candidates of a task of the list. -/
def taskCandidates (projectById : List (String × ProjectRow)) (mode : RuntimeProfileMode)
    (systemRuntimeProfileId : Option String) (task : TaskRow) : List Candidate :=
  candidatesOf task.runtimeProfileId
    (getProjectRuntimeProfileId (projectById.lookup task.projectId) mode) systemRuntimeProfileId

def readBulk (store : Store ν) (taskRows : List TaskRow) (mode : RuntimeProfileMode)
    (systemRuntimeProfileId : Option String) : Bulk ν :=
  let projectById := rowsById (·.id) store.projects (taskRows.map (·.projectId)).eraseDups
  let candidates := taskCandidates projectById mode systemRuntimeProfileId
  let profileIds :=
    (taskRows.flatMap fun task => (candidates task).filterMap (truthy ·.profileId)).eraseDups
  { projectById
    candidatesByTaskId :=
      Keyed.setAll Prod.fst [] (taskRows.map fun task => (task.id, candidates task))
    profileById := rowsById (·.id) store.runtimeProfiles profileIds
    usageByProfileId := findLatestRuntimeProfileUsageByIds store.usageEvents profileIds }

/-- The loop over the candidates of one task of the list. -/
def resolveTaskLoop (env : Env ν σ) (bulk : Bulk ν) (stage : RuntimeStage) :
    List Candidate → Option (EffectiveRuntimeProfileSource × RuntimeProfile ν σ)
  | [] => none
  | candidate :: rest =>
    match truthy candidate.profileId with
    | none => resolveTaskLoop env bulk stage rest
    | some profileId =>
      match bulk.profileById.lookup profileId with
      | none => resolveTaskLoop env bulk stage rest
      | some profile =>
        if !profile.enabled || !runtimeProfileAllowedForStage env profile stage then
          resolveTaskLoop env bulk stage rest
        else
          some (candidate.source,
            toRuntimeProfileResponse env profile (bulk.usageByProfileId.lookup profile.id))

/-- What the list resolution does for one task. -/
def resolveTask (env : Env ν σ) (bulk : Bulk ν) (stage : RuntimeStage)
    (mode : RuntimeProfileMode) (systemRuntimeProfileId : Option String)
    (results : List (String × EffectiveRuntimeProfileSelection ν σ)) (task : TaskRow) :
    List (String × EffectiveRuntimeProfileSelection ν σ) :=
  let project := bulk.projectById.lookup task.projectId
  let selection (source : EffectiveRuntimeProfileSource) (profile : Option (RuntimeProfile ν σ)) :
      EffectiveRuntimeProfileSelection ν σ :=
    { source, profile, taskRuntimeProfileId := task.runtimeProfileId
      projectRuntimeProfileId := getProjectRuntimeProfileId project mode
      systemRuntimeProfileId, stage, profileMode := mode }
  let candidates := (bulk.candidatesByTaskId.lookup task.id).getD []
  let results := match resolveTaskLoop env bulk stage candidates with
    | some (source, profile) =>
      Keyed.set Prod.fst results (task.id, selection source (some profile))
    | none => results
  if (results.lookup task.id).isSome then results
  else Keyed.set Prod.fst results (task.id, selection .none none)

def resolveEffectiveRuntimeProfilesForTasks (env : Env ν σ) (store : Store ν)
    (taskRows : List TaskRow) (mode? : Option RuntimeStageOrProfileMode)
    (systemDefaultRuntimeProfileId : Option String) :
    List (String × EffectiveRuntimeProfileSelection ν σ) :=
  let stage := normalizeRuntimeStage (mode?.getD (.mode .task))
  let mode := runtimeProfileModeForStage (mode?.getD (.mode .task))
  if taskRows.isEmpty then []
  else
    let bulk := readBulk store taskRows mode systemDefaultRuntimeProfileId
    taskRows.foldl (resolveTask env bulk stage mode systemDefaultRuntimeProfileId) []

/-! ### The first candidate that qualifies -/

section Selection

variable {env : Env ν σ} {store : Store ν} {input : ResolveInput} {excluded : List String}
  {candidates : List Candidate} {candidate : Candidate} {profile : RuntimeProfileRow}
  {selection : EffectiveRuntimeProfileSelection ν σ}

/-- The task that the input names. -/
structure OfTask (store : Store ν) (input : ResolveInput) (task : TaskRow) : Prop where
  stored : task ∈ store.tasks
  named : input.taskId = some task.id

/-- The project of the input: the one it names, or that of its task. -/
structure OfProject (store : Store ν) (input : ResolveInput) (project : ProjectRow) : Prop where
  stored : project ∈ store.projects
  named : input.projectId = some project.id ∨
    input.projectId = none ∧ ∃ task, OfTask store input task ∧ task.projectId = project.id

/-- The default of a project for a mode. Planning and review fall back to the default for
tasks where they have none of their own; chat does not. -/
inductive DefaultsTo (project : ProjectRow) (profileId : String) : RuntimeProfileMode → Prop where
  | chat (own : project.defaultChatRuntimeProfileId = some profileId) :
      DefaultsTo project profileId .chat
  | task (own : project.defaultTaskRuntimeProfileId = some profileId) :
      DefaultsTo project profileId .task
  | plan (own : project.defaultPlanRuntimeProfileId = some profileId) :
      DefaultsTo project profileId .plan
  | planAsTask (noOwn : project.defaultPlanRuntimeProfileId = none)
      (ofTask : project.defaultTaskRuntimeProfileId = some profileId) :
      DefaultsTo project profileId .plan
  | review (own : project.defaultReviewRuntimeProfileId = some profileId) :
      DefaultsTo project profileId .review
  | reviewAsTask (noOwn : project.defaultReviewRuntimeProfileId = none)
      (ofTask : project.defaultTaskRuntimeProfileId = some profileId) :
      DefaultsTo project profileId .review

/-- What each source of a profile offers for an input. -/
inductive Offers (store : Store ν) (input : ResolveInput) :
    EffectiveRuntimeProfileSource → String → Prop where
  | taskOverride {task : TaskRow} {profileId : String} (own : OfTask store input task)
      (named : task.runtimeProfileId = some profileId) : Offers store input .taskOverride profileId
  | projectDefault {project : ProjectRow} {profileId : String}
      (own : OfProject store input project)
      (named : DefaultsTo project profileId input.profileMode) :
      Offers store input .projectDefault profileId
  | systemDefault {profileId : String}
      (named : input.systemDefaultRuntimeProfileId = some profileId) :
      Offers store input .systemDefault profileId

/-- The place of a source in the order of precedence. -/
def EffectiveRuntimeProfileSource.precedence : EffectiveRuntimeProfileSource → Nat
  | .taskOverride => 0
  | .projectDefault => 1
  | .systemDefault => 2
  | .none => 3

/-- The source offers this profile, which is in the table, enabled, allowed for the stage
and not excluded. -/
structure Qualifies (env : Env ν σ) (store : Store ν) (input : ResolveInput)
    (excluded : List String) (source : EffectiveRuntimeProfileSource)
    (profile : RuntimeProfileRow) : Prop where
  offered : Offers store input source profile.id
  stored : profile ∈ store.runtimeProfiles
  enabled : profile.enabled = true
  allowed : runtimeProfileAllowedForStage env profile input.stage = true
  included : profile.id ∉ excluded

/-- The selection is that of the first source whose profile qualifies, and the empty one
where none qualifies. -/
inductive SelectsFirst (env : Env ν σ) (store : Store ν) (input : ResolveInput)
    (excluded : List String) (selection : EffectiveRuntimeProfileSelection ν σ) : Prop where
  | found {source : EffectiveRuntimeProfileSource} {profile : RuntimeProfileRow}
      (qualifies : Qualifies env store input excluded source profile)
      (first : ∀ earlier, earlier.precedence < source.precedence →
        ∀ other, ¬ Qualifies env store input excluded earlier other)
      (sourceOf : selection.source = source)
      (profileOf : selection.profile = some (toRuntimeProfileResponse env profile
        (usageOf store.usageEvents profile.id))) :
      SelectsFirst env store input excluded selection
  | none (noneQualifies : ∀ source profile, ¬ Qualifies env store input excluded source profile)
      (sourceOf : selection.source = .none) (profileOf : selection.profile = none) :
      SelectsFirst env store input excluded selection

/-- The candidate names this profile, which is in the table, enabled, allowed for the stage
and not excluded. -/
structure Eligible (env : Env ν σ) (store : Store ν) (stage : RuntimeStage)
    (excluded : List String) (candidate : Candidate) (profile : RuntimeProfileRow) : Prop where
  named : candidate.profileId = some profile.id
  stored : profile ∈ store.runtimeProfiles
  enabled : profile.enabled = true
  allowed : runtimeProfileAllowedForStage env profile stage = true
  included : profile.id ∉ excluded

/-- The selection of the first candidate of a list that qualifies, the empty one where there
is none. -/
inductive PicksFirst (env : Env ν σ) (store : Store ν) (input : ResolveInput)
    (excluded : List String) :
    List Candidate → EffectiveRuntimeProfileSelection ν σ → Prop where
  | found {earlier later : List Candidate} {candidate : Candidate} {profile : RuntimeProfileRow}
      (earlierNot : ∀ other ∈ earlier, ∀ p, ¬ Eligible env store input.stage excluded other p)
      (eligible : Eligible env store input.stage excluded candidate profile) :
      PicksFirst env store input excluded (earlier ++ candidate :: later)
        (input.selection store candidate.source (some (profileResponse env store profile)))
  | none {candidates : List Candidate}
      (allNot : ∀ other ∈ candidates, ∀ p, ¬ Eligible env store input.stage excluded other p) :
      PicksFirst env store input excluded candidates (input.selection store .none none)

theorem PicksFirst.skip
    (notThis : ∀ p, ¬ Eligible env store input.stage excluded candidate p)
    (picks : PicksFirst env store input excluded candidates selection) :
    PicksFirst env store input excluded (candidate :: candidates) selection := by
  cases picks with
  | @found earlier later _ _ earlierNot eligible =>
    rw [← List.cons_append]
    exact .found (List.forall_mem_cons.mpr ⟨notThis, earlierNot⟩) eligible
  | none allNot => exact .none (List.forall_mem_cons.mpr ⟨notThis, allNot⟩)

theorem Eligible.truthy_profileId {stage : RuntimeStage}
    (eligible : Eligible env store stage excluded candidate profile) :
    truthy candidate.profileId = some profile.id := by
  have filled : profile.id ≠ "" := fun empty =>
    store.profileKeys.filled (empty ▸ List.mem_map_of_mem eligible.stored)
  rw [eligible.named, truthy_some filled]

theorem Eligible.find {stage : RuntimeStage}
    (eligible : Eligible env store stage excluded candidate profile) :
    store.findRuntimeProfileById profile.id = some profile :=
  find?_key_eq store.profileKeys eligible.stored

theorem eligible_of_find {stage : RuntimeStage} {profileId : String}
    (named : truthy candidate.profileId = some profileId)
    (found : store.findRuntimeProfileById profileId = some profile)
    (enabled : profile.enabled = true)
    (allowed : runtimeProfileAllowedForStage env profile stage = true)
    (included : profileId ∉ excluded) :
    Eligible env store stage excluded candidate profile := by
  have same : profile.id = profileId := by
    simpa using List.find?_some found
  subst same
  exact ⟨(Option.filter_eq_some_iff.mp named).1, List.mem_of_find?_eq_some found, enabled, allowed,
    included⟩

/-- The excluding loop selects the first candidate that qualifies. -/
theorem resolveExcludingLoop_picksFirst (candidates : List Candidate) :
    PicksFirst env store input excluded candidates
      (resolveExcludingLoop env store input excluded candidates) := by
  induction candidates with
  | nil => exact .none (by simp)
  | cons candidate rest ih =>
    rw [resolveExcludingLoop]
    cases named : truthy candidate.profileId with
    | none =>
      refine ih.skip fun p eligible => ?_
      rw [eligible.truthy_profileId] at named
      cases named
    | some profileId =>
      by_cases out : profileId ∈ excluded
      · simp only [List.contains_eq_mem, out, decide_true, if_true]
        refine ih.skip fun p eligible => eligible.included ?_
        rw [eligible.truthy_profileId] at named
        cases named
        exact out
      · simp only [List.contains_eq_mem, out, decide_false, Bool.false_eq_true, if_false]
        cases found : store.findRuntimeProfileById profileId with
        | none =>
          refine ih.skip fun p eligible => ?_
          rw [eligible.truthy_profileId] at named
          cases named
          rw [eligible.find] at found
          cases found
        | some profile =>
          by_cases good : profile.enabled = true ∧
              runtimeProfileAllowedForStage env profile input.stage = true
          · obtain ⟨enabled, allowed⟩ := good
            simp only [enabled, allowed, Bool.not_true, Bool.or_false, Bool.false_eq_true,
              if_false]
            rw [← List.nil_append (candidate :: rest)]
            exact .found (by simp) (eligible_of_find named found enabled allowed out)
          · have bad : (!profile.enabled ||
                !runtimeProfileAllowedForStage env profile input.stage) = true := by
              rcases not_and_or.mp good with off | denied
              · simp [off]
              · simp [denied]
            simp only [bad, if_true]
            refine ih.skip fun p eligible => good ?_
            rw [eligible.truthy_profileId] at named
            cases named
            rw [eligible.find] at found
            cases found
            exact ⟨eligible.enabled, eligible.allowed⟩

/-! ### The candidates are what the sources offer -/

theorem ofTask_iff {task : TaskRow} : OfTask store input task ↔ input.task store = some task := by
  rw [ResolveInput.task]
  constructor
  · intro ⟨stored, named⟩
    have filled : task.id ≠ "" := fun empty =>
      store.taskKeys.filled (empty ▸ List.mem_map_of_mem stored)
    rw [named, truthy_some filled]
    exact find?_key_eq store.taskKeys stored
  · intro found
    obtain ⟨id, named, found⟩ := Option.bind_eq_some_iff.mp found
    have same : task.id = id := by simpa using List.find?_some found
    exact ⟨List.mem_of_find?_eq_some found, same ▸ (Option.filter_eq_some_iff.mp named).1⟩

theorem ofProject_iff {project : ProjectRow} :
    OfProject store input project ↔ input.project store = some project := by
  rw [ResolveInput.project]
  constructor
  · intro ⟨stored, named⟩
    have filled : project.id ≠ "" := fun empty =>
      store.projectKeys.filled (empty ▸ List.mem_map_of_mem stored)
    have asked : input.projectId.or ((input.task store).map (·.projectId)) = some project.id := by
      rcases named with named | ⟨unnamed, task, own, inside⟩
      · rw [named, Option.some_or]
      · rw [unnamed, Option.none_or, ofTask_iff.mp own, Option.map_some, inside]
    rw [asked, truthy_some filled]
    exact find?_key_eq store.projectKeys stored
  · intro found
    obtain ⟨id, named, found⟩ := Option.bind_eq_some_iff.mp found
    have same : project.id = id := by simpa using List.find?_some found
    subst same
    refine ⟨List.mem_of_find?_eq_some found, ?_⟩
    have asked := (Option.filter_eq_some_iff.mp named).1
    rcases Option.or_eq_some_iff.mp asked with named | ⟨unnamed, ofTask⟩
    · exact .inl named
    · obtain ⟨task, isTask, inside⟩ := Option.map_eq_some_iff.mp ofTask
      exact .inr ⟨unnamed, task, ofTask_iff.mpr isTask, inside⟩

theorem defaultsTo_iff {project : ProjectRow} {mode : RuntimeProfileMode} {profileId : String} :
    DefaultsTo project profileId mode ↔
      getProjectRuntimeProfileId (some project) mode = some profileId := by
  constructor
  · intro defaults
    cases defaults with
    | chat own => exact own
    | task own => exact own
    | plan own => simp [getProjectRuntimeProfileId, own]
    | planAsTask noOwn ofTask => simp [getProjectRuntimeProfileId, noOwn, ofTask]
    | review own => simp [getProjectRuntimeProfileId, own]
    | reviewAsTask noOwn ofTask => simp [getProjectRuntimeProfileId, noOwn, ofTask]
  · intro read
    cases mode with
    | chat => exact .chat read
    | task => exact .task read
    | plan =>
      rcases Option.or_eq_some_iff.mp read with own | ⟨noOwn, ofTask⟩
      · exact .plan own
      · exact .planAsTask noOwn ofTask
    | review =>
      rcases Option.or_eq_some_iff.mp read with own | ⟨noOwn, ofTask⟩
      · exact .review own
      · exact .reviewAsTask noOwn ofTask

theorem projectRuntimeProfileId_iff {profileId : String} :
    input.projectRuntimeProfileId store = some profileId ↔
      ∃ project, OfProject store input project ∧
        DefaultsTo project profileId input.profileMode := by
  rw [ResolveInput.projectRuntimeProfileId]
  simp only [ofProject_iff, defaultsTo_iff]
  cases found : input.project store with
  | some project => simp
  | none => cases input.profileMode <;> simp [getProjectRuntimeProfileId]

theorem offers_iff {source : EffectiveRuntimeProfileSource} {profileId : String} :
    Offers store input source profileId ↔
      ⟨source, some profileId⟩ ∈ input.candidates store := by
  simp only [ResolveInput.candidates, candidatesOf, List.mem_cons, List.not_mem_nil, or_false,
    Candidate.mk.injEq]
  constructor
  · intro offers
    cases offers with
    | taskOverride own named =>
      exact .inl ⟨rfl, by rw [ResolveInput.taskRuntimeProfileId, ofTask_iff.mp own]; exact named.symm⟩
    | projectDefault own named =>
      exact .inr (.inl ⟨rfl, (projectRuntimeProfileId_iff.mpr ⟨_, own, named⟩).symm⟩)
    | systemDefault named => exact .inr (.inr ⟨rfl, named.symm⟩)
  · rintro (⟨rfl, named⟩ | ⟨rfl, named⟩ | ⟨rfl, named⟩)
    · obtain ⟨task, isTask, named⟩ := Option.bind_eq_some_iff.mp named.symm
      exact .taskOverride (ofTask_iff.mpr isTask) named
    · obtain ⟨project, own, named⟩ := projectRuntimeProfileId_iff.mp named.symm
      exact .projectDefault own named
    · exact .systemDefault named.symm

theorem qualifies_iff {source : EffectiveRuntimeProfileSource} :
    Qualifies env store input excluded source profile ↔
      ∃ candidate ∈ input.candidates store, candidate.source = source ∧
        Eligible env store input.stage excluded candidate profile := by
  constructor
  · intro ⟨offered, stored, enabled, allowed, included⟩
    exact ⟨_, offers_iff.mp offered, rfl, rfl, stored, enabled, allowed, included⟩
  · rintro ⟨⟨_, profileId⟩, inside, rfl, eligible⟩
    obtain rfl : profileId = some profile.id := eligible.named
    exact ⟨offers_iff.mpr inside, eligible.stored, eligible.enabled, eligible.allowed,
      eligible.included⟩

theorem candidates_pairwise (input : ResolveInput) (store : Store ν) :
    (input.candidates store).Pairwise
      fun one other => one.source.precedence < other.source.precedence := by
  simp [ResolveInput.candidates, candidatesOf, EffectiveRuntimeProfileSource.precedence]

/-- A pick from the list of the candidates is the selection of the first source that
qualifies. -/
theorem PicksFirst.selectsFirst
    (picks : PicksFirst env store input excluded (input.candidates store) selection) :
    SelectsFirst env store input excluded selection := by
  generalize listed : input.candidates store = candidates at picks
  cases picks with
  | @found earlier later candidate profile earlierNot eligible =>
    have ordered := candidates_pairwise input store
    rw [listed, List.pairwise_append] at ordered
    obtain ⟨-, after, -⟩ := ordered
    have filled : profile.id ≠ "" := fun empty =>
      store.profileKeys.filled (empty ▸ List.mem_map_of_mem eligible.stored)
    refine .found (qualifies_iff.mpr ⟨candidate, by simp [listed], rfl, eligible⟩) ?_ rfl ?_
    · intro source before other qualifies
      obtain ⟨rival, inside, rfl, rivalEligible⟩ := qualifies_iff.mp qualifies
      rw [listed, List.mem_append, List.mem_cons] at inside
      rcases inside with inside | rfl | inside
      · exact earlierNot rival inside other rivalEligible
      · exact lt_irrefl _ before
      · exact lt_asymm before (List.rel_of_pairwise_cons after inside)
    · simp only [ResolveInput.selection, profileResponse,
        findLatestRuntimeProfileUsageByIds_lookup filled List.mem_cons_self]
  | none allNot =>
    refine .none (fun source other qualifies => ?_) rfl rfl
    obtain ⟨rival, inside, -, eligible⟩ := qualifies_iff.mp qualifies
    exact allNot rival (listed ▸ inside) other eligible

theorem resolveExcludingLoop_nil (candidates : List Candidate) :
    resolveExcludingLoop env store input [] candidates =
      resolveLoop env store input candidates := by
  induction candidates with
  | nil => rfl
  | cons candidate rest ih =>
    rw [resolveExcludingLoop, resolveLoop]
    simp only [List.contains_nil, Bool.false_eq_true, if_false, ih]

end Selection

/-! ### The list agrees with the single task -/

section Bulk

variable {env : Env ν σ} {store : Store ν} {taskRows : List TaskRow}
  {mode : RuntimeProfileMode} {system : Option String}

theorem rowsById_lookup {α : Type} {key : α → String} {rows : List α} {ids : List String}
    {id : String} (keys : PrimaryKeys (rows.map key)) (wanted : id ∈ ids) :
    (rowsById key rows ids).lookup id = rows.find? (key · = id) := by
  have sub : ((rows.filter fun row => ids.contains (key row)).map key).Nodup :=
    keys.distinct.sublist (List.filter_sublist.map key)
  have fresh : (([] ++ (rows.filter fun row => ids.contains (key row)).map
      fun row => (key row, row)).map Prod.fst).Nodup := by
    simpa [Function.comp_def] using sub
  rw [rowsById, Keyed.setAll_of_nodup fresh, List.nil_append, Keyed.lookup_map_key,
    List.find?_filter]
  congr 1
  funext row
  by_cases same : key row = id
  · simp [same, wanted]
  · simp [same]

/-- The input of the single function that a task of the list stands for. -/
structure Asks (input : ResolveInput) (task : TaskRow)
    (mode? : Option RuntimeStageOrProfileMode) (system : Option String) : Prop where
  taskId : input.taskId = some task.id
  projectId : input.projectId = none ∨ input.projectId = some task.projectId
  mode : input.mode = mode?
  system : input.systemDefaultRuntimeProfileId = system

variable {input : ResolveInput} {task : TaskRow} {mode? : Option RuntimeStageOrProfileMode}

theorem Asks.task_eq (asks : Asks input task mode? system) (stored : task ∈ store.tasks) :
    input.task store = some task :=
  ofTask_iff.mp ⟨stored, asks.taskId⟩

theorem Asks.project_eq (asks : Asks input task mode? system) (stored : task ∈ store.tasks) :
    input.project store = store.findProjectById task.projectId := by
  have asked : input.projectId.or ((input.task store).map (·.projectId)) =
      some task.projectId := by
    rw [asks.task_eq stored]
    rcases asks.projectId with none' | some' <;> simp [*]
  rw [ResolveInput.project, asked]
  by_cases empty : task.projectId = ""
  · rw [empty, truthy_empty]
    exact (find?_key_empty store.projectKeys).symm
  · rw [truthy_some empty]
    rfl

theorem readBulk_projectById (listed : task ∈ taskRows) :
    (readBulk store taskRows mode system).projectById.lookup task.projectId =
      store.findProjectById task.projectId :=
  rowsById_lookup store.projectKeys (List.mem_eraseDups.mpr (List.mem_map_of_mem listed))

theorem readBulk_candidatesByTaskId (rowsStored : ∀ task ∈ taskRows, task ∈ store.tasks)
    (listed : task ∈ taskRows) :
    (readBulk store taskRows mode system).candidatesByTaskId.lookup task.id =
      some (taskCandidates (readBulk store taskRows mode system).projectById mode system task) := by
  refine Keyed.lookup_setAll_rows taskRows (fun other inside same => ?_) (.inl listed)
  exact List.inj_on_of_nodup_map store.taskKeys.distinct (rowsStored other inside)
    (rowsStored task listed) same

theorem readBulk_reads {candidate : Candidate} {profileId : String} (listed : task ∈ taskRows)
    (inside : candidate ∈
      taskCandidates (readBulk store taskRows mode system).projectById mode system task)
    (named : truthy candidate.profileId = some profileId) :
    (readBulk store taskRows mode system).profileById.lookup profileId =
        store.findRuntimeProfileById profileId ∧
      (readBulk store taskRows mode system).usageByProfileId.lookup profileId =
        (findLatestRuntimeProfileUsageByIds store.usageEvents [profileId]).lookup profileId := by
  have filled : profileId ≠ "" := by
    simpa using (Option.filter_eq_some_iff.mp named).2
  have wanted : profileId ∈ (taskRows.flatMap fun task => (taskCandidates
      (readBulk store taskRows mode system).projectById mode system task).filterMap
        (truthy ·.profileId)).eraseDups :=
    List.mem_eraseDups.mpr (List.mem_flatMap.mpr
      ⟨task, listed, List.mem_filterMap.mpr ⟨candidate, inside, named⟩⟩)
  refine ⟨rowsById_lookup store.profileKeys wanted, ?_⟩
  rw [findLatestRuntimeProfileUsageByIds_lookup filled List.mem_cons_self]
  exact findLatestRuntimeProfileUsageByIds_lookup filled wanted

/-- The loop over the rows that were read in bulk answers as the loop that reads them one
by one. -/
theorem resolveLoop_eq {bulk : Bulk ν} {candidates : List Candidate}
    (reads : ∀ candidate ∈ candidates, ∀ profileId, truthy candidate.profileId = some profileId →
      bulk.profileById.lookup profileId = store.findRuntimeProfileById profileId ∧
      bulk.usageByProfileId.lookup profileId =
        (findLatestRuntimeProfileUsageByIds store.usageEvents [profileId]).lookup profileId) :
    resolveLoop env store input candidates =
      match resolveTaskLoop env bulk input.stage candidates with
      | some (source, profile) => input.selection store source (some profile)
      | none => input.selection store .none none := by
  induction candidates with
  | nil => rfl
  | cons candidate rest ih =>
    have onRest := ih fun other later => reads other (List.mem_cons_of_mem _ later)
    rw [resolveLoop, resolveTaskLoop]
    cases named : truthy candidate.profileId with
    | none => exact onRest
    | some profileId =>
      obtain ⟨sameProfile, sameUsage⟩ := reads candidate List.mem_cons_self profileId named
      simp only [sameProfile]
      cases found : store.findRuntimeProfileById profileId with
      | none => exact onRest
      | some profile =>
        have isRow : profile.id = profileId := by
          simpa using List.find?_some found
        simp only [profileResponse, isRow, sameUsage]
        split
        · exact onRest
        · rfl

/-- The answer for a task of the list, once set, is that of the single function. -/
theorem resolveTask_lookup (results : List (String × EffectiveRuntimeProfileSelection ν σ))
    (id : String) (rowsStored : ∀ task ∈ taskRows, task ∈ store.tasks)
    (listed : task ∈ taskRows) (asks : Asks input task mode? system)
    (before : results.lookup task.id = none ∨
      results.lookup task.id = some (resolveEffectiveRuntimeProfile env store input)) :
    (resolveTask env (readBulk store taskRows input.profileMode system) input.stage
        input.profileMode system results task).lookup id =
      if id = task.id then some (resolveEffectiveRuntimeProfile env store input)
      else results.lookup id := by
  have stored := rowsStored task listed
  have sameCandidates : input.candidates store = taskCandidates
      (readBulk store taskRows input.profileMode system).projectById input.profileMode system
        task := by
    rw [ResolveInput.candidates, ResolveInput.taskRuntimeProfileId,
      ResolveInput.projectRuntimeProfileId, asks.project_eq stored, asks.task_eq stored,
      asks.system, taskCandidates, readBulk_projectById listed]
    rfl
  have single : resolveEffectiveRuntimeProfile env store input =
      match resolveTaskLoop env (readBulk store taskRows input.profileMode system) input.stage
        (input.candidates store) with
      | some (source, profile) => input.selection store source (some profile)
      | none => input.selection store .none none := by
    refine resolveLoop_eq fun candidate inside profileId named => ?_
    rw [sameCandidates] at inside
    exact readBulk_reads listed inside named
  have selection : ∀ source (profile : Option (RuntimeProfile ν σ)),
      input.selection store source profile =
        { source, profile, taskRuntimeProfileId := task.runtimeProfileId
          projectRuntimeProfileId := getProjectRuntimeProfileId
            ((readBulk store taskRows input.profileMode system).projectById.lookup task.projectId)
            input.profileMode
          systemRuntimeProfileId := system, stage := input.stage
          profileMode := input.profileMode } := by
    intro source profile
    rw [ResolveInput.selection, ResolveInput.taskRuntimeProfileId,
      ResolveInput.projectRuntimeProfileId, asks.project_eq stored, asks.task_eq stored,
      asks.system, readBulk_projectById listed]
    rfl
  rw [resolveTask, readBulk_candidatesByTaskId rowsStored listed]
  simp only [Option.getD_some, ← sameCandidates, ← selection]
  cases picked : resolveTaskLoop env (readBulk store taskRows input.profileMode system)
      input.stage (input.candidates store) with
  | some pick =>
    rw [picked] at single
    simp [Keyed.lookup_set, single]
  | none =>
    rw [picked] at single
    simp only at single ⊢
    rcases before with missing | there
    · simp [missing, Keyed.lookup_set, single]
    · simp only [there, Option.isSome_some, if_true]
      split
      next same => rw [same, there]
      next => rfl

end Bulk

section Agreement

variable {env : Env ν σ} {store : Store ν} {taskRows : List TaskRow} {task : TaskRow}
  {mode? : Option RuntimeStageOrProfileMode} {system : Option String}

/-- The input of the single function for a task of the list. -/
def inputOf (mode? : Option RuntimeStageOrProfileMode) (system : Option String)
    (task : TaskRow) : ResolveInput :=
  { taskId := some task.id, mode := mode?, systemDefaultRuntimeProfileId := system }

/-- The answers so far are those of the single function. -/
def Faithful (env : Env ν σ) (store : Store ν) (taskRows : List TaskRow)
    (mode? : Option RuntimeStageOrProfileMode) (system : Option String)
    (results : List (String × EffectiveRuntimeProfileSelection ν σ)) : Prop :=
  ∀ task ∈ taskRows, results.lookup task.id = none ∨ results.lookup task.id =
    some (resolveEffectiveRuntimeProfile env store (inputOf mode? system task))

/-- A run over some of the tasks answers those, and keeps the answers there are. -/
theorem foldl_resolveTask_lookup (rowsStored : ∀ task ∈ taskRows, task ∈ store.tasks)
    (listed : task ∈ taskRows) (rows : List TaskRow) (sub : ∀ row ∈ rows, row ∈ taskRows)
    {results : List (String × EffectiveRuntimeProfileSelection ν σ)}
    (faithful : Faithful env store taskRows mode? system results)
    (answered : task ∈ rows ∨ results.lookup task.id =
      some (resolveEffectiveRuntimeProfile env store (inputOf mode? system task))) :
    (rows.foldl (resolveTask env
        (readBulk store taskRows (runtimeProfileModeForStage (mode?.getD (.mode .task))) system)
        (normalizeRuntimeStage (mode?.getD (.mode .task)))
        (runtimeProfileModeForStage (mode?.getD (.mode .task))) system) results).lookup task.id =
      some (resolveEffectiveRuntimeProfile env store (inputOf mode? system task)) := by
  induction rows generalizing results with
  | nil => simpa using answered
  | cons row rest ih =>
    have rowListed := sub row List.mem_cons_self
    have asks : Asks (inputOf mode? system row) row mode? system := ⟨rfl, .inl rfl, rfl, rfl⟩
    have after (id : String) := resolveTask_lookup results id rowsStored rowListed asks
      (faithful row rowListed)
    have sameRow : ∀ other ∈ taskRows, other.id = row.id → other = row :=
      fun other inside same => List.inj_on_of_nodup_map store.taskKeys.distinct
        (rowsStored other inside) (rowsStored row rowListed) same
    rw [List.foldl_cons]
    refine ih (fun other later => sub other (List.mem_cons_of_mem _ later)) ?_ ?_
    · intro other inside
      by_cases same : other.id = row.id
      · rw [sameRow other inside same]
        exact .inr ((after row.id).trans (if_pos rfl))
      · exact (faithful other inside).imp ((after other.id).trans (if_neg same)).trans
          ((after other.id).trans (if_neg same)).trans
    · by_cases same : task.id = row.id
      · rw [sameRow task listed same]
        exact .inr ((after row.id).trans (if_pos rfl))
      · refine answered.imp (fun inside => ?_) ((after task.id).trans (if_neg same)).trans
        rcases List.mem_cons.mp inside with rfl | later
        · exact absurd rfl same
        · exact later

theorem Asks.resolve_eq {input input' : ResolveInput} (stored : task ∈ store.tasks)
    (asks : Asks input task mode? system) (asks' : Asks input' task mode? system) :
    resolveEffectiveRuntimeProfile env store input =
      resolveEffectiveRuntimeProfile env store input' := by
  have rowsStored : ∀ row ∈ [task], row ∈ store.tasks := by simpa using stored
  have sameMode : input.profileMode = input'.profileMode := by
    rw [ResolveInput.profileMode, ResolveInput.profileMode, asks.mode, asks'.mode]
  have sameStage : input.stage = input'.stage := by
    rw [ResolveInput.stage, ResolveInput.stage, asks.mode, asks'.mode]
  have first := resolveTask_lookup [] task.id rowsStored List.mem_cons_self asks
    (Or.inl rfl : _ ∨ _ = some (resolveEffectiveRuntimeProfile env store input))
  have second := resolveTask_lookup [] task.id rowsStored List.mem_cons_self asks'
    (Or.inl rfl : _ ∨ _ = some (resolveEffectiveRuntimeProfile env store input'))
  rw [sameMode, sameStage, second] at first
  simpa using first.symm

/-- For every task of a list the bulk resolution answers what the single function answers;
and the excluding function selects the first of the task's own profile, the default of its
project for the mode and the system default that is in the table, enabled, allowed for the
stage and not excluded, which is the single resolution when nothing is excluded. -/
theorem resolutions_agree (env : Env ν σ) (store : Store ν) (taskRows : List TaskRow)
    (rowsStored : ∀ task ∈ taskRows, task ∈ store.tasks)
    (mode? : Option RuntimeStageOrProfileMode) (system : Option String) :
    (∀ task ∈ taskRows, ∀ input, Asks input task mode? system →
      (resolveEffectiveRuntimeProfilesForTasks env store taskRows mode? system).lookup task.id =
        some (resolveEffectiveRuntimeProfile env store input)) ∧
    (∀ input excluded, SelectsFirst env store input excluded
      (resolveEffectiveRuntimeProfileExcluding env store input excluded)) ∧
    ∀ input, resolveEffectiveRuntimeProfileExcluding env store input [] =
      resolveEffectiveRuntimeProfile env store input := by
  refine ⟨fun task listed input asks => ?_, fun input excluded => ?_, fun input => ?_⟩
  · have someRow : taskRows.isEmpty = false :=
      List.isEmpty_eq_false_iff_exists_mem.mpr ⟨task, listed⟩
    rw [resolveEffectiveRuntimeProfilesForTasks]
    simp only [someRow, Bool.false_eq_true, if_false]
    rw [Asks.resolve_eq (rowsStored task listed) asks
      (⟨rfl, .inl rfl, rfl, rfl⟩ : Asks (inputOf mode? system task) task mode? system)]
    exact foldl_resolveTask_lookup rowsStored listed taskRows (fun _ inside => inside)
      (fun _ _ => .inl rfl) (.inl listed)
  · exact (resolveExcludingLoop_picksFirst (input.candidates store)).selectsFirst
  · exact resolveExcludingLoop_nil (input.candidates store)

def sampleEnv : Env Nat Unit where
  isPositiveNumber _ := true
  dateParses _ := true
  readNumber := Text.numberOfDigits
  parseRuntimeLimitSnapshot _ := none

def sampleProfile (id : String) (enabled : Bool) : RuntimeProfileRow where
  id := id
  name := id
  runtimeId := "claude"
  providerId := "anthropic"
  enabled := enabled
  createdAt := "2026-01-01T00:00:00.000Z"
  updatedAt := "2026-01-01T00:00:00.000Z"

/-- A task whose own profile is disabled, in a project with a default for planning. -/
def sampleStore : Store Nat where
  tasks := [⟨"task", "project", some "own"⟩]
  projects := [⟨"project", none, some "planning", none, none⟩]
  runtimeProfiles := [sampleProfile "own" false, sampleProfile "planning" true]
  usageEvents :=
    [⟨some "planning", .success, 10, 5, 15, none, "2026-01-02T00:00:00.000Z"⟩]
  taskKeys := ⟨by simp, by simp⟩
  projectKeys := ⟨by simp, by simp⟩
  profileKeys := ⟨by simp [sampleProfile], by simp [sampleProfile]⟩

theorem resolutions_agree_sample :
    (resolveEffectiveRuntimeProfilesForTasks sampleEnv sampleStore sampleStore.tasks
        (some (.stage .planner)) none).lookup "task" =
      some (resolveEffectiveRuntimeProfile sampleEnv sampleStore
        { taskId := some "task", mode := some (.stage .planner) }) ∧
    SelectsFirst sampleEnv sampleStore { taskId := some "task", mode := some (.stage .planner) } []
      (resolveEffectiveRuntimeProfile sampleEnv sampleStore
        { taskId := some "task", mode := some (.stage .planner) }) ∧
    (resolveEffectiveRuntimeProfile sampleEnv sampleStore
      { taskId := some "task", mode := some (.stage .planner) }).source = .projectDefault := by
  obtain ⟨bulk, excluding, single⟩ := resolutions_agree sampleEnv sampleStore sampleStore.tasks
    (fun _ inside => inside) (some (.stage .planner)) none
  refine ⟨bulk ⟨"task", "project", some "own"⟩ (List.mem_singleton.mpr rfl) _
    ⟨rfl, .inl rfl, rfl, rfl⟩, ?_, by decide⟩
  rw [← single]
  exact excluding _ []

end Agreement

end AifHandoff.Data.RuntimeProfiles

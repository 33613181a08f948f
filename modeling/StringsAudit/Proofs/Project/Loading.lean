import Mathlib.Data.List.Basic
import StringsAudit.Project
import StringsAudit.Proofs.Audit.ExitStatus
import StringsAudit.Proofs.Project.Outcomes
import StringsAudit.World

/-!
# What is loaded from lists of files

Loading reads files and changes nothing. So where the contents of the files are fixed, what is
loaded is a function of the configuration and of the lists of files that a scan has found, with one
outcome for each file.

## Main definitions

* `Project.outcomeOf` : what becomes of reading a file whose content is fixed.
* `Project.groupsFrom`, `Project.usedKeysFrom`, `Project.loadIssuesFrom` : what is loaded.
* `Project.evidenceFrom`, `Project.auditFrom` : what the rules look at, and the verdict.
* `World.still` : the answers of a world that nothing changes.
* `World.Keeps` : what is computed in a world without changing it.

## Main results

* `keeps_loadWith` : loading leaves the world as it is.
* `loadWith_map_evidence`, `loadWith_map_audit` : loading a project reads the lists of its scan.
* `isLoaded_of_loadWith` : what the rules look at is as an audit expects it.
-/

namespace StringsAudit

/-- The answers of a world that nothing changes. -/
def World.still (world : World) : Files Id where
  kind? path := (World.files.kind? path world).1
  read path := world.read path
  write path text := (World.files.write path text world).1
  walk path := world.walk path

/-- What is computed in a world is a result that needs no world, and leaves the world as it is. -/
def World.Keeps {α : Type} (world : World) (action : StateM World α) (result : Id α) : Prop :=
  action.run world = pure (result.run, world)

namespace World

variable {α β : Type} {world : World}

theorem Keeps.pure
    (a : α) :
    world.Keeps (pure a) (pure a) :=
  rfl

theorem Keeps.bind
    {action : StateM World α}
    {result : Id α}
    {next : α → StateM World β}
    {nextResult : α → Id β}
    (h : world.Keeps action result)
    (hnext : ∀ a, world.Keeps (next a) (nextResult a)) :
    world.Keeps (action >>= next) (result >>= nextResult) := by
  rw [Keeps, StateT.run_bind, h, pure_bind]
  exact hnext result.run

theorem Keeps.run_fst
    {action : StateM World α}
    {result : Id α}
    (h : world.Keeps action result) :
    (action.run world).run.1 = result.run :=
  congrArg Prod.fst h

theorem keeps_read
    (world : World)
    (path : Path) :
    world.Keeps (files.read path) (world.still.read path) :=
  rfl

theorem keeps_walk
    (world : World)
    (path : Path) :
    world.Keeps (files.walk path) (world.still.walk path) :=
  rfl

end World

namespace Project

/-! ### Reading files whose contents are fixed -/

section Reading

variable {α : Type}

/-- What becomes of reading a file whose content is fixed. -/
def outcomeOf (files : Files Id) (failure : Path → FileError → Failure)
    (parse : (content file : String) → α) (file : ProjectFile) : FileOutcome α where
  file := file
  result :=
    match (files.read file.path).run with
    | .error error => .error (failure file.path error)
    | .ok text => .ok (parse text file.display)

theorem result_outcomeOf_of_error
    {files : Files Id}
    {failure : Path → FileError → Failure}
    {parse : (content file : String) → α}
    {file : ProjectFile}
    {error : FileError}
    (h : (files.read file.path).run = .error error) :
    (outcomeOf files failure parse file).result = .error (failure file.path error) := by
  rw [outcomeOf, h]

theorem result_outcomeOf_eq_ok_iff
    {files : Files Id}
    {failure : Path → FileError → Failure}
    {parse : (content file : String) → α}
    {file : ProjectFile}
    {parsed : α} :
    (outcomeOf files failure parse file).result = .ok parsed ↔
      ∃ text, (files.read file.path).run = .ok text ∧ parse text file.display = parsed := by
  rw [outcomeOf]
  cases (files.read file.path).run <;> simp

theorem readAll_cons
    {m : Type → Type}
    [Monad m]
    [LawfulMonad m]
    (read : ProjectFile → m (Except Failure α))
    (file : ProjectFile)
    (rest : List ProjectFile) :
    readAll read (file :: rest) = do
      let result ← read file
      let others ← readAll read rest
      return ⟨file, result⟩ :: others := by
  simp [readAll]

/-- Reading files one by one leaves the world as it is if reading each of them does. -/
theorem keeps_readAll
    {world : World}
    {read : ProjectFile → StateM World (Except Failure α)}
    {still : ProjectFile → Id (Except Failure α)}
    (h : ∀ file, world.Keeps (read file) (still file))
    (list : List ProjectFile) :
    world.Keeps (readAll read list) (readAll still list) := by
  induction list with
  | nil => exact .pure []
  | cons file rest ih =>
      rw [readAll_cons, readAll_cons]
      exact (h file).bind fun _ => ih.bind fun _ => .pure _

theorem keeps_readStringsFile
    (world : World)
    (file : ProjectFile)
    (suffix : String)
    (limit : Comment.Depth) :
    world.Keeps (readStringsFile World.files file suffix limit)
      (readStringsFile world.still file suffix limit) := by
  refine (world.keeps_read file.path).bind fun content => ?_
  cases content with
  | error error => exact .pure _
  | ok text => exact .pure _

theorem keeps_readSourceFile
    (world : World)
    (file : ProjectFile)
    (pattern : UsagePattern)
    (limit : Comment.Depth) :
    world.Keeps (readSourceFile World.files file pattern limit)
      (readSourceFile world.still file pattern limit) := by
  refine (world.keeps_read file.path).bind fun content => ?_
  cases content with
  | error error => exact .pure _
  | ok text => exact .pure _

end Reading

/-- Loading a project leaves the world as it is, and finds what a world that nothing changes has. -/
theorem keeps_loadWith
    [Compilers]
    (world : World)
    (root : Path)
    (options : LoadOptions)
    (loaded : ConfigFile.Loaded) :
    world.Keeps (loadWith World.files root options loaded)
      (loadWith world.still root options loaded) := by
  refine (world.keeps_walk root).bind fun visits => ?_
  refine (keeps_readAll (fun file => keeps_readStringsFile world file _ _) _).bind fun _ => ?_
  split
  next => exact .pure _
  next pattern _ =>
    exact (keeps_readAll (fun file => keeps_readSourceFile world file pattern _) _).bind
      fun _ => .pure _

/-! ### Lists of files -/

section Lists

variable (files : Files Id) (config : Config)

/-- What becomes of reading strings files. -/
def resourceOutcomes (resources : List ProjectFile) : List (FileOutcome StringsFile.Parsed) :=
  Id.run <|
    readAll (readStringsFile files · config.localeFolderSuffix config.commentDepth) resources

/-- What becomes of reading source files. -/
def sourceOutcomes (pattern : UsagePattern) (sources : List ProjectFile) :
    List (FileOutcome SourceFile.Parsed) :=
  Id.run <| readAll (readSourceFile files · pattern config.commentDepth) sources

/-- The groups that strings files form. -/
def groupsFrom (resources : List ProjectFile) : List LocaleGroup :=
  groupsOf config (resourceOutcomes files config resources)

/-- The findings made while files are read. -/
def loadIssuesFrom (pattern : UsagePattern) (resources sources : List ProjectFile) : List Issue :=
  (resourceOutcomes files config resources).flatMap resourceIssues
    ++ (sourceOutcomes files config pattern sources).flatMap sourceIssues

theorem resourceOutcomes_eq_map
    (resources : List ProjectFile) :
    resourceOutcomes files config resources =
      resources.map (outcomeOf files .unreadableStrings fun content file =>
        StringsFile.parse content file config.localeFolderSuffix config.commentDepth) := by
  rw [resourceOutcomes, readAll, List.idRun_mapM]
  refine List.map_congr_left fun file _ => ?_
  rw [outcomeOf]
  simp only [readStringsFile]
  cases hread : (files.read file.path).run <;> simp [hread]

theorem sourceOutcomes_eq_map
    (pattern : UsagePattern)
    (sources : List ProjectFile) :
    sourceOutcomes files config pattern sources =
      sources.map (outcomeOf files .unreadableSource fun content file =>
        SourceFile.parse content file pattern config.commentDepth) := by
  rw [sourceOutcomes, readAll, List.idRun_mapM]
  refine List.map_congr_left fun file _ => ?_
  rw [outcomeOf]
  simp only [readSourceFile]
  cases hread : (files.read file.path).run <;> simp [hread]

/-! ### What is loaded with a configuration -/

variable [Compilers]

/-- The usage pattern of a configuration. -/
def compiledPattern : Except Failure UsagePattern :=
  (UsagePattern.compile config.usagePattern).mapError .badUsagePattern

/-- The keys that source files refer to. -/
def usedKeysFrom (sources : List ProjectFile) : Except Failure UsedKeys :=
  (compiledPattern config).map fun pattern =>
    usedKeysOf (sourceOutcomes files config pattern sources)

/-- What the rules look at. -/
def evidenceFrom (resources sources : List ProjectFile) : Except Failure Evidence :=
  (compiledPattern config).map fun pattern =>
    { groups := groupsFrom files config resources
      usedKeys := usedKeysOf (sourceOutcomes files config pattern sources)
      placeholder := config.placeholder
      loadIssues := loadIssuesFrom files config pattern resources sources }

/-- The findings of the selected rules; where none is selected, of all. -/
def auditFrom (resources sources : List ProjectFile) (rules : List Rule) :
    Except Failure Verdict :=
  (evidenceFrom files config resources sources).map fun evidence =>
    .ofIssues (evidence.issues (if rules.isEmpty then Rule.all else rules))
      ⟨resources.length, evidence.groups.length, sources.length⟩

/-- Loading a project reads the lists of its scan. -/
theorem loadWith_map_evidence
    (root : Path)
    (options : LoadOptions)
    (loaded : ConfigFile.Loaded) :
    let own := withPrimaryLocale loaded.config options.primaryLocale?
    let scan := Scan.ofVisits own root (files.walk root)
    (Id.run (loadWith files root options loaded)).map evidence =
      evidenceFrom files own scan.resources scan.sources := by
  simp only [loadWith, evidenceFrom, compiledPattern]
  cases UsagePattern.compile (withPrimaryLocale loaded.config options.primaryLocale?).usagePattern
  · rfl
  · rfl

/-- What is counted and grouped of a loaded project are the lists of its scan. -/
theorem lists_of_loadWith
    {files : Files Id}
    {root : Path}
    {options : LoadOptions}
    {loaded : ConfigFile.Loaded}
    {project : Project}
    (h : Id.run (loadWith files root options loaded) = .ok project) :
    let own := withPrimaryLocale loaded.config options.primaryLocale?
    let scan := Scan.ofVisits own root (files.walk root)
    project.groups = groupsFrom files own scan.resources ∧
    project.resourceFiles = scan.resources.length ∧
    ∃ pattern,
      project.loadIssues = loadIssuesFrom files own pattern scan.resources scan.sources := by
  intro own scan
  simp only [loadWith] at h
  cases hpattern : UsagePattern.compile own.usagePattern with
  | error error =>
      rw [hpattern] at h
      cases h
  | ok pattern =>
      rw [hpattern] at h
      cases h
      exact ⟨rfl, rfl, pattern, rfl⟩

end Lists

section Evidence

variable {files : Files Id} {config : Config} {resources sources : List ProjectFile}

theorem isFromLoading_of_mem_loadIssuesFrom
    {pattern : UsagePattern}
    {issue : Issue}
    (h : issue ∈ loadIssuesFrom files config pattern resources sources) :
    issue.isFromLoading = true := by
  rw [loadIssuesFrom, List.mem_append, List.mem_flatMap, List.mem_flatMap] at h
  obtain ⟨_, -, hissue⟩ | ⟨_, -, hissue⟩ := h
  · exact isFromLoading_of_mem_resourceIssues hissue
  · exact isFromLoading_of_mem_sourceIssues hissue

theorem isBuilt_usedKeysOf
    (pattern : UsagePattern) :
    (usedKeysOf (sourceOutcomes files config pattern sources)).IsBuilt := by
  rw [usedKeysOf_eq_merged, sourceOutcomes_eq_map]
  refine .merged fun used hused => ?_
  simp only [List.mem_filterMap, List.mem_map, exists_exists_and_eq_and, references?_eq_some_iff,
    result_outcomeOf_eq_ok_iff] at hused
  obtain ⟨_, -, _, -, rfl⟩ := hused
  exact .ofList _

/-- What is loaded is as an audit expects it. -/
theorem isLoaded_of_loadWith
    [Compilers]
    {root : Path}
    {options : LoadOptions}
    {loaded : ConfigFile.Loaded}
    {project : Project}
    (h : Id.run (loadWith files root options loaded) = .ok project) :
    project.evidence.IsLoaded := by
  have hevidence := loadWith_map_evidence files root options loaded
  simp only [h, evidenceFrom] at hevidence
  cases hpattern : compiledPattern (withPrimaryLocale loaded.config options.primaryLocale?) with
  | error error => simp [hpattern, Except.map] at hevidence
  | ok pattern =>
      simp only [hpattern, Except.map, Except.ok.injEq] at hevidence
      rw [hevidence]
      exact ⟨isBuilt_usedKeysOf pattern, fun _ => isFromLoading_of_mem_loadIssuesFrom⟩

end Evidence

end Project
end StringsAudit

import ApiGateway.Log.Logger
import ApiGateway.Proofs.Files.Writing

/-!
# Where the lines of a log go

A destination is standard output or one file, however a path to it is spelled. A logger that could
be set up has a destination for every target, and adds to it one copy of a record's line for each
target there that lets the record pass, in the order of the records, and nothing else
(`fansOut_of_new`). Both checks before that, the one of the logger and the greatest level of all
targets, let exactly those records through that some target wants (`enabled_eq_any_maxLevel`), so
that neither of them loses a line.
-/

namespace ApiGateway.Log

/-! ## Destinations -/

/-- A place that lines go to. Targets whose paths lead to one file share it. -/
inductive Destination where
  | stdout
  | file (place : List String)
deriving DecidableEq

/-- Where a target writes to; a file that no path leads to is no place. -/
def Target.destination? (files : FileTree) (target : Target) : Option Destination :=
  match target.sink, target.path with
  | .stdout, _ => some .stdout
  | .file, some path =>
    match files.locate path with
    | .ok place => some (.file place)
    | .error _ => none
  | .file, none => none

/-- The bytes at a destination. There are none where a file is missing. -/
def Outputs.content (outputs : Outputs) : Destination → ByteArray
  | .stdout => outputs.stdout.toUTF8
  | .file place => (outputs.files.fileAt? place).getD .empty

/-- A target that can be written to: its file is there. -/
def Target.OpenAt (target : Target) (files : FileTree) (destination : Destination) : Prop :=
  match target.sink, target.path with
  | .stdout, _ => destination = .stdout
  | .file, some path => ∃ place, destination = .file place ∧ files.LeadsToFile path place
  | .file, none => False

theorem Target.OpenAt.destination? {target : Target} {files : FileTree} {destination : Destination}
    (isOpen : target.OpenAt files destination) : target.destination? files = some destination := by
  obtain ⟨sink, path, level⟩ := target
  cases sink with
  | stdout => exact congrArg some isOpen.symm
  | file =>
      cases path with
      | none => cases isOpen
      | some path =>
          obtain ⟨place, rfl, leads⟩ := isOpen
          simp only [Target.destination?, leads.located]

/-- Every target that was open is so still, with the same destination. -/
def KeepsOpen (files after : FileTree) : Prop :=
  ∀ (target : Target) (destination : Destination),
    target.OpenAt files destination → target.OpenAt after destination

/-! ## One line more -/

/-- The bytes that later outputs have more than earlier ones are at one destination, and all targets
that were open are so still. -/
structure Grows (outputs after : Outputs) (changed : Destination) (added : ByteArray) : Prop where
  kept : KeepsOpen outputs.files after.files
  content : ∀ destination, after.content destination =
    outputs.content destination ++ if changed = destination then added else .empty

/-- Appending to a file is adding to the bytes of its destination only. -/
theorem grows_of_appends {files after : FileTree} {path : String} {added : ByteArray}
    {place : List String} (appends : FileTree.Appends files after path added place)
    (stdout : String) : Grows ⟨stdout, files⟩ ⟨stdout, after⟩ (.file place) added where
  kept target destination isOpen := by
    obtain ⟨sink, path', level⟩ := target
    cases sink with
    | stdout => exact isOpen
    | file =>
        cases path' with
        | none => exact isOpen
        | some path' =>
            obtain ⟨place', rfl, leads⟩ := isOpen
            exact ⟨place', rfl, appends.kept path' place' leads⟩
  content destination := by
    cases destination with
    | stdout => simp [Outputs.content]
    | file other =>
        simp only [Outputs.content, appends.added, Destination.file.injEq, eq_comm (a := other)]
        split <;> simp

/-- An open target adds to its destination and to nothing else. -/
theorem grows_write {target : Target} {outputs : Outputs} {destination : Destination}
    (isOpen : target.OpenAt outputs.files destination) (text : String) :
    Grows outputs (target.write text outputs) destination text.toUTF8 := by
  obtain ⟨sink, path, level⟩ := target
  cases sink with
  | stdout =>
      cases isOpen
      refine ⟨fun _ _ still => still, fun other => ?_⟩
      cases other <;> simp [Target.write, Outputs.content]
  | file =>
      cases path with
      | none => cases isOpen
      | some path =>
          obtain ⟨place, rfl, leads⟩ := isOpen
          obtain ⟨after, answer, appends⟩ := FileTree.exists_append leads text.toUTF8
          simp only [Target.write, answer]
          exact grows_of_appends appends outputs.stdout

/-! ## Opening the files -/

/-- What opening some targets comes to: they are open, those that were open before are still so,
and no destination has other bytes than before. -/
structure Opens (targets : List Target) (files after : FileTree) : Prop where
  opened : ∀ target ∈ targets, ∃ destination, target.OpenAt after destination
  kept : KeepsOpen files after
  same : ∀ stdout destination,
    (Outputs.mk stdout after).content destination = (Outputs.mk stdout files).content destination

theorem opens_of_openTarget {target : Target} {files after : FileTree}
    (done : openTarget target files = (after, none)) : Opens [target] files after := by
  obtain ⟨sink, path, level⟩ := target
  cases sink with
  | stdout =>
      cases done
      refine ⟨?_, fun _ _ isOpen => isOpen, fun _ _ => rfl⟩
      rw [List.forall_mem_singleton]
      exact ⟨.stdout, rfl⟩
  | file =>
      cases path with
      | none => cases done
      | some path =>
          simp only [openTarget] at done
          split at done
          · next answer =>
            cases done
            obtain ⟨place, appends⟩ := FileTree.appends_of_append answer
            refine ⟨?_, (grows_of_appends appends "").kept, fun stdout destination => ?_⟩
            · rw [List.forall_mem_singleton]
              exact ⟨.file place, place, rfl, appends.leads⟩
            · rw [(grows_of_appends appends stdout).content]
              split <;> simp
          · cases done

theorem opens_of_openTargets {targets : List Target} {files after : FileTree}
    (done : openTargets targets files = (after, none)) : Opens targets files after := by
  induction targets generalizing files with
  | nil =>
      cases done
      exact ⟨nofun, fun _ _ isOpen => isOpen, fun _ _ => rfl⟩
  | cons target rest inductionHypothesis =>
      simp only [openTargets] at done
      split at done
      · next between first =>
        have one := opens_of_openTarget first
        have others := inductionHypothesis done
        obtain ⟨destination, isOpen⟩ := one.opened target List.mem_cons_self
        refine ⟨?_, fun other place isOpen => others.kept other place (one.kept other place isOpen),
          fun stdout place => (others.same stdout place).trans (one.same stdout place)⟩
        rw [List.forall_mem_cons]
        exact ⟨⟨destination, others.kept target destination isOpen⟩, others.opened⟩
      · next failed =>
        exact absurd done (failed _)

/-! ## Writing one line to many targets -/

/-- All targets are open, each at the place that it is said to have. -/
def Placed (places : Target → Option Destination) (targets : List Target) (files : FileTree) :
    Prop :=
  ∀ target ∈ targets, ∃ destination,
    places target = some destination ∧ target.OpenAt files destination

theorem Placed.of_keepsOpen {places : Target → Option Destination} {targets : List Target}
    {files after : FileTree} (placed : Placed places targets files)
    (kept : KeepsOpen files after) : Placed places targets after := by
  intro target member
  obtain ⟨destination, place, isOpen⟩ := placed target member
  exact ⟨destination, place, kept target destination isOpen⟩

/-- What a destination gets when some targets write a text: a copy from each target there. -/
def copies (places : Target → Option Destination) (targets : List Target)
    (chosen : Target → Bool) (text : String) (destination : Destination) : List String :=
  (targets.filter fun target => chosen target && places target = some destination).map
    fun _ => text

/-- Write a text to the chosen targets. -/
def writeTo (targets : List Target) (chosen : Target → Bool) (text : String)
    (outputs : Outputs) : Outputs :=
  targets.foldl (fun outputs target => if chosen target then target.write text outputs else outputs)
    outputs

section WriteTo

variable {places : Target → Option Destination} {targets : List Target} {outputs : Outputs}
  (chosen : Target → Bool) (text : String)

theorem placed_writeTo {others : List Target} (placed : Placed places targets outputs.files)
    (othersPlaced : Placed places others outputs.files) :
    Placed places others (writeTo targets chosen text outputs).files := by
  induction targets generalizing outputs with
  | nil => exact othersPlaced
  | cons target rest inductionHypothesis =>
      obtain ⟨⟨destination, -, isOpen⟩, restPlaced⟩ := List.forall_mem_cons.mp placed
      rw [writeTo, List.foldl_cons]
      split
      · have kept := (grows_write isOpen text).kept
        exact inductionHypothesis (.of_keepsOpen restPlaced kept) (othersPlaced.of_keepsOpen kept)
      · exact inductionHypothesis restPlaced othersPlaced

theorem content_writeTo (placed : Placed places targets outputs.files)
    (destination : Destination) :
    (writeTo targets chosen text outputs).content destination =
      outputs.content destination ++
        (String.join (copies places targets chosen text destination)).toUTF8 := by
  induction targets generalizing outputs with
  | nil => simp [writeTo, copies, String.join_nil]
  | cons target rest inductionHypothesis =>
      obtain ⟨⟨place, placeOf, isOpen⟩, restPlaced⟩ := List.forall_mem_cons.mp placed
      rw [writeTo, List.foldl_cons]
      by_cases wanted : chosen target = true
      · have grows := grows_write isOpen text
        rw [if_pos wanted]
        refine (inductionHypothesis (.of_keepsOpen restPlaced grows.kept)).trans ?_
        rw [grows.content, ByteArray.append_assoc]
        by_cases here : place = destination
        · simp [copies, wanted, placeOf, here, String.join_cons, String.toByteArray_append]
        · simp [copies, wanted, placeOf, here]
      · rw [if_neg wanted]
        refine (inductionHypothesis restPlaced).trans ?_
        simp [copies, wanted]

end WriteTo

/-! ## The two checks -/

/-- The weaker of two thresholds lets through what either does. -/
theorem passes_weaker (level one other : Level) :
    level.passes (if one.severity < other.severity then one else other) =
      (level.passes other || level.passes one) := by
  rw [Bool.eq_iff_iff]
  simp only [Level.passes, Bool.or_eq_true, decide_eq_true_eq]
  split <;> omega

/-- A fold that collects thresholds lets through what any of them does, if each step does. -/
theorem any_foldl_passes {level : Level} {collect : Option Level → Level → Option Level}
    (step : ∀ found next, (collect found next).any level.passes =
      (found.any level.passes || level.passes next)) (levels : List Level) (found : Option Level) :
    (levels.foldl collect found).any level.passes =
      (found.any level.passes || levels.any level.passes) := by
  induction levels generalizing found with
  | nil => simp
  | cons next rest inductionHypothesis =>
      rw [List.foldl_cons, inductionHypothesis, step, List.any_cons, Bool.or_assoc]

namespace Logger

/-- A record is enabled exactly when it is within the greatest level of all targets. -/
theorem enabled_eq_any_maxLevel (logger : Logger) (level : Level) :
    logger.enabled level = logger.maxLevel.any level.passes := by
  rw [maxLevel, any_foldl_passes, List.any_map, Option.any_none, Bool.false_or]
  · rfl
  · intro found next
    cases found with
    | none => rfl
    | some other => exact passes_weaker level next other

/-- A record that is not enabled would be written nowhere. -/
theorem writeTo_of_not_enabled {logger : Logger} {level : Level}
    (disabled : logger.enabled level = false) (text : String) (outputs : Outputs) :
    writeTo logger.targets (logger.wants level) text outputs = outputs := by
  rw [enabled] at disabled
  generalize logger.targets = targets at disabled
  induction targets with
  | nil => rfl
  | cons target rest inductionHypothesis =>
      rw [List.any_cons, Bool.or_eq_false_iff] at disabled
      rw [writeTo, List.foldl_cons, disabled.1]
      exact inductionHypothesis disabled.2

/-- The early way out of `deliver` makes no difference. -/
theorem deliver_eq_writeTo (logger : Logger) (record : Record) (outputs : Outputs) :
    logger.deliver record outputs =
      writeTo logger.targets (logger.wants record.level) (logger.render record ++ "\n")
        outputs := by
  rw [deliver]
  cases enabled : logger.enabled record.level with
  | false => exact (writeTo_of_not_enabled enabled _ outputs).symm
  | true => rfl

section Deliver

variable {places : Target → Option Destination} {logger : Logger} {outputs : Outputs}
  (placed : Placed places logger.targets outputs.files)
include placed

theorem placed_deliver (record : Record) :
    Placed places logger.targets (logger.deliver record outputs).files := by
  rw [deliver_eq_writeTo]
  exact placed_writeTo _ _ placed placed

theorem content_deliver (record : Record) (destination : Destination) :
    (logger.deliver record outputs).content destination =
      outputs.content destination ++ (String.join (copies places logger.targets
        (logger.wants record.level) (logger.render record ++ "\n") destination)).toUTF8 := by
  rw [deliver_eq_writeTo]
  exact content_writeTo _ _ placed destination

/-- A whole sequence of records: the files stay open, so no line is lost. -/
theorem content_deliverAll (records : List Record) (destination : Destination) :
    (logger.deliverAll records outputs).content destination =
      outputs.content destination ++ (String.join (records.flatMap fun record =>
        copies places logger.targets (logger.wants record.level) (logger.render record ++ "\n")
          destination)).toUTF8 := by
  induction records generalizing outputs with
  | nil => simp [deliverAll, String.join_nil]
  | cons record rest inductionHypothesis =>
      rw [deliverAll, List.foldl_cons, List.flatMap_cons, String.join_append]
      refine (inductionHypothesis (placed_deliver placed record)).trans ?_
      rw [content_deliver placed, ByteArray.append_assoc]
      simp

end Deliver

/-- Records beyond the greatest level are written nowhere. -/
theorem deliverAll_filter (logger : Logger) (records : List Record) (outputs : Outputs) :
    logger.deliverAll (records.filter fun record => logger.maxLevel.any record.level.passes)
      outputs = logger.deliverAll records outputs := by
  simp only [← enabled_eq_any_maxLevel]
  induction records generalizing outputs with
  | nil => rfl
  | cons record rest inductionHypothesis =>
      cases enabled : logger.enabled record.level with
      | true =>
          rw [List.filter_cons_of_pos (by exact enabled)]
          exact inductionHypothesis _
      | false =>
          have ignored : logger.deliver record outputs = outputs := by
            rw [deliver, enabled]
            rfl
          rw [List.filter_cons_of_neg (by simp [enabled]), inductionHypothesis]
          simp only [deliverAll, List.foldl_cons, ignored]

end Logger

/-! ## What settings ask for -/

namespace Settings

/-- The targets, none if nothing is said. -/
def targetList (settings : Settings) : List Target := settings.targets.getD []

/-- The own level of a target, or else the default level. -/
def threshold (settings : Settings) (target : Target) : Level :=
  target.level.getD (settings.level.getD .info)

/-- The text of a record followed by a line feed. -/
def line (settings : Settings) (record : Record) : String :=
  (settings.format.getD .text).render record ++ "\n"

/-- What a record brings to a destination: its line, once for every target there within whose
level the record is. -/
def received (settings : Settings) (places : Target → Option Destination)
    (destination : Destination) (record : Record) : List String :=
  copies places settings.targetList
    (fun target => record.level.passes (settings.threshold target)) (settings.line record)
    destination

end Settings

/-- A logger does what its settings ask for. -/
structure FansOut (settings : Settings) (files opened : FileTree) (logger : Logger) : Prop where
  /-- Each target has a destination. -/
  placed : ∀ target ∈ settings.targetList, (target.destination? opened).isSome = true
  /-- Each destination goes on from its previous content with the lines that it is to receive, in
  the order of the records, and with nothing else. -/
  content : ∀ stdout records destination,
    (logger.deliverAll records ⟨stdout, opened⟩).content destination =
      (Outputs.mk stdout files).content destination ++
        (String.join (records.flatMap
          (settings.received (Target.destination? opened) destination))).toUTF8
  /-- A record is enabled exactly when a target wants it. -/
  enabled_iff : ∀ level, logger.enabled level = true ↔
    ∃ target ∈ settings.targetList, level.passes (settings.threshold target) = true
  /-- The greatest level lets exactly the enabled records through. -/
  enabled_iff_maxLevel : ∀ level, logger.enabled level = true ↔
    ∃ greatest, logger.maxLevel = some greatest ∧ level.passes greatest = true
  /-- Whether records beyond the greatest level are given to the logger makes no difference. -/
  filter : ∀ records outputs,
    logger.deliverAll (records.filter fun record => logger.maxLevel.any record.level.passes)
      outputs = logger.deliverAll records outputs

/-- Every logger that could be set up loses no line and leaks none. -/
theorem fansOut_of_new {settings : Settings} {files opened : FileTree} {logger : Logger}
    (accepted : Logger.new settings files = (opened, .ok logger)) :
    FansOut settings files opened logger := by
  simp only [Logger.new] at accepted
  split at accepted
  · next after done =>
    cases accepted
    have opens := opens_of_openTargets done
    have placed : Placed (Target.destination? opened) settings.targetList opened := by
      intro target member
      obtain ⟨destination, isOpen⟩ := opens.opened target member
      exact ⟨destination, isOpen.destination?, isOpen⟩
    refine ⟨fun target member => ?_, fun stdout records destination => ?_, fun level => ?_,
      fun level => ?_, Logger.deliverAll_filter _⟩
    · obtain ⟨destination, place, -⟩ := placed target member
      rw [place]
      rfl
    · rw [Logger.content_deliverAll placed, opens.same]
      rfl
    · simp only [Logger.enabled, List.any_eq_true]
      rfl
    · rw [Logger.enabled_eq_any_maxLevel, Option.any_eq_true]
  · cases accepted

/-- One file by four spellings, each with its own level, and standard output. -/
def sharedFile : Settings :=
  ⟨some .debug, none, some [⟨.file, some "logs/all", none⟩, ⟨.stdout, none, some .warn⟩,
    ⟨.file, some "/srv/./logs/all", some .error⟩, ⟨.file, some "../srv/logs//all", some .error⟩,
    ⟨.file, some "latest", some .error⟩]⟩

/-- The file has a line already, and a link leads to it. -/
def oneLine : FileTree :=
  .ofEntries ["srv"] [("logs", .directory), ("logs/all", .file "old\n".toUTF8),
    ("latest", .link "logs/all")]

/-- An error between two milder records, the first of them too mild for every target. -/
def threeRecords : List Record :=
  [⟨.trace, "t", none, none, "a", 0⟩, ⟨.error, "t", none, none, "b", 1000000⟩,
    ⟨.info, "t", none, none, "c", 2000000⟩]

/-- A logger was set up when one is yielded. -/
theorem Logger.new_of_toOption {settings : Settings} {files : FileTree} {logger : Logger}
    (yielded : (Logger.new settings files).2.toOption = some logger) :
    Logger.new settings files = ((Logger.new settings files).1, .ok logger) := by
  refine Prod.ext rfl ?_
  cases outcome : (Logger.new settings files).2 with
  | error failure => rw [outcome] at yielded; cases yielded
  | ok other => rw [outcome] at yielded; rw [Option.some.inj yielded]

/-- The error is written to the file four times. -/
theorem fansOut_sharedFile : ∃ opened logger,
    Logger.new sharedFile oneLine = (opened, .ok logger) ∧
      (logger.deliverAll threeRecords ⟨"", opened⟩).content (.file ["srv", "logs", "all"]) =
        ("old\n1970-01-01 00:00:00.001 [ERROR] [t] b\n1970-01-01 00:00:00.001 [ERROR] [t] b\n" ++
          "1970-01-01 00:00:00.001 [ERROR] [t] b\n1970-01-01 00:00:00.001 [ERROR] [t] b\n" ++
          "1970-01-01 00:00:00.002 [INFO] [t] c\n").toUTF8 := by
  have accepted := @Logger.new_of_toOption sharedFile oneLine
    ⟨sharedFile.targetList, .text, .debug⟩ (by decide +kernel)
  refine ⟨_, _, accepted, ?_⟩
  rw [(fansOut_of_new accepted).content]
  decide +kernel

end ApiGateway.Log

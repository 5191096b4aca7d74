import Conveyor.Command.Run
import Conveyor.Proofs.Session.Saving

/-!
# Running a command

Every command sets up the logging of the program first. Where the level in force is a standard one
this succeeds, and from then on every component gets its logger; with the log lines on the standard
error stream, nothing but what a command tells reaches the standard output
(`Command.perform_configureLogging`).
-/

set_option autoImplicit false

namespace Conveyor

open Logged

namespace Log

/-- The level in force under an option and the environment. -/
def levelInForce (env : Environment) (level : Option String) : String :=
  level.getD ((env.get? levelVariable).getD defaultLevel)

/-- The level in force is a standard one. -/
def IsInForce (env : Environment) (level : Option String) : Prop :=
  Text.upper (levelInForce env level) ∈ Level.names.map (·.1)

/-- Without an option, the environment has a standard level. -/
theorem HasStandardLevel.isInForce {env : Environment} (standard : HasStandardLevel env) :
    IsInForce env none := by
  unfold IsInForce levelInForce
  cases found : env.get? levelVariable with
  | none => decide
  | some given => exact standard given found

theorem Hierarchy.isQuiet_nil : Hierarchy.IsQuiet {} := by
  intro name
  rw [Hierarchy.get, List.lookup_cons]
  split <;> simp

/-- The journal of a program whose logging was just set up. -/
structure IsFresh (env : Environment) (stream : Stream) (journal : Journal) : Prop where
  ready : IsReady env journal
  quiet : stream = .err → journal.hierarchy.IsQuiet
  shown : journal.shown = []

end Log

namespace Command

variable {env : Environment} {level : Option String}

/-- A standard level is set up. -/
theorem perform_configureLogging (standard : Log.IsInForce env level) (stream : Log.Stream) :
    ∃ journal, (configureLogging stream level).perform env = (.ok (), journal) ∧
      Log.IsFresh env stream journal := by
  obtain ⟨given, known⟩ := Log.Level.ofName_of_mem standard
  have known' : Log.Level.ofName (level.getD ((env.get? Log.levelVariable).getD Log.defaultLevel)) =
      .ok given := known
  simp only [configureLogging, Log.setUp, Log.clear, perform_bind, perform_read, perform_modify,
    known', perform_lift]
  refine ⟨_, rfl, .inl ?_, fun toErr => ?_, rfl⟩
  · rw [Log.Hierarchy.get_set_self]
    simp
  · subst toErr
    exact Log.Hierarchy.isQuiet_set
      (Log.Hierarchy.isQuiet_set Log.Hierarchy.isQuiet_nil _ (by simp)) _ (by simp)

/-- Only a standard level can be set up. -/
theorem isInForce_of_configureLogging {stream : Log.Stream} {journal : Log.Journal}
    (configured : (configureLogging stream level).perform env = (.ok (), journal)) :
    Log.IsInForce env level := by
  simp only [configureLogging, Log.setUp, Log.clear, perform_bind, perform_read, perform_modify,
    perform_lift] at configured
  cases known : Log.Level.ofName (level.getD ((env.get? Log.levelVariable).getD Log.defaultLevel))
    with
  | ok given => exact Log.Level.mem_of_ofName known
  | error e =>
      rw [known] at configured
      cases configured

@[simp] theorem perform_tell (stream : Log.Stream) (text : String) (env : Environment)
    (journal : Log.Journal) :
    (tell stream text).perform env journal = (.ok (), { journal with
      shown := journal.shown ++ [(stream, .text (Terminal.unstyled text))] }) := rfl

@[simp] theorem perform_complain (message : String) (env : Environment) (journal : Log.Journal) :
    (complain message).perform env journal = (.ok .failure, { journal with
      shown := journal.shown ++
        [(.err, .text (Terminal.unstyled ("❌ Error: " ++ message ++ "\n")))] }) := rfl

/-- A document is shown if it is one. -/
theorem perform_tellJson {v : Value} {text : String} (written : v.json = .ok text)
    (env : Environment) (journal : Log.Journal) :
    (tellJson v).perform env journal = (.ok (), { journal with
      shown := journal.shown ++ [(.out, .text (Terminal.unstyled (Summary.line text)))] }) := by
  rw [tellJson, perform_bind, perform_lift, written]
  rfl

end Command

/-! ## Command lines -/

namespace CommandLine

/-- The status that a run ends with, given what its command came to. -/
def exitOf : Except Failure Command.Effect → Exit
  | .ok (_, .ok exit) => exit
  | _ => .failure

/-- The failure that a run leaves unhandled, given what its command came to. -/
def unhandledOf : Except Failure Command.Effect → Option Failure
  | .ok (_, .ok _) => none
  | .ok (_, .error failure) | .error failure => some failure

/-- The outcome of a run is what its command comes to. -/
theorem run_of_perform {words : List String} {level : Option String} {command : Command}
    (asks : read words = .ok (.run level command)) {columns : Nat} {env : Environment}
    {t : FileTree}
    {x : Except Failure Command.Effect} {journal : Log.Journal}
    (performed : (command.run columns t level).perform env = (x, journal)) :
    (run columns env t words).exit = exitOf x ∧ (run columns env t words).tree = t.after x ∧
      (run columns env t words).journal = journal ∧
      (run columns env t words).unhandled = unhandledOf x := by
  rw [run, asks]
  dsimp only
  rw [perform, performed]
  rcases x with _ | ⟨_, _ | _⟩ <;> exact ⟨rfl, rfl, rfl, rfl⟩

variable {switches : List Switch} {word name : String}

/-- An option that waits for its value takes the next word, whatever it is. -/
theorem scan_pending {mixed : Bool} {key : Key}
    (waits : Word.ofText switches word = .ok (.pending key))
    {rest : List String} {g : Given} (scanned : scan switches mixed rest = .ok g) (value : String) :
    scan switches mixed (word :: value :: rest) = .ok (g.withOption key value) := by
  rw [scan, waits, ok_bind]
  dsimp only
  rw [scanned]
  rfl

/-- A word that is no option is one of the other words. -/
theorem scan_other (plain : Word.ofText switches word = .ok .other) {rest : List String} {g : Given}
    (scanned : scan switches true rest = .ok g) :
    scan switches true (word :: rest) = .ok { g with words := word :: g.words } := by
  rw [scan, plain, ok_bind]
  dsimp only
  rw [if_pos rfl, scanned]
  rfl

theorem scan_command (plain : Word.ofText programSwitches name = .ok .other) (rest : List String) :
    scan programSwitches false (name :: rest) = .ok { words := name :: rest } := by
  rw [scan, plain]
  rfl

/-- A command line without options of the program is read as its command. -/
theorem read_command (plain : Word.ofText programSwitches name = .ok .other) (rest : List String) :
    read (name :: rest) = readCommand none name rest := by
  rw [read, if_neg (by simp), scan_command plain rest]
  rfl

/-- A level in front of a command goes with it. -/
theorem read_leveled (plain : Word.ofText programSwitches name = .ok .other) (rest : List String)
    (level : String) :
    read ("--log-level" :: level :: name :: rest) = readCommand (some level) name rest := by
  have scanned := scan_pending (by decide : Word.ofText programSwitches "--log-level" =
    .ok (.pending .logLevel)) (scan_command plain rest) level
  rw [read, if_neg (by simp), scanned]
  rfl

end CommandLine

end Conveyor

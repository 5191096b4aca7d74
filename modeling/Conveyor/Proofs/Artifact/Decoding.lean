import Conveyor.Artifact.Jenkinsfile
import Conveyor.Proofs.Log.Outcome
import Conveyor.Proofs.Value.Data
import Conveyor.Proofs.Value.Verdict
import Mathlib.Data.List.Basic

/-!
# What a Jenkinsfile tells about its stages

The blocks of the stages follow one another as text without any escapes. Still no block can be
taken for a part of another one: the name of a stage and its container end at the first apostrophe,
and the script ends at the first triple quotation mark, which no script of an accepted stage holds.
So the stages of a strict Jenkinsfile are decoded from its text, block by block, up to the closing,
which does not start as a block does.
-/

set_option autoImplicit false

namespace Conveyor

/-! ## Cutting a row at the first occurrence of a mark -/

namespace Row

variable {α : Type} {s mark r : List α}

/-- A mark does not occur before the first place of its first character. -/
theorem length_le_of_not_mem {a : α} (starts : mark.head? = some a) (absent : a ∉ s)
    {p q : List α} (same : s ++ (mark ++ r) = p ++ (mark ++ q)) : s.length ≤ p.length := by
  rcases List.append_eq_append_iff.mp same with ⟨between, rfl, -⟩ | ⟨between, rfl, rest⟩
  · simp
  · cases between with
    | nil => simp
    | cons b between =>
        have first := congrArg List.head? rest
        rw [List.head?_append, starts, List.cons_append, List.head?_cons] at first
        cases first
        exact absurd (by simp) absent

variable [BEq α] [LawfulBEq α]

theorem dropPrefix?_append (mark r : List α) : (mark ++ r).dropPrefix? mark = some r :=
  List.dropPrefix?_append_of_beq r (by simp)

theorem dropSuffix?_append (s mark : List α) : (s ++ mark).dropSuffix? mark = some s :=
  List.dropSuffix?_eq_some_iff.mpr ⟨mark, rfl, by simp⟩

/-- A row is cut at a mark if the mark occurs nowhere before. -/
theorem dropInfix?_append
    (first : ∀ p q, s ++ (mark ++ r) = p ++ (mark ++ q) → s.length ≤ p.length) :
    (s ++ (mark ++ r)).dropInfix? mark = some (s, r) := by
  refine List.dropInfix?_eq_some_iff.mpr ⟨⟨mark, by simp, by simp⟩, fun p mark' q cut same => ?_⟩
  obtain rfl : mark' = mark := by simpa using same
  exact first p q (by simpa using cut)

theorem dropInfix?_of_not_mem {a : α} (starts : mark.head? = some a) (absent : a ∉ s) :
    (s ++ (mark ++ r)).dropInfix? mark = some (s, r) :=
  dropInfix?_append fun _ _ => length_le_of_not_mem starts absent

end Row

namespace Jenkinsfile

/-! ## Blocks and their marks -/

/-- What a block shows of a stage. -/
structure Entry where
  name : String
  container : String
  script : String
  deriving DecidableEq, Repr

/-- What stands before the name of a stage. -/
def nameMark : List Char := "\n    stage('".toList

/-- What stands between the name of a stage and its container. -/
def containerMark : List Char := "') \x7b\n      steps \x7b\n        container('".toList

/-- What stands between the container and the script. -/
def scriptMark : List Char :=
  "') \x7b\n          sh ".toList ++ tripleQuote.toList ++ "\n            ".toList

/-- What stands between the script and the marks that end it. -/
def margin : List Char := "\n          ".toList

/-- What stands behind the script and the marks that end it. -/
def endMark : List Char := "\n        \x7d\n      \x7d\n    \x7d\n".toList

/-- The characters of the block of a stage. -/
def Entry.chars (e : Entry) : List Char :=
  nameMark ++ e.name.toList ++ containerMark ++ e.container.toList ++ scriptMark
    ++ e.script.toList ++ margin ++ tripleQuote.toList ++ endMark

theorem toList_block (e : Entry) : (block e.name e.container e.script).toList = e.chars := by
  unfold block Entry.chars nameMark containerMark scriptMark margin endMark
  simp only [String.toList_append, List.append_assoc]

/-! ## Reading a block -/

/-- Reads a block, and gives what it shows and the text behind it. -/
def decodeBlock? (text : List Char) : Option (Entry × List Char) := do
  let rest ← text.dropPrefix? nameMark
  let (name, rest) ← rest.dropInfix? containerMark
  let (container, rest) ← rest.dropInfix? scriptMark
  let (body, rest) ← rest.dropInfix? tripleQuote.toList
  let script ← body.dropSuffix? margin
  let rest ← rest.dropPrefix? endMark
  return (⟨String.ofList name, String.ofList container, String.ofList script⟩, rest)

/-- What the block of a stage leaves open: nothing, if there are no apostrophes in its names and no
triple quotation marks in its script. -/
structure Entry.IsClear (e : Entry) : Prop where
  name : '\'' ∉ e.name.toList
  container : '\'' ∉ e.container.toList
  script : Value.occursIn tripleQuote.toList e.script.toList = false

/-- No three quotation marks stand in a script without them, and none reach into its margin, which
has no quotation marks. -/
theorem length_le_of_clear {r : List Char} :
    ∀ {s p q : List Char}, Value.occursIn tripleQuote.toList s = false →
      s ++ margin ++ (tripleQuote.toList ++ r) = p ++ (tripleQuote.toList ++ q) →
      (s ++ margin).length ≤ p.length
  | [], p, q, _, same => Row.length_le_of_not_mem (a := '"') rfl (by decide) same
  | c :: s, [], q, clear, same => by
      rw [Value.occursIn, Bool.or_eq_false_iff, ← Bool.not_eq_true, List.isPrefixOf_iff_prefix]
        at clear
      have starts : ['"', '"', '"'] <+: c :: s ++ margin ++ (tripleQuote.toList ++ r) :=
        ⟨q, same.symm⟩
      obtain ⟨blanks, line⟩ : ∃ blanks, margin = '\n' :: blanks := ⟨_, rfl⟩
      -- three characters come from the script, or a line feed is among them
      match s, starts with
      | [], starts => simp [line] at starts
      | [d], starts => simp [line] at starts
      | d :: e :: s, starts =>
          simp only [List.cons_append, List.cons_prefix_cons] at starts
          obtain ⟨rfl, rfl, rfl, -⟩ := starts
          exact absurd ⟨s, rfl⟩ clear.1
  | c :: s, d :: p, q, clear, same => by
      rw [Value.occursIn, Bool.or_eq_false_iff] at clear
      have shorter := length_le_of_clear clear.2 (List.cons.inj same).2
      simpa using shorter

/-- A script with its margin is cut off at the marks that end it. -/
theorem dropInfix?_script {s : List Char} (clear : Value.occursIn tripleQuote.toList s = false)
    (r : List Char) :
    (s ++ margin ++ (tripleQuote.toList ++ r)).dropInfix? tripleQuote.toList =
      some (s ++ margin, r) :=
  Row.dropInfix?_append fun _ _ => length_le_of_clear clear

/-- A block shows what it was made from. -/
theorem decodeBlock?_chars {e : Entry} (clear : e.IsClear) (rest : List Char) :
    decodeBlock? (e.chars ++ rest) = some (e, rest) := by
  have name : containerMark.head? = some '\'' := rfl
  have container : scriptMark.head? = some '\'' := rfl
  have script := dropInfix?_script clear.script (endMark ++ rest)
  rw [List.append_assoc] at script
  simp only [decodeBlock?, Entry.chars, List.append_assoc, Row.dropPrefix?_append,
    Option.bind_eq_bind, Option.bind_some, Row.dropInfix?_of_not_mem name clear.name,
    Row.dropInfix?_of_not_mem container clear.container, script, Row.dropSuffix?_append,
    String.ofList_toList, Option.pure_def]

/-- What stands behind a block is shorter than the text that it was read from. -/
theorem length_of_decodeBlock? {text rest : List Char} {e : Entry}
    (read : decodeBlock? text = some (e, rest)) : rest.length < text.length := by
  simp only [decodeBlock?, Option.bind_eq_bind, Option.bind_eq_some_iff, Prod.exists,
    Option.pure_def, Option.some.injEq, Prod.mk.injEq] at read
  obtain ⟨r₁, h₁, _, r₂, h₂, _, r₃, h₃, _, r₄, h₄, _, _, r₅, h₅, -, rfl⟩ := read
  obtain ⟨m, rfl, mark⟩ := List.dropPrefix?_eq_some_iff.mp h₁
  obtain ⟨⟨_, rfl, -⟩, -⟩ := List.dropInfix?_eq_some_iff.mp h₂
  obtain ⟨⟨_, rfl, -⟩, -⟩ := List.dropInfix?_eq_some_iff.mp h₃
  obtain ⟨⟨_, rfl, -⟩, -⟩ := List.dropInfix?_eq_some_iff.mp h₄
  obtain ⟨_, rfl, -⟩ := List.dropPrefix?_eq_some_iff.mp h₅
  obtain rfl : m = nameMark := by simpa using mark
  have some_ : 0 < nameMark.length := by decide
  simp only [List.length_append]
  omega

/-- What the blocks at the start of a text show, one after another. -/
def decodeBlocks (text : List Char) : List Entry :=
  match _read : decodeBlock? text with
  | some (e, rest) => e :: decodeBlocks rest
  | none => []
termination_by text.length
decreasing_by exact length_of_decodeBlock? _read

theorem decodeBlocks_of_none {text : List Char} (none_ : decodeBlock? text = none) :
    decodeBlocks text = [] := by
  rw [decodeBlocks]
  split
  · rename_i read
    rw [none_] at read
    cases read
  · rfl

theorem decodeBlocks_of_some {text rest : List Char} {e : Entry}
    (read : decodeBlock? text = some (e, rest)) :
    decodeBlocks text = e :: decodeBlocks rest := by
  rw [decodeBlocks]
  split
  · rename_i read'
    cases read.symm.trans read'
    rfl
  · rename_i none_
    rw [read] at none_
    cases none_

/-- The closing of the file does not start as a block does. -/
theorem decodeBlocks_closing : decodeBlocks closing.toList = [] := by
  refine decodeBlocks_of_none ?_
  have other : closing.toList.dropPrefix? nameMark = none := by decide +kernel
  simp only [decodeBlock?, other, Option.bind_eq_bind, Option.bind_none]

/-- **Blocks are decoded one by one, up to the closing of the file.** -/
theorem decodeBlocks_append {es : List Entry} (clear : ∀ e ∈ es, e.IsClear) :
    decodeBlocks (es.flatMap Entry.chars ++ closing.toList) = es := by
  induction es with
  | nil => rw [List.flatMap_nil, List.nil_append, decodeBlocks_closing]
  | cons e es ih =>
      rw [List.flatMap_cons, List.append_assoc,
        decodeBlocks_of_some (decodeBlock?_chars (clear e (by simp)) _),
        ih fun e' member => clear e' (by simp [member])]

/-! ## Stages that fit a block -/

/-- The name of a stage, its images and the words of its commands are texts. -/
structure HasTexts (stage : Stage) : Prop where
  name : ∃ s, stage.name = .text s
  image : ∀ step ∈ stage.steps, ∃ s, step.image = .text s
  command : ∀ step ∈ stage.steps, ∀ word ∈ step.command, ∃ s, word = .text s

/-- What the block of a stage is to show: its name, and the container and the script of its first
step. -/
def Entry.ofStage? (stage : Stage) : Option Entry :=
  match stage.name, stage.steps with
  | .text name, step :: _ =>
    match step.containerName, step.script with
    | .ok container, some (.text script) => some ⟨name, container, script⟩
    | _, _ => none
  | _, _ => none

/-- What the blocks of some stages are to show, if all of them fit a block. -/
def entries? (stages : List Stage) : Option (List Entry) := stages.mapM Entry.ofStage?

theorem exists_script {step : Step} (texts : ∀ word ∈ step.command, ∃ s, word = .text s)
    (shell : isShellScript step.command = true) : ∃ script, step.script = some (.text script) := by
  simp only [isShellScript, Bool.and_eq_true, decide_eq_true_eq] at shell
  obtain ⟨first, second, third, words⟩ := List.length_eq_three.mp shell.1
  obtain ⟨script, isText⟩ := texts third (by simp [words])
  exact ⟨script, by simp [Step.script, words, isText]⟩

/-- A stage passes the check only if it has one step, which runs a script in a shell, and if no
three quotation marks stand in that script. -/
theorem exists_step_of_checkStage {stage : Stage} (accepted : checkStage stage = .ok ()) :
    ∃ step, stage.steps = [step] ∧ isShellScript step.command = true ∧
      Value.member (.text tripleQuote) (step.script.getD .null) = .ok false := by
  unfold checkStage at accepted
  split at accepted
  · obtain ⟨_, -, refused⟩ := bind_eq_ok_iff.mp accepted
    cases refused
  · rename_i step only
    split at accepted
    · rename_i shell
      obtain ⟨occurs, found, accepted⟩ := bind_eq_ok_iff.mp accepted
      cases occurs with
      | false => exact ⟨step, only, shell, found⟩
      | true =>
          obtain ⟨_, -, refused⟩ := bind_eq_ok_iff.mp accepted
          obtain ⟨_, -, refused⟩ := bind_eq_ok_iff.mp refused
          cases refused
    · obtain ⟨_, -, refused⟩ := bind_eq_ok_iff.mp accepted
      obtain ⟨_, -, refused⟩ := bind_eq_ok_iff.mp refused
      obtain ⟨_, -, refused⟩ := bind_eq_ok_iff.mp refused
      cases refused
  · obtain ⟨_, -, refused⟩ := bind_eq_ok_iff.mp accepted
    cases refused

/-- A stage of texts that is accepted fits a block, and no three quotation marks stand in its
script. -/
theorem exists_entry_of_checkStage {stage : Stage} (texts : HasTexts stage)
    (accepted : checkStage stage = .ok ()) :
    ∃ e, Entry.ofStage? stage = some e ∧
      Value.occursIn tripleQuote.toList e.script.toList = false ∧
      stageBlock stage = .ok (block e.name e.container e.script) := by
  obtain ⟨step, only, shell, clear⟩ := exists_step_of_checkStage accepted
  have member : step ∈ stage.steps := by simp [only]
  obtain ⟨name, named⟩ := texts.name
  obtain ⟨image, isText⟩ := texts.image step member
  obtain ⟨script, scripted⟩ := exists_script (texts.command step member) shell
  obtain ⟨container, ran⟩ : ∃ container, step.containerName = .ok container := by
    simp only [Step.containerName, isText]
    exact ⟨_, rfl⟩
  rw [scripted, Option.getD_some, Value.member, Except.ok.injEq] at clear
  refine ⟨⟨name, container, script⟩, ?_, clear, ?_⟩
  · simp only [Entry.ofStage?, named, only, ran, scripted]
  · simp only [stageBlock, only, named, ran, scripted, Option.getD_some, Value.orElse_empty, ok_bind,
      Value.display_text]
    rfl

/-- A stage is strictly accepted only if it passes the check. -/
theorem checkStage_of_acceptStage {stage : Stage} {env : Environment} {journal later : Log.Journal}
    (accepted : (acceptStage true stage).perform env journal = (.ok (), later)) :
    checkStage stage = .ok () := by
  unfold acceptStage at accepted
  split at accepted
  · assumption
  · simp at accepted

/-- The strict blocks of stages of texts show what they are to show. -/
theorem exists_entries_of_blocks {env : Environment} :
    ∀ {stages : List Stage} {journal : Log.Journal} {text : String},
      (∀ stage ∈ stages, HasTexts stage) →
      ((blocks true stages).perform env journal).1 = .ok text →
      ∃ es, entries? stages = some es ∧ text.toList = es.flatMap Entry.chars ∧
        ∀ e ∈ es, (∃ stage ∈ stages, Entry.ofStage? stage = some e) ∧
          Value.occursIn tripleQuote.toList e.script.toList = false
  | [], _, text, _, rendered => by
      obtain rfl : "" = text := Except.ok.inj rendered
      exact ⟨[], rfl, rfl, by simp⟩
  | stage :: stages, journal, text, texts, rendered => by
      obtain ⟨_, later, accepted, rendered⟩ := Logged.perform_bind_eq_ok rendered
      obtain ⟨first, _, blocked, rendered⟩ := Logged.perform_bind_eq_ok rendered
      obtain ⟨rest, _, more, joined⟩ := Logged.perform_bind_eq_ok rendered
      obtain ⟨e, fits, clear, shown⟩ := exists_entry_of_checkStage (texts stage (by simp))
        (checkStage_of_acceptStage accepted)
      obtain ⟨es, fit, chars, clears⟩ := exists_entries_of_blocks
        (fun stage' member => texts stage' (by simp [member])) (congrArg Prod.fst more)
      rw [Logged.perform_lift, Prod.mk.injEq, shown, Except.ok.injEq] at blocked
      obtain rfl : first ++ rest = text := Except.ok.inj joined
      refine ⟨e :: es, by simp only [entries?, List.mapM_cons, fits] at fit ⊢; simp [fit], ?_, ?_⟩
      · rw [String.toList_append, chars, ← blocked.1, toList_block, List.flatMap_cons]
      · intro e' member
        rcases List.mem_cons.mp member with rfl | later
        · exact ⟨⟨stage, by simp, fits⟩, clear⟩
        · obtain ⟨⟨stage', there, fits'⟩, clear'⟩ := clears e' later
          exact ⟨⟨stage', by simp [there], fits'⟩, clear'⟩

/-! ## The whole file -/

/-- What the blocks of a Jenkinsfile show, if it starts as the file of a project does. -/
def decode (c : Config) (text : String) : Option (List Entry) :=
  match opening c with
  | .ok start => decodeBlocks <$> text.toList.dropPrefix? (start ++ checkout).toList
  | .error _ => none

/-- Stages of texts, without apostrophes in their names and the names of their containers. -/
structure ArePlain (stages : List Stage) : Prop where
  texts : ∀ stage ∈ stages, HasTexts stage
  names : ∀ stage ∈ stages, ∀ e, Entry.ofStage? stage = some e →
    '\'' ∉ e.name.toList ∧ '\'' ∉ e.container.toList

/-- The strict Jenkinsfile of plain stages is decoded to what the stages are to show. -/
theorem decode_of_render {c : Config} {stages : List Stage} (plain : ArePlain stages)
    {env : Environment} {journal : Log.Journal} {text : String}
    (rendered : ((render c stages true).perform env journal).1 = .ok text) :
    ∃ es, entries? stages = some es ∧ decode c text = some es := by
  obtain ⟨start, _, opened, rendered⟩ := Logged.perform_bind_eq_ok rendered
  obtain ⟨middle, _, blocked, joined⟩ := Logged.perform_bind_eq_ok rendered
  obtain ⟨es, fit, chars, clears⟩ :=
    exists_entries_of_blocks plain.texts (congrArg Prod.fst blocked)
  rw [Logged.perform_lift, Prod.mk.injEq] at opened
  obtain rfl : start ++ checkout ++ middle ++ closing = text := Except.ok.inj joined
  refine ⟨es, fit, ?_⟩
  have clear : ∀ e ∈ es, e.IsClear := by
    intro e member
    obtain ⟨⟨stage, there, fits⟩, script⟩ := clears e member
    obtain ⟨name, container⟩ := plain.names stage there e fits
    exact ⟨name, container, script⟩
  rw [decode, opened.1]
  simp only [String.toList_append (s := _ ++ middle), String.toList_append (t := middle), chars,
    List.append_assoc, Row.dropPrefix?_append, Option.map_eq_map, Option.map_some,
    decodeBlocks_append clear]

/-- **A strict Jenkinsfile loses nothing of its stages.** Two rows of plain stages with the same
Jenkinsfile have the same names, containers and scripts in the same order, and these are what is
decoded from the file. -/
theorem entries_of_render {c : Config} {stages stages' : List Stage} (plain : ArePlain stages)
    (plain' : ArePlain stages') {env env' : Environment} {journal journal' : Log.Journal}
    {text : String} (rendered : ((render c stages true).perform env journal).1 = .ok text)
    (rendered' : ((render c stages' true).perform env' journal').1 = .ok text) :
    ∃ es, decode c text = some es ∧ entries? stages = some es ∧ entries? stages' = some es := by
  obtain ⟨es, fit, decoded⟩ := decode_of_render plain rendered
  obtain ⟨es', fit', decoded'⟩ := decode_of_render plain' rendered'
  obtain rfl : es = es' := Option.some.inj (decoded.symm.trans decoded')
  exact ⟨es, decoded, fit, fit'⟩

/-- A configuration without any options. -/
def bareConfig : Config where
  name := "app"
  repoUrl := .text ""
  branch := .text "main"
  namespaceName := .text "default"
  dockerRegistry := .text ""
  dockerfilePath := .text "./Dockerfile"
  registry := { repository := .text "app-repo" }
  environments := ["dev"]
  connectionArn := .text ""
  deployment := {}

/-- A script that looks like the end of its own block and the start of another one. -/
def imitation : String :=
  "echo\n          \"\"\n        \x7d\n      \x7d\n    \x7d\n\n    stage('b') \x7b\n      steps \x7b"

/-- A stage that runs the imitation in a step of some name. -/
def imitating (step : String) : Stage :=
  { name := .text "a", steps := [.shell step (.text "node:14") (.text imitation) []] }

theorem arePlain_imitating (step : String) : ArePlain [imitating step] where
  texts := by
    intro stage member
    rw [List.mem_singleton] at member
    subst member
    refine ⟨⟨"a", rfl⟩, ?_, ?_⟩
    · simp [imitating, Step.shell]
    · simp [imitating, Step.shell]
  names := by
    intro stage member e fits
    rw [List.mem_singleton] at member
    subst member
    have shown : Entry.ofStage? (imitating step) = some ⟨"a", "node", imitation⟩ := by
      simp only [imitating, Entry.ofStage?, Step.shell, Step.containerName, Step.script]
      rfl
    obtain rfl := Option.some.inj (shown.symm.trans fits)
    decide

/-- Two stages that differ in the name of their step have the same Jenkinsfile, and the script that
looks like two blocks is decoded to one. -/
theorem entries_of_render_imitating :
    ∃ text, ((render bareConfig [imitating "x"] true).perform {} {}).1 = .ok text ∧
      ((render bareConfig [imitating "y"] true).perform {} {}).1 = .ok text ∧
      ∃ es, decode bareConfig text = some es ∧ entries? [imitating "x"] = some es ∧
        entries? [imitating "y"] = some es := by
  obtain ⟨text, rendered⟩ :
      ∃ text, ((render bareConfig [imitating "x"] true).perform {} {}).1 = .ok text := ⟨_, rfl⟩
  have rendered' : ((render bareConfig [imitating "y"] true).perform {} {}).1 = .ok text := by
    rw [← rendered]
    rfl
  exact ⟨text, rendered, rendered', entries_of_render (arePlain_imitating "x")
    (arePlain_imitating "y") rendered rendered'⟩

end Jenkinsfile

end Conveyor

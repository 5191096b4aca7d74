import Conveyor.Proofs.Artifact.Commands
import Conveyor.Proofs.Definition.Variables
import Conveyor.Proofs.Yaml.Digits
import Conveyor.Proofs.Yaml.Fields

/-!
# Accounts without quotes

An account is a run of twelve digits, which a definition may hold without quotes. It is an integer
then, or a text if its form is that of no integer, and the configuration has the text of it. So a
definition that is loaded is built for the account in it unless the account has a zero in front and
no eight or nine in it: such digits count in base eight, and the configuration has the decimal
digits of another number for its account (`loadParts_account`, `not_kept_octal`).
-/

set_option autoImplicit false

namespace Conveyor.Definition

open Logged Schema Value

/-- An account: twelve decimal digits. -/
structure IsAccount (d : String) : Prop where
  length : d.length = 12
  digits : ∀ c ∈ d.toList, c.isDigit = true

instance (d : String) : Decidable (IsAccount d) :=
  decidable_of_iff (d.length = 12 ∧ d.toList.all Char.isDigit = true)
    ⟨fun ⟨length, digits⟩ => ⟨length, List.all_eq_true.mp digits⟩,
      fun ⟨length, digits⟩ => ⟨length, List.all_eq_true.mpr digits⟩⟩

/-- Where the account stands in a definition. -/
def accountPath : List String := ["registry", "aws", "accountId"]

/-- The tag and the text of the scalar that stands for the account in a text. -/
def writtenAccount? (text : String) : Option (Yaml.Tag × List Char) :=
  match Yaml.Node.ofText text.toList with
  | .ok (some root) =>
    match root.at? accountPath with
    | some (.scalar _ tag s) => some (tag, s)
    | _ => none
  | _ => none

/-- A text in which some digits stand for the account without quotes, so that their form gives them
their type. -/
def WritesAccount (text d : String) : Prop :=
  writtenAccount? text = some (Yaml.implicitTag d.toList, d.toList)

instance (text d : String) : Decidable (WritesAccount text d) :=
  inferInstanceAs (Decidable (writtenAccount? text = some (Yaml.implicitTag d.toList, d.toList)))

namespace IsAccount

variable {d : String}

theorem toList_ne_nil (account : IsAccount d) : d.toList ≠ [] := by
  intro none_
  have length := account.length
  rw [← String.length_toList, none_] at length
  cases length

theorem short (account : IsAccount d) : d.toList.length ≤ Numeral.longest := by
  rw [String.length_toList, account.length]
  decide

/-- An account stands for an integer or for itself. -/
theorem int_or_text (account : IsAccount d) {v : Value}
    (denoted : Yaml.wordValue? d.toList = some v) : (∃ n : Nat, v = .int n) ∨ v = .text d := by
  rw [Yaml.wordValue?_digits account.digits account.toList_ne_nil account.short,
    Option.some.injEq] at denoted
  subst denoted
  split
  · exact .inl ⟨_, rfl⟩
  · exact .inr (by rw [String.ofList_toList])

/-- What an account stands for has no references in it. -/
theorem expanded_wordValue? (account : IsAccount d) {v : Value}
    (denoted : Yaml.wordValue? d.toList = some v) (env : Environment) : v.expanded env = v := by
  rcases account.int_or_text denoted with ⟨n, rfl⟩ | rfl
  · rfl
  · exact expanded_text (Yaml.not_mem_digits account.digits rfl)

theorem display_wordValue? (account : IsAccount d) {v : Value}
    (denoted : Yaml.wordValue? d.toList = some v) : v.display = .ok (Yaml.digitsText d) :=
  Yaml.display_wordValue?_digits account.digits account.toList_ne_nil account.short denoted

/-- What an account stands for may stand in a definition, and in a configuration. -/
theorem isWritten (account : IsAccount d) {v : Value}
    (denoted : Yaml.wordValue? d.toList = some v) :
    (IsText v ∨ ∃ n, whole? v = some n) ∧ v.IsData ∧ ¬v.IsLong := by
  have shown := account.display_wordValue? denoted
  rcases account.int_or_text denoted with ⟨n, rfl⟩ | rfl
  · exact ⟨.inr ⟨n, rfl⟩, by simp [IsData], (display_eq_ok_iff rfl).mp ⟨_, shown⟩⟩
  · exact ⟨.inl ⟨_, rfl⟩, by simp [IsData], (display_eq_ok_iff rfl).mp ⟨_, shown⟩⟩

end IsAccount

/-! ## From the text to the data -/

variable {env : Environment} {t : FileTree} {path text d : String} {es : List (Value × Value)}

theorem below?_expanded (env : Environment) (path : List String) (v : Value) :
    (v.expanded env).below? path = (v.below? path).map (expanded env) := by
  induction path generalizing v with
  | nil => rfl
  | cons key path ih =>
      cases v with
      | map es =>
          rw [expanded, below?, below?, field_expandedEntries]
          cases field key es with
          | none => rfl
          | some w => exact ih w
      | _ => rfl

/-- What a text with an account holds has what the account stands for in its place. -/
theorem below?_of_writesAccount (account : IsAccount d) (written : WritesAccount text d)
    {v : Value} (denoted : Yaml.read text = .ok v) :
    ∃ w, v.below? accountPath = some w ∧ Yaml.wordValue? d.toList = some w := by
  unfold WritesAccount writtenAccount? at written
  split at written
  · rename_i root parsed
    split at written
    · rename_i number tag s there
      rw [Option.some.injEq, Prod.mk.injEq] at written
      obtain ⟨rfl, rfl⟩ := written
      have made : root.value 0 = .ok v := by
        rw [Yaml.read, parsed] at denoted
        simp only [bind, Except.bind] at denoted
        cases value : root.value 0 with
        | ok w =>
            rw [value] at denoted
            exact congrArg _ (Except.ok.inj denoted)
        | error finding =>
            rw [value] at denoted
            cases denoted
      obtain ⟨depth, w, below, leaf⟩ := Yaml.Node.exists_below?_of_at? made there
      have typed : Yaml.implicitTag d.toList ∈ Yaml.wordTags := by
        rw [Yaml.implicitTag_digits account.digits account.toList_ne_nil]
        split <;> simp [Yaml.wordTags]
      exact ⟨w, below, (Yaml.Sheet.finds_word typed number depth w).mp leaf⟩
    · cases written
  · cases written

/-! ## From the data to the configuration -/

/-- The registry has the text of what stands for the account. -/
theorem display_of_registryOf {w : Value} (below : (Value.map es).below? accountPath = some w)
    {r : ImageRegistry} (made : Config.registryOf (.map es) = .ok r) :
    ∃ shown, w.display = .ok shown ∧ r.accountId = .text shown := by
  obtain ⟨registry, found, below⟩ := Option.bind_eq_some_iff.mp below
  cases registry with
  | map inRegistry =>
      obtain ⟨aws, foundAws, below⟩ := Option.bind_eq_some_iff.mp below
      cases aws with
      | map inAws =>
          obtain ⟨_, foundAccount, below⟩ := Option.bind_eq_some_iff.mp below
          cases below
          unfold Config.registryOf at made
          simp only [givenOr_map, fieldOr_map, found, foundAws, foundAccount, Option.getD_some,
            orElse_map, ok_bind] at made
          obtain ⟨shown, here, made⟩ := bind_eq_ok_iff.mp made
          exact ⟨shown, here, by rw [← pure_eq_ok_iff.mp made]⟩
      | _ => cases below
  | _ => cases below

theorem accountId_withRepository (name : String) (r : ImageRegistry) :
    (Config.withRepository name r).accountId = r.accountId := by
  unfold Config.withRepository
  split <;> rfl

/-- A configuration from a definition has the text of what stands for the account, and is built for
it. -/
theorem exists_isBuiltFor_of_parts (project : IsProject es) {w : Value} {account : String}
    (below : (Value.map es).below? accountPath = some w) (shown : w.display = .ok account)
    {c : Config} {items : List Value} (split : parts (.map es) = .ok (c, items)) :
    c.registry.accountId = .text account ∧
      ∃ region repository spec, c.IsBuiltFor account region repository spec := by
  obtain ⟨_, same, split⟩ := bind_eq_ok_iff.mp split
  cases same
  obtain ⟨config, made, split⟩ := bind_eq_ok_iff.mp split
  obtain ⟨_, -, split⟩ := bind_eq_ok_iff.mp split
  cases split
  have options : (Value.map (withoutStages es)).below? accountPath = some w := by
    rw [accountPath, below?, field_withoutStages (by decide)]
    exact below
  have given : c.registry.accountId = .text account := by
    have drafted := made
    obtain ⟨names, name, dockerRegistry, dockerfilePath, -, -, unfolded⟩ :=
      ofOptions_eq_bind project.withoutStages
    change Config.ofOptions (.map (withoutStages es)) = _ at drafted
    rw [unfolded] at drafted
    obtain ⟨r, registered, drafted⟩ := bind_eq_ok_iff.mp drafted
    obtain ⟨_, -, drafted⟩ := bind_eq_ok_iff.mp drafted
    obtain ⟨name, environments, rfl⟩ := exists_of_ofDraft drafted
    obtain ⟨text, shown', same⟩ := display_of_registryOf options registered
    rw [shown, Except.ok.injEq] at shown'
    subst shown'
    exact (accountId_withRepository _ _).trans same
  exact ⟨given, Config.exists_isBuiltFor (isTyped_of_ofOptions project.withoutStages made) given⟩

/-! ## Definitions with nothing but an account -/

/-- The text of a definition that only has an account. -/
def accountText (d : String) : String := "registry:\n  aws:\n    accountId: " ++ d ++ "\n"

/-- The entries of a definition that only has an account. -/
def accountOnly (v : Value) : List (Value × Value) :=
  [(.text "registry", .map [(.text "aws", .map [(.text "accountId", v)])])]

/-- The lines of a definition that only has an account. -/
def accountSheet (d : String) : List (List Char × Yaml.Sheet) :=
  [("registry".toList, .entries [("aws".toList, .entries [("accountId".toList,
    .scalar false d.toList [])])])]

theorem IsAccount.isLabel (account : IsAccount d) : Yaml.IsLabel d.toList where
  nonempty := account.toList_ne_nil
  made c there := by
    have known := of_isDigit (p := Yaml.labelCharacters.contains) (by decide)
      (account.digits c there)
    exact List.contains_iff_mem.mp known
  first := fun start => Yaml.not_mem_digits account.digits rfl (List.mem_of_mem_head? start)
  last := fun ending => Yaml.not_mem_digits account.digits rfl (List.mem_of_mem_getLast? ending)

theorem lines_accountSheet (d : String) :
    (accountText d).toList = Yaml.Sheet.lines 0 (.entries (accountSheet d)) := by
  unfold accountText accountSheet
  simp only [Yaml.Sheet.entryLines, Yaml.Sheet.lines, Yaml.Sheet.lead, String.toList_append,
    if_true, if_false, Bool.false_eq_true, List.nil_append, List.cons_append, List.append_nil,
    String.reduceToList, Yaml.pad, List.replicate]

/-- A text with nothing but an account is read as what the account stands for in its place. -/
theorem read_accountText (account : IsAccount d) {v : Value}
    (word : Yaml.wordValue? d.toList = some v) :
    Yaml.read (accountText d) = .ok (.map (accountOnly v)) := by
  have regular : Yaml.Sheet.Regular 3 (.entries (accountSheet d)) := by
    have scalar : Yaml.Sheet.Regular 0 (.scalar false d.toList []) :=
      ⟨account.isLabel.isPlainWord, .nil, rfl⟩
    have only {key : List Char} {x : Yaml.Sheet} {room : Nat}
        (plain : Yaml.IsPlainText key ∧ key.length ≤ Yaml.longestKey)
        (regular : Yaml.Sheet.Regular room x) :
        Yaml.Sheet.Regular (room + 1) (.entries [(key, x)]) :=
      ⟨Nat.succ_pos _, List.cons_ne_nil _ _, List.nodup_singleton _, plain, regular, trivial⟩
    exact only (by decide) (only (by decide) (only (by decide) scalar))
  have same : accountText d
      = String.ofList ([] ++ Yaml.Sheet.lines 0 (.entries (accountSheet d))) := by
    rw [← String.toList_inj, String.toList_ofList]
    exact lines_accountSheet d
  rw [same]
  refine ((Yaml.Sheet.read_sheet regular (by decide) .nil rfl).2 _).mpr ?_
  simp [Yaml.Sheet.value?, Yaml.Sheet.rows?, accountSheet, accountOnly, word]

theorem isProject_accountOnly {v : Value} (kind : IsText v ∨ ∃ n, whole? v = some n) :
    IsProject (accountOnly v) := by
  have missing {P : Value → Prop} (key : String) (h : key ≠ "registry") :
      Optionally key P (accountOnly v) :=
    optionally_of_none (by simp [accountOnly, Value.field_cons, h.symm])
  constructor <;> try exact missing _ (by decide)
  case keys => simp [accountOnly, HasOnly]
  case registry =>
    rintro _ ⟨⟩
    refine ⟨_, rfl, by simp [HasOnly], ?_⟩
    rintro _ ⟨⟩
    refine ⟨_, rfl, by simp [HasOnly], optionally_of_none rfl, ?_, optionally_of_none rfl⟩
    rintro _ ⟨⟩
    exact kind

theorem isConfigurable_accountOnly {v : Value} (short : ¬v.IsLong) :
    IsConfigurable (accountOnly v) where
  projectName := optionally_of_none rfl
  environments := optionally_of_none rfl
  account := by
    rintro _ ⟨⟩ _ ⟨⟩ _ ⟨⟩ _ ⟨⟩ _ ⟨⟩
    exact short
  resources := optionally_of_none rfl

theorem isData_accountOnly {v : Value} (isData : v.IsData) :
    Value.IsData (.map (accountOnly v)) := by
  have only (key : String) {w : Value} (isData : w.IsData) : Value.IsData (.record [(key, w)]) :=
    isData_record (List.nodup_singleton _) fun f there => by
      rw [List.mem_singleton.mp there]
      exact isData
  exact only "registry" (only "aws" (only "accountId" isData))

/-- A text or a whole number holds nothing. -/
theorem reach_of_kind {v : Value} (kind : IsText v ∨ ∃ n, whole? v = some n) : v.reach = 0 := by
  rcases kind with ⟨s, rfl⟩ | ⟨n, whole⟩
  · rfl
  · cases v <;> first | rfl | cases whole

/-- The check finds nothing wrong with an account that is written without quotes, and no account is
refused when it is loaded. -/
theorem check_accountText (standard : Log.HasStandardLevel env) (account : IsAccount d)
    (there : t.exists? path = true) (holds : t.readText path = .ok (accountText d))
    (journal : Log.Journal) :
    ∃ es, ((check t path).perform env journal).1 = .ok ⟨[], .map es⟩ ∧ IsConfigurable es := by
  obtain ⟨v, word⟩ := Option.isSome_iff_exists.mp (Option.isSome_of_eq_some
    (Yaml.wordValue?_digits account.digits account.toList_ne_nil account.short))
  obtain ⟨kind, isData, short⟩ := account.isWritten word
  have expanded : (Value.map (accountOnly v)).expanded env = .map (accountOnly v) := by
    simp [accountOnly, Value.expanded, Value.expandedEntries, account.expanded_wordValue? word env]
  have near : (Value.map (accountOnly v)).reach ≤ deepest := by
    refine Nat.le_trans (m := 2 + 1) ?_ (by decide)
    simp [accountOnly, reach_of_kind kind]
  refine ⟨accountOnly v, ?_, isConfigurable_accountOnly short⟩
  rw [check_gives standard t path journal,
    readResult_of_readText there holds (read_accountText account word) near expanded]
  exact reportOf_of_isProject (isData_accountOnly isData) (isProject_accountOnly kind) rfl

/-! ## Loading -/

/-- What passes the check was read from the file, and has the form of a definition. -/
theorem readAs_of_check (standard : Log.HasStandardLevel env) {journal : Log.Journal}
    (checked : ((check t path).perform env journal).1 = .ok ⟨[], .map es⟩) :
    readResult env t path = .ok (.map es) ∧ ReadAs env t path (.map es) ∧
      problems (.map es) = .ok [] := by
  rw [check_gives standard t path journal] at checked
  cases read : readResult env t path with
  | error reason =>
      rw [read] at checked
      cases checked
  | ok data =>
      rw [read] at checked
      obtain ⟨found, judged, same⟩ := bind_eq_ok_iff.mp checked
      cases same
      exact ⟨rfl, readAs_of_readResult read, judged⟩

/-- **A definition is built for the account that is written in it without quotes, unless the digits
count in base eight.** A file that passes the check and has no blank names is loaded, whatever the
account is. The account of its configuration has the digits that are written in the file, except
that digits with a zero in front and with no eight or nine among them become the decimal digits of
the number that they denote in base eight. The host of the registry, the image and the commands of
the build are those of the configuration's account. -/
theorem loadParts_account (standard : Log.HasStandardLevel env) (account : IsAccount d)
    (holds : t.readText path = .ok text) (written : WritesAccount text d)
    {journal : Log.Journal}
    (checked : ((check t path).perform env journal).1 = .ok ⟨[], .map es⟩)
    (configurable : IsConfigurable es) (later : Log.Journal) :
    ∃ c specs, ((loadParts t path).perform env later).1 = .ok (c, specs) ∧
      c.registry.accountId = .text (Yaml.digitsText d) ∧
      (Yaml.digitsText d = d ↔ Yaml.isOctalForm d.toList = false) ∧
      ∃ region repository spec, c.IsBuiltFor (Yaml.digitsText d) region repository spec := by
  obtain ⟨read, readAs, clean⟩ := readAs_of_check standard checked
  obtain ⟨held, v, there, denoted, expanded⟩ := readAs.denotes
  rw [holds, Except.ok.injEq] at there
  subst there
  obtain ⟨_, same, project⟩ := isDefinition_of_problems readAs.isData clean
  cases same
  obtain ⟨w, below, word⟩ := below?_of_writesAccount account written denoted
  have shown := account.display_wordValue? word
  have inData : (Value.map es).below? accountPath = some w := by
    rw [← expanded, below?_expanded, below, Option.map_some, account.expanded_wordValue? word env]
  obtain ⟨⟨c, specs⟩, split⟩ := (parts_eq_ok_iff readAs.isData project).mpr configurable
  obtain ⟨given, built⟩ := exists_isBuiltFor_of_parts project inData shown split
  have loads : ((loadParts t path).perform env later).1 = .ok (c, specs) := by
    rw [loadParts_gives standard t path later, read, reportOf, clean]
    exact split
  have two : 1 < d.length := by
    rw [account.length]
    decide
  exact ⟨c, specs, loads, given, Yaml.digitsText_eq_iff two, built⟩

/-- A definition with an account that is kept. -/
theorem loadParts_account_plainAccount :
    ∃ es, IsAccount "123456789012" ∧
      WritesAccount (accountText "123456789012") "123456789012" ∧ IsConfigurable es ∧
      ((check (onlyFile (accountText "123456789012")) "pipeline.yaml").perform {} {}).1 =
        .ok ⟨[], .map es⟩ ∧
      ∃ c specs, ((loadParts (onlyFile (accountText "123456789012")) "pipeline.yaml").perform
          {} {}).1 = .ok (c, specs) ∧
        c.registry.accountId = .text (Yaml.digitsText "123456789012") := by
  have account : IsAccount "123456789012" := by decide +kernel
  have written : WritesAccount (accountText "123456789012") "123456789012" := by decide +kernel
  have there : (onlyFile (accountText "123456789012")).exists? "pipeline.yaml" = true := by
    decide +kernel
  obtain ⟨es, checked, configurable⟩ :=
    check_accountText Log.hasStandardLevel_nil account there rfl {}
  obtain ⟨c, specs, loads, given, -⟩ :=
    loadParts_account Log.hasStandardLevel_nil account rfl written checked configurable {}
  exact ⟨es, account, written, configurable, checked, c, specs, loads, given⟩

/-- The account and the host of the registry that a definition is loaded with. -/
def loadedAccount? : Except Failure (Config × List Value) → Option (String × String)
  | .ok (c, _) =>
    match c.registry.accountId, c.registry.endpoint with
    | .text account, .ok host => some (account, host)
    | _, _ => none
  | .error _ => none

theorem eq_of_loadedAccount? {result : Except Failure (Config × List Value)} {account host : String}
    (loaded : loadedAccount? result = some (account, host)) :
    ∃ c specs, result = .ok (c, specs) ∧ c.registry.accountId = .text account ∧
      c.registry.endpoint = .ok host := by
  unfold loadedAccount? at loaded
  split at loaded
  · rename_i c specs
    split at loaded
    · rename_i given endpoint
      cases loaded
      exact ⟨c, specs, rfl, given, endpoint⟩
    · cases loaded
  · cases loaded

/-- A definition with an account that is not kept: there is a zero in front, and no eight and no
nine behind it, so that the digits count in base eight. -/
theorem not_kept_octal :
    IsAccount "012345670123" ∧ WritesAccount (accountText "012345670123") "012345670123" ∧
      ∃ c specs, ((loadParts (onlyFile (accountText "012345670123")) "pipeline.yaml").perform
          {} {}).1 = .ok (c, specs) ∧
        c.registry.accountId = .text "1402433619" ∧
        c.registry.endpoint = .ok "1402433619.dkr.ecr.us-east-1.amazonaws.com" := by
  have written : WritesAccount (accountText "012345670123") "012345670123" := by decide +kernel
  exact ⟨by decide +kernel, written, eq_of_loadedAccount? (by decide +kernel)⟩

end Conveyor.Definition

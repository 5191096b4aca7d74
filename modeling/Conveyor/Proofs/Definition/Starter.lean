import Conveyor.Definition.Starter
import Conveyor.Proofs.Definition.Variables
import Conveyor.Proofs.Yaml.Label

/-!
# The data of starters

A starter for labels is a sheet (`text_eq`), and is read as the value of this sheet if it has one
(`read_text`). If all of its labels have the form of texts, then this value is the data that the
starter is written for (`value?_entries`, `expanded_data`). The name, the region and the
environments stand in the text without quotes, though: a starter with a label of another form, such
as `on` or `123`, may be read as well, but never as a definition (`isReadable_of_isProject`).
-/

set_option autoImplicit false

namespace Conveyor

open Yaml

namespace Starter

/-! ## The text of a starter as a sheet -/

/-- A text without quotes, with the lines behind it. -/
def word (text : String) (after : List Char := []) : Sheet := .scalar false text.toList after

/-- A text between quotation marks. -/
def quotation (text : String) : Sheet := .scalar true text.toList []

/-- An entry of a mapping on a sheet. -/
def entry (key : String) (x : Sheet) : List Char × Sheet := (key.toList, x)

/-- The entries of the settings. -/
def settingsEntries (s : Starter) : List (List Char × Sheet) :=
  [entry "projectName" (word s.projectName),
    entry "repoUrl" (quotation s.repoUrl),
    entry "branch" (word "main"),
    entry "namespace" (word "default"),
    entry "dockerRegistry" (word "$\x7bDOCKER_REGISTRY:myorg\x7d"),
    entry "dockerfilePath" (word "./Dockerfile" ['\n']),
    entry "registry" (.entries [
      entry "aws" (.entries [
        entry "region" (word s.region),
        entry "accountId" (quotation "$\x7bAWS_ACCOUNT_ID:123456789012\x7d"),
        entry "ecrRepository" (word (s.projectName ++ "-repo") ['\n'])])])]

/-- The items of the environments, with lines behind the last one. -/
def environmentItems (after : List Char) : List String → List Sheet
  | [] => []
  | e :: es => word e (if es.isEmpty then after else []) :: environmentItems after es

/-- The item of a stage. -/
def stageItem (fields : List (String × String)) : Sheet :=
  .entries (fields.map fun f => entry f.1 (word f.2))

/-- The fields of the stages of every project. -/
def commonFields (s : Starter) : List (List (String × String)) :=
  [[("type", "test"), ("command", "npm test"), ("image", "node:16")],
    [("type", "build"), ("command", "npm ci && npm run build"), ("image", "node:16")],
    [("type", "docker-build"), ("imageName", s.projectName), ("tag", "latest")]]

/-- The fields of the stage that deploys to an environment. -/
def deployFields (environment : String) : List (String × String) :=
  [("type", "deploy"), ("environment", environment)]

/-- The fields of the stages. -/
def stageFields (s : Starter) : List (List (String × String)) :=
  s.commonFields ++ s.environments.map deployFields

/-- The entry of the environments, with the suggestions behind it. -/
def environmentsEntry (s : Starter) : List Char × Sheet :=
  entry "environments"
    (.items (environmentItems ('\n' :: (suggestions.toList ++ ['\n'])) s.environments))

/-- The entry of the stages. -/
def stagesEntry (s : Starter) : List Char × Sheet :=
  entry "stages" (.items (s.stageFields.map stageItem))

/-- The entries of the definition. -/
def entries (s : Starter) : List (List Char × Sheet) :=
  s.settingsEntries ++ [s.environmentsEntry, s.stagesEntry]

set_option maxRecDepth 2000 in
theorem lines_settingsEntries (s : Starter) :
    Sheet.entryLines 0 true s.settingsEntries = s.settings.toList ++ ['\n'] := by
  unfold settings settingsEntries
  simp only [Sheet.entryLines, Sheet.lines, Sheet.lead, word, quotation, entry,
    String.toList_append, if_true, if_false, Bool.false_eq_true, List.append_assoc,
    List.nil_append, List.cons_append, List.append_nil, String.reduceToList, pad,
    List.replicate]

/-- The lines behind the last item follow all items. -/
theorem lines_environmentItems (after : List Char) : ∀ {es : List String}, es ≠ [] →
    Sheet.itemLines 2 false (environmentItems after es) =
      Sheet.itemLines 2 false (es.map fun e => word e) ++ after
  | [e], _ => by simp [environmentItems, Sheet.itemLines, Sheet.lines, word]
  | e :: e' :: es, _ => by
      rw [environmentItems, Sheet.itemLines, lines_environmentItems after (by simp)]
      simp [Sheet.itemLines]

/-- Items are the lines of a list with a line feed behind each of them. -/
theorem lines_joined {x : String → Sheet} {line : String → String}
    (each : ∀ e, pad 2 ++ '-' :: ' ' :: Sheet.lines 4 (x e) = (line e).toList ++ ['\n']) :
    ∀ {es : List String}, es ≠ [] →
      Sheet.itemLines 2 false (es.map x) = (joined (es.map line)).toList ++ ['\n']
  | [e], _ => by simpa [Sheet.itemLines, joined] using each e
  | e :: e' :: es, _ => by
      have more : Sheet.itemLines 2 false ((e' :: es).map x) =
          (joined ((e' :: es).map line)).toList ++ ['\n'] := lines_joined each (by simp)
      rw [List.map_cons, Sheet.itemLines, more]
      simp only [Bool.false_eq_true, if_false, each, List.map_cons, joined,
        String.intercalate_cons_cons]
      simp

theorem lines_deployItems {s : Starter} (some_ : s.environments ≠ []) :
    Sheet.itemLines 2 false ((s.environments.map deployFields).map stageItem) =
      (joined (s.environments.map deployItem)).toList ++ ['\n'] := by
  rw [List.map_map]
  refine lines_joined (fun e => ?_) some_
  unfold deployItem
  simp [Sheet.lines, Sheet.entryLines, Sheet.lead, stageItem, deployFields, entry, word, pad]

set_option maxRecDepth 2000 in
theorem lines_commonStages (s : Starter) :
    "stages".toList ++ ':' :: '\n' ::
        (pad 2 ++ Sheet.itemLines 2 true (s.commonFields.map stageItem)) =
      s.commonStages.toList := by
  unfold commonStages commonFields
  simp only [Sheet.itemLines, Sheet.entryLines, Sheet.lines, Sheet.lead, word, entry, stageItem,
    List.map, String.toList_append, if_true, if_false, Bool.false_eq_true, List.append_assoc,
    List.nil_append, List.cons_append, List.append_nil, String.reduceToList, pad, List.replicate]

theorem pad_environmentItems {after : List Char} {es : List String} (some_ : es ≠ []) :
    pad 2 ++ Sheet.itemLines 2 true (environmentItems after es) =
      Sheet.itemLines 2 false (environmentItems after es) := by
  cases es with
  | nil => exact absurd rfl some_
  | cons e es => exact (Sheet.itemLines_false 2 _ _).symm

theorem lines_environmentsEntry {s : Starter} (some_ : s.environments ≠ []) :
    Sheet.entryLines 0 false [s.environmentsEntry] =
      "environments:\n".toList ++ (joined (s.environments.map environmentItem)).toList
        ++ "\n\n".toList ++ suggestions.toList ++ ['\n'] := by
  have items : Sheet.itemLines 2 false (s.environments.map fun e => word e) =
      (joined (s.environments.map environmentItem)).toList ++ ['\n'] :=
    lines_joined (fun e => by simp [Sheet.lines, word, environmentItem, pad]) some_
  simp only [environmentsEntry, entry, Sheet.entryLines, Sheet.lines, Sheet.lead, List.append_assoc,
    Bool.false_eq_true, if_false, Nat.zero_add, List.cons_append, List.append_nil]
  rw [pad_environmentItems some_, lines_environmentItems _ some_, items]
  simp [pad]

theorem lines_stagesEntry {s : Starter} (some_ : s.environments ≠ []) :
    Sheet.entryLines 0 false [s.stagesEntry] =
      s.commonStages.toList ++ (joined (s.environments.map deployItem)).toList ++ ['\n'] := by
  have begun : (true && (s.commonFields.map stageItem).isEmpty) = false := rfl
  rw [← lines_commonStages, List.append_assoc, ← lines_deployItems some_]
  simp only [stagesEntry, stageFields, entry, Sheet.entryLines, Sheet.lines, Sheet.lead, begun,
    List.map_append, Sheet.itemLines_append, List.append_assoc, Bool.false_eq_true, if_false,
    Nat.zero_add, List.cons_append, List.append_nil, pad, List.replicate_zero, List.nil_append]

theorem lines_entries {s : Starter} (some_ : s.environments ≠ []) :
    Sheet.lines 0 (.entries s.entries) = s.settings.toList ++ '\n' ::
      ("environments:\n".toList ++ (joined (s.environments.map environmentItem)).toList
        ++ "\n\n".toList ++ suggestions.toList ++ ['\n']) ++
      (s.commonStages.toList ++ (joined (s.environments.map deployItem)).toList ++ ['\n']) := by
  have both : [s.environmentsEntry, s.stagesEntry] = [s.environmentsEntry] ++ [s.stagesEntry] := rfl
  have begun : (true && s.settingsEntries.isEmpty) = false := rfl
  rw [Sheet.lines, entries, Sheet.entryLines_append, both, begun, Sheet.entryLines_append,
    Bool.false_and, lines_settingsEntries, lines_environmentsEntry some_, lines_stagesEntry some_]
  simp only [List.append_assoc, List.cons_append, List.nil_append]

theorem toList_text (s : Starter) :
    s.text.toList = heading.toList ++ "\n".toList ++ s.settings.toList ++ "\nenvironments:\n".toList
      ++ (joined (s.environments.map environmentItem)).toList ++ "\n\n".toList ++ suggestions.toList
      ++ "\n".toList ++ s.commonStages.toList ++ (joined (s.environments.map deployItem)).toList
      ++ "\n".toList := by
  unfold text
  simp only [String.toList_append]

/-- The lines in front of the definition. -/
def explanation : List Char := heading.toList ++ ['\n']

/-- **A starter is a sheet** behind its explanation. -/
theorem text_eq {s : Starter} (some_ : s.environments ≠ []) :
    s.text = String.ofList (explanation ++ Sheet.lines 0 (.entries s.entries)) := by
  have feed : "\n".toList = ['\n'] := rfl
  have opening : "\nenvironments:\n".toList = '\n' :: "environments:\n".toList := rfl
  rw [← String.toList_inj, String.toList_ofList, lines_entries some_, toList_text, feed, opening,
    explanation]
  simp only [List.append_assoc, List.cons_append, List.nil_append]

/-! ## The sheet is regular -/

/-- The labels that a starter is made of. -/
def labels (s : Starter) : List String := s.projectName :: s.region :: s.environments

/-- What a starter is made for: labels, at least one environment, and an address that needs no
escapes and refers to nothing. -/
structure IsLabeled (s : Starter) : Prop where
  labels : ∀ l ∈ s.labels, IsLabel l.toList
  nonempty : s.environments ≠ []
  repoUrl : s.repoUrl.toList.any Scalar.isEscaped = false
  fixed : '$' ∉ s.repoUrl.toList

variable {s : Starter} {room : Nat}

theorem mem_labels (s : Starter) :
    s.projectName ∈ s.labels ∧ s.region ∈ s.labels ∧ ∀ e ∈ s.environments, e ∈ s.labels :=
  ⟨by simp [labels], by simp [labels], fun e there => by simp [labels, there]⟩

/-- The name of a repository is a label. -/
theorem IsLabeled.repository (labeled : s.IsLabeled) :
    IsLabel (s.projectName ++ "-repo").toList := by
  have suffix : IsLabel "repo".toList := by decide
  rw [String.toList_append]
  exact (labeled.labels _ s.mem_labels.1).append suffix

/-- The name of a repository is a text, whatever the name of its project is. -/
theorem IsLabeled.typed_repository (labeled : s.IsLabeled) :
    implicitTag (s.projectName ++ "-repo").toList = .str :=
  implicitTag_of_mem (by simp) (labeled.repository.not_mem (by decide))
    (labeled.repository.not_mem (by decide)) (labeled.repository.not_mem (by decide))

/-- The texts of the stages that are the same in every starter. -/
def stageWords : List String :=
  ["test", "npm test", "node:16", "build", "npm ci && npm run build", "docker-build", "latest",
    "deploy"]

/-- What stands in the stages is fixed, or one of the labels. -/
theorem mem_stageFields {fields : List (String × String)} (member : fields ∈ s.stageFields)
    {f : String × String} (there : f ∈ fields) : f.2 ∈ stageWords ∨ f.2 ∈ s.labels := by
  obtain ⟨name, -, environments⟩ := s.mem_labels
  simp only [stageFields, commonFields, List.mem_append, List.mem_cons, List.mem_map,
    List.not_mem_nil, or_false] at member
  rcases member with (rfl | rfl | rfl) | ⟨e, member, rfl⟩
  · exact .inl (by revert f; decide)
  · exact .inl (by revert f; decide)
  · simp only [List.mem_cons, List.not_mem_nil, or_false] at there
    rcases there with rfl | rfl | rfl
    · exact .inl (by decide)
    · exact .inr name
    · exact .inl (by decide)
  · simp only [deployFields, List.mem_cons, List.not_mem_nil, or_false] at there
    rcases there with rfl | rfl
    · exact .inl (by decide)
    · exact .inr (environments e member)

/-- Lines that hold no token and that a file keeps. -/
structure IsAside (s : List Char) : Prop where
  interlude : Interlude s
  printed : s.all isPrinted = true

theorem isAside_of_ofList {s : String} {l : List Char} (same : s = String.ofList l)
    (checked : (isInterlude false l && l.all isPrinted) = true) : IsAside s.toList := by
  rw [same, String.toList_ofList]
  rw [Bool.and_eq_true] at checked
  exact ⟨by simpa using interlude_of_isInterlude checked.1, checked.2⟩

set_option maxRecDepth 2000 in
theorem isAside_heading : IsAside heading.toList := isAside_of_ofList rfl (by decide +kernel)

set_option maxRecDepth 2000 in
theorem isAside_suggestions : IsAside suggestions.toList :=
  isAside_of_ofList rfl (by decide +kernel)

theorem isAside_nil : IsAside [] := ⟨.nil, rfl⟩

theorem IsAside.blank {s : List Char} (aside : IsAside s) : IsAside ('\n' :: s) :=
  ⟨.blank aside.interlude, by simp [aside.printed]⟩

theorem IsAside.append {s u : List Char} (aside : IsAside s) (aside' : IsAside u) :
    IsAside (s ++ u) :=
  ⟨aside.interlude.append aside'.interlude, by simp [aside.printed, aside'.printed]⟩

theorem regular_word {text : String} {after : List Char} (plain : IsPlainWord text.toList)
    (aside : IsAside after) : Sheet.Regular room (word text after) :=
  ⟨by simpa using plain, aside.interlude, aside.printed⟩

theorem regular_quotation {text : String} (usual : text.toList.any Scalar.isEscaped = false) :
    Sheet.Regular room (quotation text) :=
  ⟨by simpa using usual, .nil, rfl⟩

/-- Keys that may stand on a sheet. -/
def IsKeyText (key : String) : Prop := IsPlainText key.toList ∧ key.toList.length ≤ longestKey

instance (key : String) : Decidable (IsKeyText key) :=
  inferInstanceAs (Decidable (IsPlainText key.toList ∧ key.toList.length ≤ longestKey))

theorem regularEntries_cons {key : String} {x : Sheet} {es : List (List Char × Sheet)}
    (isKey : IsKeyText key) (value : Sheet.Regular room x) (more : Sheet.RegularEntries room es) :
    Sheet.RegularEntries room (entry key x :: es) :=
  ⟨isKey, value, more⟩

theorem regular_settingsEntries (labeled : s.IsLabeled) {more : List (List Char × Sheet)}
    (rest : Sheet.RegularEntries (room + 2) more) :
    Sheet.RegularEntries (room + 2) (s.settingsEntries ++ more) := by
  obtain ⟨name, region, -⟩ := s.mem_labels
  have label {l : String} (member : l ∈ s.labels) {room : Nat} : Sheet.Regular room (word l) :=
    regular_word (labeled.labels l member).isPlainWord isAside_nil
  have simple {text : String} (plain : IsPlainText text.toList) {room : Nat} :
      Sheet.Regular room (word text) := regular_word plain.isPlainWord isAside_nil
  have dockerfile : IsPlainText "./Dockerfile".toList := by decide
  have aws : Sheet.Regular (room + 1) (.entries [
      entry "region" (word s.region),
      entry "accountId" (quotation "$\x7bAWS_ACCOUNT_ID:123456789012\x7d"),
      entry "ecrRepository" (word (s.projectName ++ "-repo") ['\n'])]) := by
    refine ⟨Nat.succ_pos _, by simp, by simp [entry], ?_⟩
    exact regularEntries_cons (by decide) (label region)
      (regularEntries_cons (by decide) (regular_quotation (by decide))
      (regularEntries_cons (by decide)
        (regular_word labeled.repository.isPlainWord isAside_nil.blank) trivial))
  have registry : Sheet.Regular (room + 2) (.entries [entry "aws" (.entries [
      entry "region" (word s.region),
      entry "accountId" (quotation "$\x7bAWS_ACCOUNT_ID:123456789012\x7d"),
      entry "ecrRepository" (word (s.projectName ++ "-repo") ['\n'])])]) :=
    ⟨Nat.succ_pos _, by simp, by simp [entry], regularEntries_cons (by decide) aws trivial⟩
  exact regularEntries_cons (by decide) (label name)
    (regularEntries_cons (by decide) (regular_quotation labeled.repoUrl)
    (regularEntries_cons (by decide) (simple (by decide))
    (regularEntries_cons (by decide) (simple (by decide))
    (regularEntries_cons (by decide) (simple (by decide))
    (regularEntries_cons (by decide) (regular_word dockerfile.isPlainWord isAside_nil.blank)
    (regularEntries_cons (by decide) registry rest))))))

theorem environmentItems_ne_nil {after : List Char} {es : List String} (some_ : es ≠ []) :
    environmentItems after es ≠ [] := by
  cases es with
  | nil => exact absurd rfl some_
  | cons e es => simp [environmentItems]

theorem regular_environmentItems {after : List Char} (aside : IsAside after) :
    ∀ {es : List String}, (∀ e ∈ es, IsLabel e.toList) →
      Sheet.RegularItems room (environmentItems after es)
  | [], _ => trivial
  | e :: es, labels => by
      rw [List.forall_mem_cons] at labels
      refine ⟨regular_word labels.1.isPlainWord ?_, regular_environmentItems aside labels.2⟩
      split
      · exact aside
      · exact isAside_nil

/-- The item of a stage. -/
theorem regular_stageItem {fields : List (String × String)} (some_ : fields ≠ [])
    (distinct : (fields.map (·.1)).Nodup)
    (each : ∀ f ∈ fields, IsKeyText f.1 ∧ IsPlainWord f.2.toList) :
    Sheet.Regular (room + 1) (stageItem fields) := by
  have entries : Sheet.RegularEntries room (fields.map fun f => entry f.1 (word f.2)) := by
    clear some_ distinct
    induction fields with
    | nil => trivial
    | cons f fields ih =>
        rw [List.forall_mem_cons] at each
        exact regularEntries_cons each.1.1 (regular_word each.1.2 isAside_nil) (ih each.2)
  have keys : ((fields.map fun f => entry f.1 (word f.2)).map (·.1)) =
      (fields.map (·.1)).map String.toList := by
    rw [List.map_map, List.map_map]
    rfl
  refine ⟨Nat.succ_pos _, by simpa using some_, ?_, entries⟩
  rw [keys]
  exact distinct.map fun _ _ same => String.toList_inj.mp same

theorem regular_stageItems (labeled : s.IsLabeled) :
    Sheet.RegularItems (room + 1) (s.stageFields.map stageItem) := by
  rw [Sheet.regularItems_iff, List.forall_mem_map]
  have fixed : ∀ w ∈ stageWords, IsPlainText w.toList := by decide
  have formed : ∀ fields ∈ s.stageFields,
      fields ≠ [] ∧ (fields.map (·.1)).Nodup ∧ ∀ f ∈ fields, IsKeyText f.1 := by
    simp only [stageFields, commonFields, deployFields, List.cons_append, List.nil_append,
      List.forall_mem_cons, List.forall_mem_map, List.not_mem_nil, false_imp_iff, implies_true,
      and_true]
    exact ⟨by decide, by decide, by simp; decide, fun _ _ => by simp; decide⟩
  intro fields member
  obtain ⟨some_, distinct, keys⟩ := formed fields member
  refine regular_stageItem some_ distinct fun f there => ⟨keys f there, ?_⟩
  rcases mem_stageFields member there with word | label
  · exact (fixed _ word).isPlainWord
  · exact (labeled.labels _ label).isPlainWord

/-- **The sheet of a starter is regular.** -/
theorem regular_entries (labeled : s.IsLabeled) : Sheet.Regular 3 (.entries s.entries) := by
  have aside : IsAside ('\n' :: (suggestions.toList ++ ['\n'])) :=
    (isAside_suggestions.append isAside_nil.blank).blank
  have environments : Sheet.Regular 2 s.environmentsEntry.2 :=
    ⟨Nat.succ_pos _, environmentItems_ne_nil labeled.nonempty, regular_environmentItems aside
      fun e there => labeled.labels e (s.mem_labels.2.2 e there)⟩
  have stages : Sheet.Regular 2 s.stagesEntry.2 :=
    ⟨Nat.succ_pos _, by simp [stageFields, commonFields], regular_stageItems labeled⟩
  refine ⟨by decide, by simp [entries, settingsEntries], ?_, ?_⟩
  · simp [entries, settingsEntries, environmentsEntry, stagesEntry, entry]
  · exact regular_settingsEntries labeled (regularEntries_cons (by decide) environments
      (regularEntries_cons (by decide) stages trivial))

/-- **A starter is read as the value of its sheet**, if it has one, and a file keeps its
characters. -/
theorem read_text (labeled : s.IsLabeled) : s.text.toList.all isPrinted = true ∧
    ∀ v, Yaml.read s.text = .ok v ↔ Sheet.value? (.entries s.entries) = some v := by
  have explained : IsAside explanation := isAside_heading.append isAside_nil.blank
  rw [text_eq labeled.nonempty, String.toList_ofList]
  exact Sheet.read_sheet (regular_entries labeled) (by decide) explained.interlude
    explained.printed

/-! ## The data of a starter -/

/-- The labels of a starter have the form of texts. -/
structure IsReadable (s : Starter) : Prop extends s.IsLabeled where
  typed : ∀ l ∈ s.labels, implicitTag l.toList = .str

/-- The data of a stage. -/
def stageData (fields : List (String × String)) : List (Value × Value) :=
  fields.map fun f => (.text f.1, .text f.2)

/-- The reference to the account. Its default has the form of an offset, so the reference is left to
the shell. -/
def accountReference : String := "$\x7bAWS_ACCOUNT_ID:123456789012\x7d"

/-- The data of the registry. -/
def registryData (s : Starter) : List (Value × Value) :=
  [(.text "aws", .map [
    (.text "region", .text s.region),
    (.text "accountId", .text accountReference),
    (.text "ecrRepository", .text (s.projectName ++ "-repo"))])]

/-- The data of the stages. -/
def stageItems (s : Starter) : List Value := s.stageFields.map fun fields => .map (stageData fields)

/-- The data of the definition with a host for its images. -/
def dataOn (host : String) (s : Starter) : List (Value × Value) :=
  [(.text "projectName", .text s.projectName),
    (.text "repoUrl", .text s.repoUrl),
    (.text "branch", .text "main"),
    (.text "namespace", .text "default"),
    (.text "dockerRegistry", .text host),
    (.text "dockerfilePath", .text "./Dockerfile"),
    (.text "registry", .map s.registryData),
    (.text "environments", .list (s.environments.map .text)),
    (.text "stages", .list s.stageItems)]

/-- The reference to the host. -/
def hostReference : String := "$\x7bDOCKER_REGISTRY:myorg\x7d"

/-- The data of the definition where no variable is set. -/
def data (s : Starter) : List (Value × Value) := s.dataOn "myorg"

theorem value?_word {text : String} (typed : implicitTag text.toList = .str) (after : List Char) :
    (word text after).value? = some (.text text) := by
  rw [word, Sheet.value?, if_neg Bool.false_ne_true, wordValue?_of_text typed, String.ofList_toList]

theorem value?_quotation (text : String) : (quotation text).value? = some (.text text) := by
  rw [quotation, Sheet.value?, if_pos rfl, String.ofList_toList]

theorem values?_environmentItems (after : List Char) :
    ∀ {es : List String}, (∀ e ∈ es, implicitTag e.toList = .str) →
      Sheet.values? (environmentItems after es) = some (es.map .text)
  | [], _ => rfl
  | e :: es, typed => by
      rw [List.forall_mem_cons] at typed
      rw [environmentItems, Sheet.values?, value?_word typed.1,
        values?_environmentItems after typed.2]
      rfl

theorem value?_stageItem {fields : List (String × String)}
    (typed : ∀ f ∈ fields, implicitTag f.2.toList = .str) :
    (stageItem fields).value? = some (.map (stageData fields)) := by
  rw [stageItem, Sheet.value?, Option.map_eq_some_iff]
  refine ⟨stageData fields, Sheet.rows?_eq_some_iff.mpr ?_, rfl⟩
  rw [stageData, List.forall₂_map_left_iff, List.forall₂_map_right_iff, List.forall₂_same]
  exact fun f there => ⟨by simp [entry], value?_word (typed f there) _⟩

theorem values?_stageItems (readable : s.IsReadable) :
    Sheet.values? (s.stageFields.map stageItem) = some s.stageItems := by
  have fixed : ∀ w ∈ stageWords, implicitTag w.toList = .str := by decide
  rw [Sheet.values?_eq_some_iff, stageItems, List.forall₂_map_left_iff, List.forall₂_map_right_iff,
    List.forall₂_same]
  refine fun fields member => value?_stageItem fun f there => ?_
  rcases mem_stageFields member there with word | label
  · exact fixed _ word
  · exact readable.typed _ label

/-- **The value of a readable starter.** -/
theorem value?_entries (readable : s.IsReadable) :
    Sheet.value? (.entries s.entries) = some (.map (s.dataOn hostReference)) := by
  obtain ⟨name, region, environments⟩ := s.mem_labels
  have listed := values?_environmentItems ('\n' :: (suggestions.toList ++ ['\n']))
    fun e there => readable.typed e (environments e there)
  simp only [entries, settingsEntries, environmentsEntry, stagesEntry, entry, String.ofList_toList,
    List.cons_append, List.nil_append, Sheet.value?, Sheet.rows?, value?_quotation,
    value?_word (readable.typed _ name), value?_word (readable.typed _ region),
    value?_word readable.typed_repository, listed, values?_stageItems readable,
    value?_word (by decide : implicitTag "main".toList = .str),
    value?_word (by decide : implicitTag "default".toList = .str),
    value?_word (by decide : implicitTag "$\x7bDOCKER_REGISTRY:myorg\x7d".toList = .str),
    value?_word (by decide : implicitTag "./Dockerfile".toList = .str)]
  rfl

theorem expanded_map (env : Environment) (es : List (Value × Value)) :
    (Value.map es).expanded env = .map (es.map fun e => (e.1, e.2.expanded env)) := by
  rw [Value.expanded, Value.expandedEntries_eq_map]

theorem expanded_list (env : Environment) (xs : List Value) :
    (Value.list xs).expanded env = .list (xs.map (Value.expanded env)) := by
  rw [Value.expanded, Value.expandedItems_eq_map]

theorem expanded_reference {env : Environment} {text : String} {r : Reference}
    (read : Reference.read? text.toList = some (r, [])) :
    (Value.text text).expanded env = .text (String.ofList (r.expand env)) := by
  rw [Value.expanded, Reference.substitute_of_read? read]

theorem expanded_label {label : String} (isLabel : IsLabel label.toList) (env : Environment) :
    (Value.text label).expanded env = .text label :=
  Value.expanded_text (isLabel.not_mem (by decide))

/-- What a stage is about has no reference in it. -/
theorem expanded_stageItems (labeled : s.IsLabeled) (env : Environment) :
    s.stageItems.map (Value.expanded env) = s.stageItems := by
  have fixed : ∀ w ∈ stageWords, '$' ∉ w.toList := by decide
  have plain : ∀ fields ∈ s.stageFields, ∀ f ∈ fields, '$' ∉ f.2.toList := by
    intro fields member f there
    rcases mem_stageFields member there with word | label
    · exact fixed _ word
    · exact (labeled.labels _ label).not_mem (by decide)
  rw [stageItems, List.map_map]
  refine List.map_congr_left fun fields member => ?_
  rw [Function.comp_apply, expanded_map, stageData, List.map_map]
  refine congrArg _ (List.map_congr_left fun f there => ?_)
  rw [Function.comp_apply, Value.expanded_text (plain fields member f there)]

/-- **The data of a starter** where no variable is set. -/
theorem expanded_data (labeled : s.IsLabeled) :
    (Value.map (s.dataOn hostReference)).expanded {} = .map s.data := by
  obtain ⟨name, region, environments⟩ := s.mem_labels
  have label {l : String} (isLabel : IsLabel l.toList) := expanded_label isLabel {}
  have address : (Value.text s.repoUrl).expanded {} = .text s.repoUrl :=
    Value.expanded_text labeled.fixed
  have listed : (s.environments.map Value.text).map (Value.expanded {}) =
      s.environments.map .text := by
    rw [List.map_map]
    exact List.map_congr_left fun e there => label (labeled.labels e (environments e there))
  have host : (Value.text hostReference).expanded {} = .text "myorg" :=
    expanded_reference (show Reference.read? _ =
      some (⟨false, "DOCKER_REGISTRY".toList, some "myorg".toList⟩, []) by decide)
  have account : (Value.text accountReference).expanded {} = .text accountReference :=
    expanded_reference (show Reference.read? _ =
      some (⟨false, "AWS_ACCOUNT_ID".toList, some "123456789012".toList⟩, []) by decide)
  have dockerfile : (Value.text "./Dockerfile").expanded {} = .text "./Dockerfile" :=
    Value.expanded_text (by decide)
  simp only [data, dataOn, registryData, expanded_map, expanded_list, List.map_cons, List.map_nil,
    label (labeled.labels _ name), address, label (labeled.labels _ region),
    label labeled.repository, listed, host, account, label (by decide : IsLabel "main".toList),
    label (by decide : IsLabel "default".toList), dockerfile, expanded_stageItems labeled]

/-- The references in a starter can be reached. -/
theorem reach_dataOn (host : String) (s : Starter) :
    (Value.map (s.dataOn host)).reach ≤ Definition.deepest := by
  have stages : ∀ item ∈ s.stageItems, item.reach ≤ 0 + 1 := by
    rw [stageItems, List.forall_mem_map]
    intro fields _
    rw [Value.reach_map_le_iff, stageData, List.forall_mem_map]
    exact fun _ _ => Nat.le_refl 0
  refine Nat.le_trans (m := 2 + 1) ?_ (by decide)
  simpa [dataOn, registryData] using stages

/-! ## Only readable starters are definitions -/

open Definition

variable {env : Environment}

theorem typed_of_expanded {label : String} (isLabel : IsLabel label.toList) {after : List Char}
    {v : Value} (found : (word label after).value? = some v)
    (isText : IsText (v.expanded env)) : implicitTag label.toList = .str := by
  rw [word, Sheet.value?, if_neg Bool.false_ne_true] at found
  obtain ⟨text, becomes⟩ := isText
  cases v <;> cases becomes
  exact typed_of_wordValue? isLabel.isPlainWord found

theorem typed_of_environmentItems {after : List Char} : ∀ {es : List String} {vs : List Value},
    (∀ e ∈ es, IsLabel e.toList) → Sheet.values? (environmentItems after es) = some vs →
      (∀ v ∈ vs, IsText (v.expanded env)) → ∀ e ∈ es, implicitTag e.toList = .str
  | [], _, _, _, _ => by simp
  | e :: es, vs, labels, found, texts => by
      rw [Sheet.values?_eq_some_iff, environmentItems, List.forall₂_cons_left_iff] at found
      obtain ⟨v, vs, here, more, rfl⟩ := found
      rw [List.forall_mem_cons] at labels texts ⊢
      exact ⟨typed_of_expanded labels.1 here texts.1, typed_of_environmentItems labels.2
        (Sheet.values?_eq_some_iff.mpr more) texts.2⟩

/-- The value of a field is the expanded value of its entry. -/
theorem exists_field {es : List (List Char × Sheet)} {rows : List (Value × Value)}
    (found : Sheet.rows? es = some rows) (key : String) {x : Sheet}
    (there : es.find? (fun e => e.1 = key.toList) = some (entry key x)) (env : Environment) :
    ∃ v, x.value? = some v ∧ Value.field key (Value.expandedEntries env rows) =
      some (v.expanded env) := by
  obtain ⟨v, value, field⟩ := Sheet.exists_field_of_rows? found there
  exact ⟨v, value, by rw [field_expandedEntries, field, Option.map_some]⟩

/-- Entries that denote a mapping denote its rows. -/
theorem exists_rows_of_value? {sheets : List (List Char × Sheet)} {v : Value}
    {es : List (Value × Value)} (value : (Sheet.entries sheets).value? = some v)
    (mapped : v.expanded env = .map es) :
    ∃ rows, Sheet.rows? sheets = some rows ∧ es = Value.expandedEntries env rows := by
  obtain ⟨rows, rfl, rfl⟩ := exists_entries_of_expanded mapped
  rw [Sheet.value?, Option.map_eq_some_iff] at value
  obtain ⟨_, found, same⟩ := value
  obtain rfl := Value.map.inj same
  exact ⟨_, found, rfl⟩

/-- The region is a text if the registry has the form of one. -/
theorem typed_region (labeled : s.IsLabeled) {rows : List (Value × Value)}
    (found : Sheet.rows? s.entries = some rows)
    (isProject : IsProject (Value.expandedEntries env rows)) :
    implicitTag s.region.toList = .str := by
  obtain ⟨v, value, field⟩ := exists_field found "registry" rfl env
  obtain ⟨registry, mapped, isRegistry⟩ := isProject.registry _ field
  obtain ⟨rows, found, rfl⟩ := exists_rows_of_value? value mapped
  obtain ⟨v, value, field⟩ := exists_field found "aws" rfl env
  obtain ⟨aws, mapped, isAws⟩ := isRegistry.aws _ field
  obtain ⟨rows, found, rfl⟩ := exists_rows_of_value? value mapped
  obtain ⟨v, value, field⟩ := exists_field found "region" rfl env
  obtain ⟨text, isText, -⟩ := isAws.region _ field
  exact typed_of_expanded (labeled.labels _ s.mem_labels.2.1) value ⟨text, isText⟩

/-- The environments are texts if they have the form of environments. -/
theorem typed_environments (labeled : s.IsLabeled) {rows : List (Value × Value)}
    (found : Sheet.rows? s.entries = some rows)
    (isProject : IsProject (Value.expandedEntries env rows)) :
    ∀ e ∈ s.environments, implicitTag e.toList = .str := by
  obtain ⟨v, value, field⟩ := exists_field found "environments" rfl env
  obtain ⟨names, listed, -⟩ := isProject.environments _ field
  rw [Sheet.value?, Option.map_eq_some_iff] at value
  obtain ⟨vs, found, rfl⟩ := value
  rw [expanded_list, Value.list.injEq] at listed
  have texts : ∀ v ∈ vs, IsText (v.expanded env) := fun v there => by
    have member := List.mem_map_of_mem (f := Value.expanded env) there
    rw [listed, List.mem_map] at member
    obtain ⟨name, -, same⟩ := member
    exact ⟨name, same.symm⟩
  exact typed_of_environmentItems (fun e there => labeled.labels e (s.mem_labels.2.2 e there)) found
    texts

/-- **Only readable starters are read as definitions**, whatever the variables are. -/
theorem isReadable_of_isProject (labeled : s.IsLabeled) {v : Value}
    (read : Yaml.read s.text = .ok v) {es : List (Value × Value)}
    (mapped : v.expanded env = .map es) (isProject : IsProject es) : s.IsReadable := by
  have value := ((read_text labeled).2 v).mp read
  obtain ⟨rows, found, rfl⟩ := exists_rows_of_value? value mapped
  refine ⟨labeled, ?_⟩
  rw [labels, List.forall_mem_cons, List.forall_mem_cons]
  refine ⟨?_, typed_region labeled found isProject, typed_environments labeled found isProject⟩
  obtain ⟨v, value, field⟩ := exists_field found "projectName" rfl env
  obtain ⟨text, isText, -⟩ := isProject.projectName _ field
  exact typed_of_expanded (labeled.labels _ s.mem_labels.1) value ⟨text, isText⟩

end Starter

end Conveyor

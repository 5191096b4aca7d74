import Conveyor.Config
import Conveyor.Proofs.Value.Data
import Conveyor.Proofs.Value.Verdict
import Mathlib

/-!
# Which configurations are made

A configuration is made exactly from a name that is not blank, environments that are distinct names
and a known service type (`exists_ofDraft_iff`). Everything else is refused for the first rule that
it breaks, in this order (`Violates`), and what is made keeps all that was given but for a
repository that was missing (`Completes`).
-/

set_option autoImplicit false

namespace Conveyor

namespace Config

/-! ## Names -/

/-- A text has a character that is not blank. -/
def HasInk (s : String) : Prop := ∃ c ∈ s.toList, Text.isBlank c = false

/-- A value is a text that can be a name. -/
def IsName (v : Value) : Prop := ∃ s, v = .text s ∧ HasInk s

theorem isBlankText_eq_false_iff (s : String) : Text.isBlankText s = false ↔ HasInk s := by
  simp [Text.isBlankText, HasInk]

theorem isBlankText_of_not_hasInk {s : String} (blank : ¬ HasInk s) :
    Text.isBlankText s = true := by
  rw [← isBlankText_eq_false_iff] at blank
  simpa using blank

theorem isName_text {s : String} : IsName (.text s) ↔ HasInk s :=
  ⟨fun ⟨_, same, ink⟩ => Value.text.inj same ▸ ink, fun ink => ⟨s, rfl, ink⟩⟩

theorem checkName_of_hasInk {name : String} (ink : HasInk name) :
    checkName (.text name) = .ok name := by
  simp [checkName, (isBlankText_eq_false_iff name).mpr ink]

theorem checkName_of_blank {name : String} (blank : ¬ HasInk name) :
    checkName (.text name) = .error (.refused .blankProjectName) := by
  simp [checkName, isBlankText_of_not_hasInk blank]

theorem checkEnvironment_of_hasInk {s : String} (ink : HasInk s) :
    checkEnvironment (.text s) = .ok s := by
  simp [checkEnvironment, (isBlankText_eq_false_iff s).mpr ink]

/-- What is no name is refused with its own text. -/
theorem checkEnvironment_of_not_isName {v : Value} (noName : ¬ IsName v) :
    checkEnvironment v = (do throw (.refused (.blankEnvironment (← v.shown)))) := by
  cases v with
  | text s =>
      rw [isName_text] at noName
      simp only [checkEnvironment, isBlankText_of_not_hasInk noName, if_true, Value.shown, ok_bind]
      rfl
  | _ => rfl

/-- A row of values is a row of names, or some value in it is the first one that is no name. -/
theorem names_or_first (items : List Value) :
    (∃ names : List String, items = names.map .text ∧ ∀ s ∈ names, HasInk s) ∨
      ∃ (names : List String) (v : Value) (rest : List Value),
        items = names.map .text ++ v :: rest ∧ (∀ s ∈ names, HasInk s) ∧ ¬ IsName v := by
  induction items with
  | nil => exact .inl ⟨[], rfl, by simp⟩
  | cons v items ih =>
      by_cases isName : IsName v
      · obtain ⟨s, rfl, ink⟩ := isName
        rcases ih with ⟨names, rfl, inks⟩ | ⟨names, w, rest, rfl, inks, noName⟩
        · exact .inl ⟨s :: names, rfl, List.forall_mem_cons.mpr ⟨ink, inks⟩⟩
        · exact .inr ⟨s :: names, w, rest, rfl, List.forall_mem_cons.mpr ⟨ink, inks⟩, noName⟩
      · exact .inr ⟨[], v, items, rfl, by simp, isName⟩

theorem mapM_checkEnvironment_of_hasInk : ∀ {names : List String}, (∀ s ∈ names, HasInk s) →
    (names.map Value.text).mapM checkEnvironment = .ok names
  | [], _ => rfl
  | s :: names, inks => by
      rw [List.forall_mem_cons] at inks
      rw [List.map_cons, List.mapM_cons, checkEnvironment_of_hasInk inks.1,
        mapM_checkEnvironment_of_hasInk inks.2]
      rfl

/-- A row of values fails with the first one that is no name. -/
theorem mapM_checkEnvironment_of_first {v : Value} {rest : List Value} {e : Failure}
    (failed : checkEnvironment v = .error e) : ∀ {names : List String}, (∀ s ∈ names, HasInk s) →
      (names.map Value.text ++ v :: rest).mapM checkEnvironment = .error e
  | [], _ => by
      rw [List.map_nil, List.nil_append, List.mapM_cons, failed]
      rfl
  | s :: names, inks => by
      rw [List.forall_mem_cons] at inks
      rw [List.map_cons, List.cons_append, List.mapM_cons, checkEnvironment_of_hasInk inks.1,
        mapM_checkEnvironment_of_first failed inks.2]
      rfl

/-! ## Repeated names -/

/-- The names that occur more than once in a row, in their order and each of them once. -/
structure Repeats (names twice : List String) : Prop where
  sorted : twice.Pairwise (· < ·)
  mem_iff : ∀ n, n ∈ twice ↔ 2 ≤ names.count n

theorem nodup_eraseDups : ∀ names : List String, names.eraseDups.Nodup
  | [] => List.nodup_nil
  | name :: names => by
      rw [List.eraseDups_cons, List.nodup_cons]
      refine ⟨fun there => ?_, nodup_eraseDups _⟩
      simpa using List.mem_filter.mp (List.mem_eraseDups.mp there)
termination_by names => names.length
decreasing_by exact Nat.lt_succ_of_le (List.length_filter_le _ _)

/-- One name may stand before another one unless it comes later in the order. -/
theorem isBefore_iff (a b : String) : (!decide (b < a)) = true ↔ a ≤ b := by
  rw [Bool.not_eq_true', decide_eq_false_iff_not, String.not_lt]

theorem pairwise_repeated (names : List String) : (repeated names).Pairwise (· ≤ ·) := by
  have ordered : (repeated names).Pairwise fun a b => (!decide (b < a)) = true := by
    refine List.pairwise_mergeSort (fun a b c => ?_) (fun a b => ?_) _
    · rw [isBefore_iff, isBefore_iff, isBefore_iff]
      exact String.le_trans
    · rw [Bool.or_eq_true, isBefore_iff, isBefore_iff]
      exact String.le_total a b
  exact ordered.imp (isBefore_iff _ _).mp

theorem nodup_repeated (names : List String) : (repeated names).Nodup :=
  (List.mergeSort_perm _ _).nodup_iff.mpr ((nodup_eraseDups names).filter _)

theorem repeats_repeated (names : List String) : Repeats names (repeated names) where
  sorted := by
    refine ((pairwise_repeated names).and (nodup_repeated names)).imp fun {a b} both => ?_
    exact String.not_le.mp fun back => both.2 (String.le_antisymm both.1 back)
  mem_iff n := by
    rw [repeated, List.mem_mergeSort, List.mem_filter, List.mem_eraseDups, decide_eq_true_eq]
    refine ⟨fun both => both.2, fun often => ⟨?_, often⟩⟩
    exact List.count_pos_iff.mp (Nat.lt_of_lt_of_le Nat.zero_lt_two often)

/-- Nothing is repeated exactly in a row of distinct names. -/
theorem Repeats.eq_nil_iff {names twice : List String} (h : Repeats names twice) :
    twice = [] ↔ names.Nodup := by
  rw [List.eq_nil_iff_forall_not_mem, List.nodup_iff_count_le_one]
  refine forall_congr' fun n => ?_
  rw [h.mem_iff, Nat.not_le, Nat.lt_succ_iff]

/-! ## Rules and failures -/

/-- Environments that a project may have: at least one, and all of them distinct names. -/
structure AreAllowed (items : List Value) : Prop where
  some_ : items ≠ []
  names : ∀ v ∈ items, IsName v
  distinct : items.Nodup

/-- What is asked of a project's name, of its environments and of its service type. -/
structure IsValid (name : String) (items : List Value) (kind : String) : Prop where
  name : HasInk name
  environments : AreAllowed items
  kind : kind ∈ serviceTypes

/-- The failure for the first rule that environments break. The first value that is no name is
quoted; where it has no text because of an integer in it that is too long, that is the failure. -/
inductive Disallowed (items : List Value) : Failure → Prop where
  | missing (none_ : items = []) : Disallowed items (.refused .noEnvironments)
  | blank {names : List String} {v : Value} {rest : List Value} {shown : String}
      (cut : items = names.map .text ++ v :: rest) (inks : ∀ s ∈ names, HasInk s)
      (first : ¬ IsName v) (quoted : v.shown = .ok shown) :
      Disallowed items (.refused (.blankEnvironment shown))
  | unquotable {names : List String} {v : Value} {rest : List Value} {e : Failure}
      (cut : items = names.map .text ++ v :: rest) (inks : ∀ s ∈ names, HasInk s)
      (first : ¬ IsName v) (failed : v.shown = .error e) : Disallowed items e
  | repeated {names twice : List String} (texts : items = names.map .text)
      (inks : ∀ s ∈ names, HasInk s) (again : Repeats names twice) (some_ : twice ≠ []) :
      Disallowed items (.refused (.duplicateEnvironments twice))

/-- The failure for the first rule that a name, environments or a service type break. -/
inductive Violates (name : String) (items : List Value) (kind : String) : Failure → Prop where
  | name (blank : ¬ HasInk name) : Violates name items kind (.refused .blankProjectName)
  | environments {e : Failure} (ink : HasInk name) (disallowed : Disallowed items e) :
      Violates name items kind e
  | serviceType (ink : HasInk name) (allowed : AreAllowed items) (unknown : kind ∉ serviceTypes) :
      Violates name items kind (.refused (.unknownServiceType kind))

/-- What is made from a draft keeps everything that was given; only a repository that is missing is
named after the project. -/
structure Completes (d : Draft) (given : String) (items : List Value) (c : Config) : Prop where
  name : c.name = given
  repoUrl : c.repoUrl = d.repoUrl
  branch : c.branch = d.branch
  namespaceName : c.namespaceName = d.namespaceName
  dockerRegistry : c.dockerRegistry = d.dockerRegistry
  dockerfilePath : c.dockerfilePath = d.dockerfilePath
  registry : d.registry.repository ≠ .null → c.registry = d.registry
  named : d.registry.repository = .null →
    c.registry = { d.registry with repository := .text (given ++ "-repo") }
  stored : c.registry.repository ≠ .null
  environments : items = c.environments.map .text
  connectionArn : c.connectionArn = d.connectionArn
  deployment : c.deployment = d.deployment

variable {name kind : String} {items : List Value} {d : Draft}

theorem nodup_texts {names : List String} : (names.map Value.text).Nodup ↔ names.Nodup :=
  List.nodup_map_iff fun _ _ => Value.text.inj

theorem areAllowed_texts {names : List String} (some_ : names ≠ []) (inks : ∀ s ∈ names, HasInk s)
    (distinct : names.Nodup) : AreAllowed (names.map .text) where
  some_ := by simpa using some_
  names := by
    rw [List.forall_mem_map]
    exact fun s member => isName_text.mpr (inks s member)
  distinct := nodup_texts.mpr distinct

/-- Environments that are allowed break no rule. -/
theorem Disallowed.not_areAllowed {e : Failure} (h : Disallowed items e) : ¬ AreAllowed items := by
  intro allowed
  cases h with
  | missing none_ => exact allowed.some_ none_
  | blank cut inks first quoted | unquotable cut inks first failed =>
      exact first (allowed.names _ (by simp [cut]))
  | repeated texts inks again some_ =>
      exact some_ (again.eq_nil_iff.mpr (nodup_texts.mp (texts ▸ allowed.distinct)))

theorem Disallowed.isVerdict {e : Failure} (h : Disallowed items e) : e.isVerdict = true := by
  cases h with
  | unquotable cut inks first failed => exact Value.shown_verdictOnly _ e failed
  | _ => rfl

/-- Only environments that are missing are refused for that. -/
theorem Disallowed.eq_nil (h : Disallowed items (.refused .noEnvironments)) : items = [] := by
  generalize same : Failure.refused .noEnvironments = e at h
  cases h with
  | missing none_ => exact none_
  | unquotable cut inks first failed =>
      obtain ⟨n, long⟩ := Value.shown_eq_error (same ▸ failed)
      unfold Value.numeral at long
      dsimp only at long
      split at long <;> cases long
  | _ => cases same

/-- Valid parts break no rule. -/
theorem Violates.not_isValid {e : Failure} (h : Violates name items kind e) :
    ¬ IsValid name items kind := by
  intro valid
  cases h with
  | name blank => exact blank valid.name
  | environments ink disallowed => exact disallowed.not_areAllowed valid.environments
  | serviceType ink allowed unknown => exact unknown valid.kind

theorem Violates.isVerdict {e : Failure} (h : Violates name items kind e) : e.isVerdict = true := by
  cases h with
  | environments ink disallowed => exact disallowed.isVerdict
  | _ => rfl

theorem Violates.eq_nil (h : Violates name items kind (.refused .noEnvironments)) : items = [] := by
  generalize same : Failure.refused .noEnvironments = e at h
  cases h with
  | environments ink disallowed => exact (same ▸ disallowed).eq_nil
  | _ => cases same

/-! ## Environments -/

/-- Distinct names are kept. -/
theorem checkEnvironments_of_hasInk {names : List String} (some_ : names ≠ [])
    (inks : ∀ s ∈ names, HasInk s) (distinct : names.Nodup) :
    checkEnvironments (names.map .text) = .ok names := by
  have filled : (names.map Value.text).isEmpty = false := by simpa using some_
  have nothing := (repeats_repeated names).eq_nil_iff.mpr distinct
  rw [checkEnvironments, filled, mapM_checkEnvironment_of_hasInk inks]
  simp only [Bool.false_eq_true, if_false, ok_bind, nothing]
  rfl

/-- Environments that are allowed are kept; others are refused for the first rule that they
break. -/
theorem checkEnvironments_outcome (items : List Value) :
    (∃ names : List String, checkEnvironments items = .ok names ∧ items = names.map .text ∧
      AreAllowed items) ∨
    ∃ e, checkEnvironments items = .error e ∧ Disallowed items e := by
  by_cases none_ : items = []
  · exact .inr ⟨_, by rw [none_]; rfl, .missing none_⟩
  have filled : items.isEmpty = false := by simpa using none_
  rcases names_or_first items with ⟨names, rfl, inks⟩ | ⟨names, v, rest, rfl, inks, noName⟩
  · have some_ : names ≠ [] := by simpa using none_
    by_cases distinct : names.Nodup
    · exact .inl ⟨names, checkEnvironments_of_hasInk some_ inks distinct, rfl,
        areAllowed_texts some_ inks distinct⟩
    · have again := repeats_repeated names
      have repeats : repeated names ≠ [] := fun nothing => distinct (again.eq_nil_iff.mp nothing)
      have twice : (repeated names).isEmpty = false := by simpa using repeats
      refine .inr ⟨_, ?_, .repeated rfl inks again repeats⟩
      rw [checkEnvironments, filled, mapM_checkEnvironment_of_hasInk inks]
      simp only [Bool.false_eq_true, if_false, ok_bind, twice]
      rfl
  · have refused := checkEnvironment_of_not_isName noName
    have failed {e : Failure} (here : checkEnvironment v = .error e) :
        checkEnvironments (names.map Value.text ++ v :: rest) = .error e := by
      rw [checkEnvironments, filled, mapM_checkEnvironment_of_first here inks]
      rfl
    cases quoted : v.shown with
    | ok shown =>
        rw [quoted] at refused
        exact .inr ⟨_, failed refused, .blank rfl inks noName quoted⟩
    | error e =>
        rw [quoted] at refused
        exact .inr ⟨_, failed refused, .unquotable rfl inks noName quoted⟩

theorem checkEnvironments_verdictOnly (items : List Value) :
    VerdictOnly (checkEnvironments items) := by
  rcases checkEnvironments_outcome items with ⟨names, checked, -⟩ | ⟨e, failed, disallowed⟩
  · exact checked ▸ .ok names
  · exact failed ▸ .error disallowed.isVerdict

/-- Environments that pass the check are kept as they are, and are allowed. -/
theorem areAllowed_of_checkEnvironments {names : List String}
    (passed : checkEnvironments items = .ok names) :
    items = names.map .text ∧ AreAllowed items := by
  rcases checkEnvironments_outcome items with ⟨names', checked, texts, allowed⟩ | ⟨e, failed, -⟩
  · rw [passed, Except.ok.injEq] at checked
    exact ⟨checked ▸ texts, allowed⟩
  · rw [passed] at failed
    cases failed

/-! ## Service types -/

theorem checkServiceType_of_mem (known : kind ∈ serviceTypes) :
    checkServiceType (.text kind) = .ok () := by
  have isServiceType : isServiceType (.text kind) = true := by
    rw [Config.isServiceType, List.any_eq_true]
    exact ⟨kind, known, by simp⟩
  rw [checkServiceType, if_pos isServiceType]
  rfl

theorem checkServiceType_of_not_mem (unknown : kind ∉ serviceTypes) :
    checkServiceType (.text kind) = .error (.refused (.unknownServiceType kind)) := by
  have other : isServiceType (.text kind) = false := by
    rw [isServiceType, List.any_eq_false]
    intro t member same
    rw [Value.same_text_right, Value.text.injEq] at same
    exact unknown (same ▸ member)
  rw [checkServiceType, other]
  rfl

/-! ## Drafts -/

theorem withRepository_of_null {r : ImageRegistry} (missing : r.repository = .null) :
    withRepository name r = { r with repository := .text (name ++ "-repo") } := by
  rw [withRepository, missing]

theorem withRepository_of_ne {r : ImageRegistry} (given : r.repository ≠ .null) :
    withRepository name r = r := by
  unfold withRepository
  split
  · rename_i missing
    exact absurd missing given
  · rfl

/-- From a draft whose parts pass the checks a configuration is made that completes it. -/
theorem ofDraft_completes {names : List String} (named : d.name = .text name) (ink : HasInk name)
    (listed : d.environments.items = .ok (names.map .text))
    (checked : checkEnvironments (names.map .text) = .ok names)
    (typed : d.deployment.serviceType = .text kind) (known : kind ∈ serviceTypes) :
    ∃ c, ofDraft d = .ok c ∧ Completes d name (names.map .text) c := by
  have made : ofDraft d = .ok {
      name
      repoUrl := d.repoUrl
      branch := d.branch
      namespaceName := d.namespaceName
      dockerRegistry := d.dockerRegistry
      dockerfilePath := d.dockerfilePath
      registry := withRepository name d.registry
      environments := names
      connectionArn := d.connectionArn
      deployment := d.deployment } := by
    simp only [ofDraft, named, checkName_of_hasInk ink, listed, ok_bind, checked, typed,
      checkServiceType_of_mem known]
    rfl
  refine ⟨_, made, rfl, rfl, rfl, rfl, rfl, rfl, withRepository_of_ne, withRepository_of_null, ?_,
    rfl, rfl, rfl⟩
  dsimp only
  by_cases missing : d.registry.repository = .null
  · rw [withRepository_of_null missing]
    nofun
  · rw [withRepository_of_ne missing]
    exact missing

/-- From a draft a configuration is made that completes it, or the draft is refused for the first
rule that it breaks. -/
theorem ofDraft_outcome (named : d.name = .text name) (listed : d.environments.items = .ok items)
    (typed : d.deployment.serviceType = .text kind) :
    (∃ c, ofDraft d = .ok c ∧ IsValid name items kind ∧ Completes d name items c) ∨
      ∃ e, ofDraft d = .error e ∧ Violates name items kind e := by
  by_cases ink : HasInk name
  · rcases checkEnvironments_outcome items with
      ⟨names, checked, rfl, allowed⟩ | ⟨e, failed, disallowed⟩
    · by_cases known : kind ∈ serviceTypes
      · obtain ⟨c, made, completes⟩ := ofDraft_completes named ink listed checked typed known
        exact .inl ⟨c, made, ⟨ink, allowed, known⟩, completes⟩
      · refine .inr ⟨_, ?_, .serviceType ink allowed known⟩
        simp only [ofDraft, named, checkName_of_hasInk ink, listed, ok_bind, checked, typed,
          checkServiceType_of_not_mem known]
        rfl
    · refine .inr ⟨e, ?_, .environments ink disallowed⟩
      simp only [ofDraft, named, checkName_of_hasInk ink, listed, ok_bind, failed]
      rfl
  · refine .inr ⟨_, ?_, .name ink⟩
    rw [ofDraft, named, checkName_of_blank ink]
    rfl

/-- A configuration is made exactly from valid parts. -/
theorem exists_ofDraft_iff (named : d.name = .text name) (listed : d.environments.items = .ok items)
    (typed : d.deployment.serviceType = .text kind) :
    (∃ c, ofDraft d = .ok c) ↔ IsValid name items kind := by
  rcases ofDraft_outcome named listed typed with ⟨c, made, valid, -⟩ | ⟨e, failed, violates⟩
  · exact iff_of_true ⟨c, made⟩ valid
  · refine iff_of_false ?_ violates.not_isValid
    rintro ⟨c, made⟩
    rw [failed] at made
    cases made

/-- What is made completes the draft. -/
theorem completes_of_ofDraft (named : d.name = .text name)
    (listed : d.environments.items = .ok items) (typed : d.deployment.serviceType = .text kind)
    {c : Config} (made : ofDraft d = .ok c) : Completes d name items c := by
  rcases ofDraft_outcome named listed typed with ⟨c', made', -, completes⟩ | ⟨e, failed, -⟩
  · rw [made, Except.ok.injEq] at made'
    exact made' ▸ completes
  · rw [made] at failed
    cases failed

/-- What fails breaks a rule, and fails for the first one. -/
theorem violates_of_ofDraft (named : d.name = .text name)
    (listed : d.environments.items = .ok items) (typed : d.deployment.serviceType = .text kind)
    {e : Failure} (failed : ofDraft d = .error e) : Violates name items kind e := by
  rcases ofDraft_outcome named listed typed with ⟨c, made, -⟩ | ⟨e', failed', violates⟩
  · rw [failed] at made
    cases made
  · rw [failed, Except.error.injEq] at failed'
    exact failed' ▸ violates

end Config

end Conveyor

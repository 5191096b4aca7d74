import Conveyor.Proofs.Definition.Stages

/-!
# The targets of deploy stages

No schema can say that a deploy stage has to name a declared environment, so this is checked on its
own. On data of the right form the check always has a result, and it finds nothing exactly where
every target is declared.
-/

set_option autoImplicit false

namespace Conveyor.Definition

variable {es : List (Value × Value)}

/-- The items of the stages, none where the stages are missing. -/
def StagesOf (es : List (Value × Value)) (items : List Value) : Prop :=
  (Value.field "stages" es).getD (.list []) = .list items

/-- The stages of a definition are a list of items of the right form. -/
theorem IsProject.stagesOf (project : IsProject es) :
    ∃ items, StagesOf es items ∧ ∀ item ∈ items, ∃ fields, item = .map fields ∧ IsStage fields := by
  cases found : Value.field "stages" es with
  | none => exact ⟨[], by simp [StagesOf, found], by simp⟩
  | some v =>
      obtain ⟨items, rfl, each⟩ := project.stages v found
      exact ⟨items, by simp [StagesOf, found], each⟩

/-- Stages that count as given are their items, and so are stages that do not. -/
theorem items_of_stagesOf {items : List Value} (stages : StagesOf es items) :
    (((Value.field "stages" es).getD .null).orElse (.list [])).items = .ok items := by
  unfold StagesOf at stages
  cases found : Value.field "stages" es with
  | none =>
      rw [found] at stages
      cases stages
      rfl
  | some v =>
      rw [found] at stages
      cases stages
      cases items <;> rfl

theorem names_texts (names : List String) : Value.names (names.map .text) = .ok names := by
  induction names with
  | nil => rfl
  | cons name names ih =>
      simp only [List.map_cons, Value.names, ih]
      rfl

/-- An item is a deploy stage for something that is not among some names. -/
structure IsStray (names : List String) (fields : List (Value × Value)) (target : String) :
    Prop where
  deploys : Value.field "type" fields = some (.text "deploy")
  aim : Value.field "environment" fields = some (.text target)
  unknown : target ∉ names

/-- If an item is a deploy stage, its target is among some names. -/
def IsAimed (names : List String) (fields : List (Value × Value)) : Prop :=
  Value.field "type" fields = some (.text "deploy") →
    ∀ environment, Value.field "environment" fields = some (.text environment) →
      environment ∈ names

theorem IsStage.type {fields : List (Value × Value)} (isStage : IsStage fields) :
    ∃ kind, Value.field "type" fields = some (.text kind) := by
  cases isStage with
  | runtime kind kinds type => exact ⟨kind, type⟩
  | image type | deploy type | custom type => exact ⟨_, type⟩

/-- A deploy stage has a target. -/
theorem IsStage.target {fields : List (Value × Value)} (isStage : IsStage fields)
    (deploys : Value.field "type" fields = some (.text "deploy")) :
    ∃ environment, Value.field "environment" fields = some (.text environment) := by
  cases isStage with
  | deploy _ _ environment =>
      obtain ⟨_, target, s, rfl, -⟩ := environment
      exact ⟨s, target⟩
  | runtime kind kinds type =>
      rw [deploys] at type
      cases type
      exact absurd kinds (by decide)
  | image type | custom type => simp [deploys] at type

theorem isAimed_or_isStray (names : List String) (fields : List (Value × Value)) :
    IsAimed names fields ∨ ∃ target, IsStray names fields target := by
  by_cases aimed : IsAimed names fields
  · exact .inl aimed
  · unfold IsAimed at aimed
    push Not at aimed
    obtain ⟨deploys, target, aim, unknown⟩ := aimed
    exact .inr ⟨target, deploys, aim, unknown⟩

theorem IsStray.not_isAimed {names : List String} {fields : List (Value × Value)} {target : String}
    (stray : IsStray names fields target) : ¬ IsAimed names fields :=
  fun aimed => stray.unknown (aimed stray.deploys target stray.aim)

theorem member_texts (names : List String) (s : String) :
    Value.member (.text s) (.list (names.map .text)) = .ok (decide (s ∈ names)) := by
  simp only [Value.member, Except.ok.injEq]
  rw [Bool.eq_iff_iff]
  simp

/-- The check finds nothing in an item whose target is known. -/
theorem environmentViolation_of_isAimed {fields : List (Value × Value)} (isStage : IsStage fields)
    {names : List String} (aimed : IsAimed names fields) (k : Nat) :
    environmentViolation (.list (names.map .text)) k (.map fields) = .ok [] := by
  obtain ⟨kind, type⟩ := isStage.type
  by_cases deploys : kind = "deploy"
  · subst deploys
    obtain ⟨environment, target⟩ := isStage.target type
    simp only [environmentViolation, Value.fieldOr_map, type, Option.getD_some, ok_bind,
      same_texts, target, member_texts, aimed type environment target]
    rfl
  · simp only [environmentViolation, Value.fieldOr_map, type, Option.getD_some, ok_bind,
      same_texts, deploys]
    rfl

/-- The check finds one violation in an item whose target is not known. -/
theorem environmentViolation_of_isStray {fields : List (Value × Value)} {names : List String}
    {target : String} (stray : IsStray names fields target) (k : Nat) :
    environmentViolation (.list (names.map .text)) k (.map fields) =
      .ok [Schema.Violation.line ["stages", toString k, "environment"]
        (Refusal.unknownEnvironment target names).text] := by
  simp only [environmentViolation, Value.fieldOr_map, stray.deploys, Option.getD_some, ok_bind,
    same_texts, stray.aim, member_texts, stray.unknown, Value.display_text, Value.items,
    names_texts]
  rfl

/-- The check of one item has a result, and finds nothing exactly if the target is known. -/
theorem environmentViolation_eq_ok {fields : List (Value × Value)} (isStage : IsStage fields)
    (names : List String) (k : Nat) :
    ∃ lines, environmentViolation (.list (names.map .text)) k (.map fields) = .ok lines ∧
      (lines = [] ↔ (Value.field "type" fields = some (.text "deploy") →
        ∀ environment, Value.field "environment" fields = some (.text environment) →
          environment ∈ names)) := by
  rcases isAimed_or_isStray names fields with aimed | ⟨target, stray⟩
  · exact ⟨[], environmentViolation_of_isAimed isStage aimed k, iff_of_true rfl aimed⟩
  · exact ⟨_, environmentViolation_of_isStray stray k,
      iff_of_false (List.cons_ne_nil _ _) stray.not_isAimed⟩

theorem declaredEnvironments_eq {names : List String} (declared : Declares es names)
    (some_ : names ≠ []) :
    declaredEnvironments (.map es) = .ok (.list (names.map .text)) := by
  unfold declaredEnvironments
  rw [Value.givenOr_map]
  rcases declares_iff.mp declared with found | ⟨found, rfl⟩
  · rw [found]
    cases names with
    | nil => exact absurd rfl some_
    | cons => rfl
  · rw [found]
    rfl

/-- The check of all items has a result, and finds nothing exactly if all targets are known. -/
theorem environmentViolations_eq_ok {names : List String} (declared : Declares es names)
    (some_ : names ≠ []) {items : List Value} (stages : StagesOf es items)
    (each : ∀ item ∈ items, ∃ fields, item = .map fields ∧ IsStage fields) :
    ∃ lines, environmentViolations (.map es) = .ok lines ∧
      (lines = [] ↔ ∀ fields, .map fields ∈ items →
        Value.field "type" fields = some (.text "deploy") →
          ∀ environment, Value.field "environment" fields = some (.text environment) →
            environment ∈ names) := by
  obtain ⟨found, checked, known⟩ := mapM_of_forall
    (f := fun e : Value × Nat => environmentViolation (.list (names.map .text)) e.2 e.1)
    (R := fun e lines => lines = [] ↔ ∀ fields, .map fields = e.1 →
      Value.field "type" fields = some (.text "deploy") →
        ∀ environment, Value.field "environment" fields = some (.text environment) →
          environment ∈ names) fun e (he : e ∈ items.zipIdx) => by
      obtain ⟨fields, isMap, isStage⟩ := each e.1 (List.fst_mem_of_mem_zipIdx he)
      obtain ⟨lines, checked, known⟩ := environmentViolation_eq_ok isStage names e.2
      refine ⟨lines, isMap ▸ checked, known.trans ⟨fun here fields' same => ?_, fun here => ?_⟩⟩
      · rw [isMap, Value.map.injEq] at same
        exact same ▸ here
      · exact here fields isMap.symm
  refine ⟨found.flatten, ?_, fun none_ fields member => ?_, fun all => ?_⟩
  · simp only [environmentViolations, declaredEnvironments_eq declared some_, ok_bind,
      Value.givenOr_map, items_of_stagesOf stages]
    rw [checked]
    rfl
  · obtain ⟨k, hk, here⟩ := List.getElem_of_mem member
    have placed : (.map fields, k) ∈ items.zipIdx :=
      List.mem_zipIdx_iff_getElem?.mpr (by rw [List.getElem?_eq_getElem hk, here])
    obtain ⟨lines, listed, known⟩ := exists_of_forall₂ known placed
    exact known.mp (List.flatten_eq_nil_iff.mp none_ lines listed) fields rfl
  · rw [List.flatten_eq_nil_iff]
    intro lines listed
    obtain ⟨e, placed, known⟩ := exists_of_forall₂ known.flip listed
    exact known.mpr fun fields same => all fields (same ▸ List.fst_mem_of_mem_zipIdx placed)

end Conveyor.Definition

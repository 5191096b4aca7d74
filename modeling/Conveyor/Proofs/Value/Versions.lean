import Conveyor.Reference

/-!
# Versions of a value

The same data may be read in two environments. Whatever the environments hold, the two results have
the shape of the data: replacing references never adds an item or a key. They can differ only in
texts that refer to a variable in which the environments differ (`versions_expanded`), since every
reference is replaced on its own and by what its variable holds, and references that are escaped or
left to the shell are replaced without a look at the environment (`Reference.expand_congr`).
-/

set_option autoImplicit false

namespace Conveyor

variable {env env' : Environment}

/-- Two environments agree on some variables: each of them is set to the same text in both, or in
neither. -/
def Environment.AgreesOn (env env' : Environment) (names : List String) : Prop :=
  ∀ name ∈ names, env.get? name = env'.get? name

theorem Environment.agreesOn_append {names more : List String} :
    env.AgreesOn env' (names ++ more) ↔ env.AgreesOn env' names ∧ env.AgreesOn env' more :=
  List.forall_mem_append

namespace Reference

/-- What is put in for a reference depends on its variable, and on nothing if it is not active. -/
theorem expand_congr {r : Reference}
    (same : r.isActive = true →
      env.get? (String.ofList r.name) = env'.get? (String.ofList r.name)) :
    r.expand env = r.expand env' := by
  unfold expand
  cases active : r.isActive with
  | true =>
      rw [same active]
  | false =>
      have left : (r.escaped || r.isSubstring) = true := by
        rw [isActive, ← Bool.not_or, Bool.not_eq_false'] at active
        exact active
      rw [if_pos left, if_pos left]

/-- A text depends on the variables of its active references only. -/
theorem substitute_congr {s : List Char} (same : env.AgreesOn env' (activeNames s)) :
    substitute env s = substitute env' s := by
  rw [substitute, substitute, List.flatMap_def, List.flatMap_def]
  refine congrArg List.flatten (List.map_congr_left fun piece member => ?_)
  cases piece with
  | char c => rfl
  | reference r =>
      refine expand_congr fun active => same _ ?_
      exact List.mem_filterMap.mpr ⟨.reference r, member, by simp [active]⟩

end Reference

namespace Value

/-- Values in which nothing is replaced: all but texts, lists and mappings. -/
def IsFixed : Value → Prop
  | .text _ | .list _ | .map _ => False
  | _ => True

mutual

/-- Two versions of a value, one for each of two environments. Lists have as many items, mappings
have the same keys in the same order, and texts are texts, which are equal if the environments agree
on the variables that the text refers to. Everything else is as it was. -/
inductive Versions (env env' : Environment) : Value → Value → Value → Prop where
  | text {s a b : String}
      (same : env.AgreesOn env' (Reference.activeNames s.toList) → a = b) :
      Versions env env' (.text s) (.text a) (.text b)
  | list {xs ys zs : List Value} (items : VersionsOfItems env env' xs ys zs) :
      Versions env env' (.list xs) (.list ys) (.list zs)
  | map {es fs gs : List (Value × Value)} (entries : VersionsOfEntries env env' es fs gs) :
      Versions env env' (.map es) (.map fs) (.map gs)
  | fixed {v : Value} (isFixed : v.IsFixed) : Versions env env' v v v

/-- Versions of the items of a list, item by item. -/
inductive VersionsOfItems (env env' : Environment) :
    List Value → List Value → List Value → Prop where
  | nil : VersionsOfItems env env' [] [] []
  | cons {x y z : Value} {xs ys zs : List Value} (item : Versions env env' x y z)
      (items : VersionsOfItems env env' xs ys zs) :
      VersionsOfItems env env' (x :: xs) (y :: ys) (z :: zs)

/-- Versions of the entries of a mapping, under the same keys. -/
inductive VersionsOfEntries (env env' : Environment) :
    List (Value × Value) → List (Value × Value) → List (Value × Value) → Prop where
  | nil : VersionsOfEntries env env' [] [] []
  | cons {k x y z : Value} {es fs gs : List (Value × Value)} (value : Versions env env' x y z)
      (entries : VersionsOfEntries env env' es fs gs) :
      VersionsOfEntries env env' ((k, x) :: es) ((k, y) :: fs) ((k, z) :: gs)

end

mutual

/-- **Replacing references gives versions of a value.** -/
theorem versions_expanded (env env' : Environment) :
    ∀ v : Value, Versions env env' v (v.expanded env) (v.expanded env')
  | .text s => by
      rw [expanded, expanded]
      exact .text fun same => congrArg String.ofList (Reference.substitute_congr same)
  | .list xs => by
      rw [expanded, expanded]
      exact .list (versions_expandedItems env env' xs)
  | .map es => by
      rw [expanded, expanded]
      exact .map (versions_expandedEntries env env' es)
  | .tuple _ | .null | .bool _ | .int _ | .float _ | .bytes _ | .date _ | .moment _ =>
      .fixed trivial

theorem versions_expandedItems (env env' : Environment) :
    ∀ xs : List Value,
      VersionsOfItems env env' xs (expandedItems env xs) (expandedItems env' xs)
  | [] => .nil
  | x :: xs => .cons (versions_expanded env env' x) (versions_expandedItems env env' xs)

theorem versions_expandedEntries (env env' : Environment) :
    ∀ es : List (Value × Value),
      VersionsOfEntries env env' es (expandedEntries env es) (expandedEntries env' es)
  | [] => .nil
  | (_, x) :: es => .cons (versions_expanded env env' x) (versions_expandedEntries env env' es)

end

mutual

/-- Versions are equal if the environments agree on all variables that the value refers to. -/
theorem Versions.eq : ∀ {v w w' : Value}, Versions env env' v w w' →
    env.AgreesOn env' v.activeNames → w = w'
  | .text _, _, _, .text same, agrees => congrArg Value.text (same agrees)
  | .list _, _, _, .list items, agrees => congrArg Value.list (items.eq agrees)
  | .map _, _, _, .map entries, agrees => congrArg Value.map (entries.eq agrees)
  | _, _, _, .fixed _, _ => rfl

theorem VersionsOfItems.eq : ∀ {xs ys zs : List Value}, VersionsOfItems env env' xs ys zs →
    env.AgreesOn env' (activeNamesOfItems xs) → ys = zs
  | [], _, _, .nil, _ => rfl
  | x :: xs, _, _, .cons item items, agrees => by
      obtain ⟨here, there⟩ := Environment.agreesOn_append.mp agrees
      rw [item.eq here, items.eq there]

theorem VersionsOfEntries.eq : ∀ {es fs gs : List (Value × Value)},
    VersionsOfEntries env env' es fs gs → env.AgreesOn env' (activeNamesOfEntries es) → fs = gs
  | [], _, _, .nil, _ => rfl
  | (_, x) :: es, _, _, .cons value entries, agrees => by
      obtain ⟨here, there⟩ := Environment.agreesOn_append.mp agrees
      rw [value.eq here, entries.eq there]

end

/-- In environments that agree on all variables that a value refers to it becomes the same. -/
theorem expanded_congr {v : Value} (agrees : env.AgreesOn env' v.activeNames) :
    v.expanded env = v.expanded env' :=
  (versions_expanded env env' v).eq agrees

end Value

end Conveyor

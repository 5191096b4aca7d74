import Conveyor.Value.Access

/-!
# Data

Data are the values that a text can denote: the keys of every mapping in them are scalars, and no
two keys of a mapping are the same. So an entry of a mapping is what a look-up of its key finds
(`lookup_of_mem`).
-/

set_option autoImplicit false

namespace Conveyor

namespace Value

/-- Whether a value is neither a list nor a tuple nor a mapping. -/
def isScalar : Value → Bool
  | .list _ | .tuple _ | .map _ => false
  | _ => true

/-- The keys of a mapping are scalars, and no two of them are the same. -/
structure Keyed (es : List (Value × Value)) : Prop where
  scalar : ∀ e ∈ es, e.1.isScalar = true
  distinct : es.Pairwise fun a b => a.1.same b.1 = false

mutual

/-- Every mapping in the value is keyed. -/
def IsData : Value → Prop
  | .list xs | .tuple xs => AreData xs
  | .map es => Keyed es ∧ AreEntriesOfData es
  | _ => True

/-- `IsData` for a row of values. -/
def AreData : List Value → Prop
  | [] => True
  | x :: xs => IsData x ∧ AreData xs

/-- `IsData` for the values of a mapping. -/
def AreEntriesOfData : List (Value × Value) → Prop
  | [] => True
  | (_, v) :: es => IsData v ∧ AreEntriesOfData es

end

theorem orElse_text {s : String} (filled : s ≠ "") (fallback : Value) :
    (text s).orElse fallback = text s := by
  simp [orElse, isTruthy, filled]

/-- The empty text stands for itself. -/
theorem orElse_empty (s : String) : (text s).orElse (text "") = text s := by
  by_cases empty : s = ""
  · subst empty
    rfl
  · exact orElse_text empty _

/-- Texts are the same only if they are of the same names. -/
theorem texts_inj {names other : List String} :
    names.map text = other.map text ↔ names = other :=
  List.map_inj_right fun _ _ => text.inj

theorem areData_iff (xs : List Value) : AreData xs ↔ ∀ x ∈ xs, x.IsData := by
  induction xs with
  | nil => simp [AreData]
  | cons x xs ih => simp [AreData, ih]

theorem areEntriesOfData_iff (es : List (Value × Value)) :
    AreEntriesOfData es ↔ ∀ e ∈ es, e.2.IsData := by
  induction es with
  | nil => simp [AreEntriesOfData]
  | cons e es ih => simp [AreEntriesOfData, ih]

theorem isData_list (xs : List Value) : IsData (.list xs) ↔ ∀ x ∈ xs, x.IsData := by
  rw [IsData, areData_iff]

theorem isData_map (es : List (Value × Value)) :
    IsData (.map es) ↔ Keyed es ∧ ∀ e ∈ es, e.2.IsData := by
  rw [IsData, areEntriesOfData_iff]

/-! ## Sameness of keys -/

@[simp] theorem same_text_right (v : Value) (s : String) :
    v.same (.text s) = true ↔ v = .text s := by
  cases v <;> simp [same, sameScalar, sameScalar.sameNumber]

@[simp] theorem same_text_left (v : Value) (s : String) :
    (Value.text s).same v = true ↔ v = .text s := by
  cases v <;> simp [same, sameScalar, sameScalar.sameNumber, eq_comm]

@[simp] theorem same_text_right_eq_false (v : Value) (s : String) :
    v.same (.text s) = false ↔ v ≠ .text s := by
  rw [Bool.eq_false_iff, Ne, same_text_right]

theorem sameScalar_self {v : Value} (scalar : v.isScalar = true) : v.sameScalar v = true := by
  cases v with
  | float x =>
      cases x with
      | finite s m e => simp [sameScalar, Binary64.compare?, Binary64.toRatio?]
      | infinite s => simp [sameScalar, Binary64.compare?]
      | nan mark => simp [sameScalar, Binary64.isSameNan]
  | moment m =>
      cases h : m.offset <;> simp [sameScalar, Moment.same, h]
  | list xs | tuple xs | map es => simp [isScalar] at scalar
  | _ => simp [sameScalar]

/-- A scalar is the same as itself, also if it is no number. -/
theorem same_self {v : Value} (scalar : v.isScalar = true) : v.same v = true := by
  have h := sameScalar_self scalar
  cases v with
  | list xs | tuple xs | map es => simp [isScalar] at scalar
  | _ => simpa only [same] using h

/-- A record whose fields have different names and hold data is data. -/
theorem isData_record {fields : List (String × Value)} (distinct : (fields.map (·.1)).Nodup)
    (each : ∀ f ∈ fields, f.2.IsData) : (record fields).IsData := by
  rw [record, isData_map]
  refine ⟨⟨?_, ?_⟩, ?_⟩
  · rw [List.forall_mem_map]
    exact fun f _ => rfl
  · rw [List.pairwise_map]
    refine List.Pairwise.imp ?_ (List.pairwise_map.mp distinct)
    intro a b apart
    rw [same_text_right_eq_false, Ne, text.injEq]
    exact apart
  · rw [List.forall_mem_map]
    exact each

/-! ## Look-ups -/

theorem lookup_cons (key k v : Value) (es : List (Value × Value)) :
    lookup key ((k, v) :: es) = if k.same key then some v else lookup key es := by
  unfold lookup
  by_cases h : k.same key = true <;> simp [h]

@[simp] theorem lookup_nil (key : Value) : lookup key [] = none := rfl

@[simp] theorem field_nil (key : String) : field key [] = none := rfl

theorem field_cons (key : String) (k v : Value) (es : List (Value × Value)) :
    field key ((k, v) :: es) = if k.same (.text key) then some v else field key es :=
  lookup_cons (.text key) k v es

theorem mem_of_lookup {key v : Value} {es : List (Value × Value)}
    (found : lookup key es = some v) : ∃ k, (k, v) ∈ es ∧ k.same key = true := by
  simp only [lookup, Option.map_eq_some_iff] at found
  obtain ⟨e, here, rfl⟩ := found
  exact ⟨e.1, List.mem_of_find?_eq_some here, by simpa using List.find?_some here⟩

/-- A field that is found is an entry with the field's name. -/
theorem mem_of_field {key : String} {v : Value} {es : List (Value × Value)}
    (found : field key es = some v) : (.text key, v) ∈ es := by
  obtain ⟨k, member, same⟩ := mem_of_lookup found
  rw [same_text_right] at same
  exact same ▸ member

/-- In a keyed mapping every entry is found under its key. -/
theorem Keyed.lookup_of_mem {es : List (Value × Value)} (keyed : Keyed es) {k v : Value}
    (member : (k, v) ∈ es) : lookup k es = some v := by
  induction es with
  | nil => simp at member
  | cons e es ih =>
      obtain ⟨key, value⟩ := e
      have apart := List.pairwise_cons.mp keyed.distinct
      rw [lookup_cons]
      rcases List.mem_cons.mp member with here | there
      · cases here
        rw [if_pos (same_self (keyed.scalar (k, v) (by simp)))]
      · have differs := apart.1 (k, v) there
        rw [if_neg (by simpa using differs)]
        exact ih ⟨fun e he => keyed.scalar e (by simp [he]), apart.2⟩ there

theorem field_eq_none_iff (key : String) (es : List (Value × Value)) :
    field key es = none ↔ ∀ e ∈ es, e.1 ≠ .text key := by
  induction es with
  | nil => simp
  | cons e es ih =>
      obtain ⟨k, v⟩ := e
      rw [field_cons]
      by_cases same : k.same (.text key) = true
      · rw [if_pos same]
        simp only [same_text_right] at same
        simp [same]
      · rw [if_neg same, ih]
        simp only [same_text_right] at same
        simp [same]

theorem IsData.of_field {es : List (Value × Value)} {key : String} {v : Value}
    (data : IsData (.map es)) (found : field key es = some v) : v.IsData :=
  ((isData_map es).mp data).2 _ (mem_of_field found)

/-- What is found in a value by going from field to field. -/
def below? : Value → List String → Option Value
  | v, [] => some v
  | .map es, key :: keys => (field key es).bind fun v => v.below? keys
  | _, _ :: _ => none

/-! ## Mappings that are built up -/

/-- The entries that a row of keys and values is made into are keyed data. -/
structure KeyedData (es : List (Value × Value)) : Prop where
  keyed : Keyed es
  data : ∀ e ∈ es, e.2.IsData

theorem mem_put {key v : Value} : ∀ {es : List (Value × Value)} {e : Value × Value},
    e ∈ put key v es → e ∈ es ∨ (e.2 = v ∧ (e.1 = key ∨ ∃ w, (e.1, w) ∈ es))
  | [], e, member => by
      rw [put, List.mem_singleton] at member
      exact .inr ⟨by rw [member], .inl (by rw [member])⟩
  | (k, w) :: rest, e, member => by
      rw [put] at member
      split at member
      · rcases List.mem_cons.mp member with here | there
        · exact .inr ⟨by rw [here], .inr ⟨w, by simp [here]⟩⟩
        · exact .inl (by simp [there])
      · rcases List.mem_cons.mp member with here | there
        · exact .inl (by simp [here])
        · rcases mem_put there with old | ⟨value, isKey | ⟨u, old⟩⟩
          · exact .inl (by simp [old])
          · exact .inr ⟨value, .inl isKey⟩
          · exact .inr ⟨value, .inr ⟨u, by simp [old]⟩⟩

theorem Keyed.put {key : Value} (v : Value) (scalar : key.isScalar = true) :
    ∀ {es : List (Value × Value)}, Keyed es → Keyed (put key v es)
  | [], _ => ⟨by simpa [Value.put] using scalar, by simp [Value.put]⟩
  | (k, w) :: rest, keyed => by
      have apart := List.pairwise_cons.mp keyed.distinct
      have restKeyed : Keyed rest := ⟨fun e he => keyed.scalar e (by simp [he]), apart.2⟩
      rw [Value.put]
      split
      · exact ⟨by simpa using keyed.scalar, List.pairwise_cons.mpr apart⟩
      · rename_i differs
        have ih := Keyed.put v scalar restKeyed
        refine ⟨fun e he => ?_, List.pairwise_cons.mpr ⟨fun e he => ?_, ih.distinct⟩⟩
        · rcases List.mem_cons.mp he with here | there
          · exact here ▸ keyed.scalar (k, w) (by simp)
          · exact ih.scalar e there
        · rcases mem_put he with old | ⟨_, isKey | ⟨u, old⟩⟩
          · exact apart.1 e old
          · simpa [isKey] using differs
          · exact apart.1 (e.1, u) old

theorem KeyedData.put {key v : Value} {es : List (Value × Value)} (h : KeyedData es)
    (scalar : key.isScalar = true) (data : v.IsData) : KeyedData (put key v es) := by
  refine ⟨h.keyed.put v scalar, fun e he => ?_⟩
  rcases mem_put he with old | ⟨value, _⟩
  · exact h.data e old
  · exact value ▸ data

/-- Rows with scalar keys make a mapping that is keyed. -/
theorem isData_ofRows {rows : List (Value × Value)}
    (each : ∀ r ∈ rows, r.1.isScalar = true ∧ r.2.IsData) : IsData (.map (ofRows rows)) := by
  have built : ∀ (rows : List (Value × Value)) (es : List (Value × Value)),
      (∀ r ∈ rows, r.1.isScalar = true ∧ r.2.IsData) → KeyedData es →
        KeyedData (rows.foldl (fun entries row => Value.put row.1 row.2 entries) es) := by
    intro rows
    induction rows with
    | nil => exact fun es _ h => h
    | cons row rows ih =>
        intro es each h
        have here := each row (by simp)
        exact ih _ (fun r hr => each r (by simp [hr])) (h.put here.1 here.2)
  have done := built rows [] each ⟨⟨by simp, by simp⟩, by simp⟩
  exact (isData_map _).mpr ⟨done.keyed, done.data⟩

theorem field_put (name : String) (key v : Value) (es : List (Value × Value)) :
    field name (put key v es) = if key.same (.text name) then some v else field name es := by
  induction es with
  | nil => rw [put, field_cons]
  | cons e es ih =>
      obtain ⟨k, w⟩ := e
      rw [put]
      by_cases same : k.same key = true
      · -- The entry that is replaced has the name exactly if the new one has it.
        have both : k.same (.text name) = true ↔ key.same (.text name) = true := by
          rw [same_text_right, same_text_right]
          constructor
          · rintro rfl
            exact (same_text_left _ _).mp same
          · rintro rfl
            exact (same_text_right _ _).mp same
        rw [if_pos same, field_cons, field_cons]
        by_cases named : key.same (.text name) = true
        · rw [if_pos named, if_pos (both.mpr named)]
        · rw [if_neg named, if_neg (mt both.mp named), if_neg (mt both.mp named)]
      · rw [if_neg same, field_cons, field_cons, ih]
        by_cases named : k.same (.text name) = true
        · have other : ¬key.same (.text name) = true := by
            rw [same_text_right] at named ⊢
            rintro rfl
            exact same (by rw [named]; simp)
          rw [if_pos named, if_neg other, if_pos named]
        · rw [if_neg named, if_neg named]

/-- Of several rows with one key, the last one counts. -/
theorem field_ofRows (name : String) (rows : List (Value × Value)) :
    field name (ofRows rows) = (rows.reverse.find? (·.1.same (.text name))).map (·.2) := by
  have built : ∀ (rows es : List (Value × Value)),
      field name (rows.foldl (fun entries row => put row.1 row.2 entries) es) =
        ((rows.reverse.find? (·.1.same (.text name))).map (·.2)).or (field name es) := by
    intro rows
    induction rows with
    | nil => exact fun es => rfl
    | cons row rows ih =>
        intro es
        rw [List.foldl_cons, ih, field_put, List.reverse_cons, List.find?_append]
        cases rows.reverse.find? (·.1.same (.text name)) with
        | some later => rfl
        | none =>
            by_cases named : row.1.same (.text name) = true <;> simp [named]
  rw [ofRows, built, field_nil, Option.or_none]

end Value

end Conveyor

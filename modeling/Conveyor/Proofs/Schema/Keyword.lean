import Conveyor.Proofs.Schema.Equality
import Conveyor.Proofs.Schema.Findings
import Conveyor.Schema.Check

/-!
# What the keywords of a schema decide

Each keyword decides a property of the document that it looks at, in terms of what the schemas in
its argument decide. A schema that is written as a row of rules decides the conjunction of what
its rules decide (`rules_decide`); so what a whole schema accepts is read off its rules, one
lemma for each keyword.
-/

set_option autoImplicit false

namespace Conveyor.Schema

open Findings

/-- The entries of a record. -/
abbrev rows (rules : List (String × Value)) : List (Value × Value) :=
  rules.map fun r => (.text r.1, r.2)

theorem field_rows (key : String) (rules : List (String × Value)) :
    Value.field key (rows rules) = rules.lookup key := by
  induction rules with
  | nil => rfl
  | cons r rules ih =>
      obtain ⟨name, v⟩ := r
      rw [rows, List.map_cons, Value.field_cons, List.lookup_cons]
      by_cases here : name = key
      · simp [here]
      · have other : (key == name) = false := by simpa using fun h => here h.symm
        rw [other, if_neg (by simpa using here)]
        exact ih

theorem all_map {α β : Type} (check : β → Findings) (f : α → β) (xs : List α) :
    Findings.all check (xs.map f) = Findings.all (fun x => check (f x)) xs := by
  induction xs with
  | nil => rfl
  | cons x xs ih => simp only [List.map_cons, Findings.all, ih]

/-! ## Rows of rules -/

/-- A row of rules that neither names itself nor chooses a dialect. -/
structure Anonymous (rules : List (String × Value)) : Prop where
  address : rules.lookup "$id" = none
  dialect : rules.lookup "$schema" = none

section Rules

variable {root : Value} {fuel : Nat} {base : List Char} {rules : List (String × Value)}
  {document : Value} {P : Prop}

/-- A schema without a reference is checked rule by rule. -/
theorem findings_rules (root : Value) (fuel : Nat) (base : List Char)
    (local_ : rules.lookup "$ref" = none) (document : Value) :
    findings root (fuel + 1) base (.record rules) document =
      .all (fun r => keyword (findings root fuel) base (rows rules) r.1 r.2 document) rules := by
  have none_ : Value.field "$ref" (rows rules) = none := by rw [field_rows, local_]
  simp only [findings, Value.record, none_]
  exact all_map _ _ _

theorem rules_decide (local_ : rules.lookup "$ref" = none)
    (h : (Findings.all (fun r => keyword (findings root fuel) base (rows rules) r.1 r.2 document)
      rules).Decides document P) :
    (findings root (fuel + 1) base (.record rules) document).Decides document P := by
  rw [findings_rules root fuel base local_ document]
  exact h

/-- What a schema finds in a part is what it finds in the part on its own, seen from the whole. -/
theorem descend_eq (check : Check) (anonymous : Anonymous rules) (step : Option Value) :
    descend check base step (.record rules) document =
      match step with
      | none | some .null => check base (.record rules) document
      | some s => (check base (.record rules) document).under s := by
  have noAddress : ownAddress (.map (rows rules)) = .ok none := by
    simp only [ownAddress, field_rows, anonymous.address]
    split <;> rfl
  have noDialect : checkDialect (.map (rows rules)) = .ok () := by
    simp only [checkDialect, field_rows, anonymous.dialect]
  simp only [descend, Value.record, entered, noAddress, noDialect, Findings.after]
  rfl

theorem descend_decides {check : Check} (anonymous : Anonymous rules) (step : Option Value)
    (h : (check base (.record rules) document).Decides document P) :
    (descend check base step (.record rules) document).Decides document P := by
  rw [descend_eq check anonymous step]
  split
  · exact h
  · exact h
  · exact h.under _

theorem descend_answers {check : Check} (anonymous : Anonymous rules) (step : Option Value)
    (h : (check base (.record rules) document).Answers) :
    (descend check base step (.record rules) document).Answers := by
  rw [descend_eq check anonymous step]
  split
  · exact h
  · exact h
  · exact h.under _

end Rules

/-! ## Types -/

/-- The integer that a number is, also if it is written as a double. -/
def whole? : Value → Option Int
  | .int n => some n
  | .float x => x.toInt?
  | _ => none

theorem isWhole_iff (v : Value) : v.isWhole = true ↔ ∃ n, whole? v = some n := by
  cases v <;> simp [Value.isWhole, whole?, Option.isSome_iff_exists]

section Keywords

variable {check : Check} {base : List Char} {schema : List (Value × Value)} {document : Value}

theorem typed_decides {name : String} {fits : Bool}
    (h : isType document (.text name) = .ok fits) :
    (typed (.text name) document).Decides document (fits = true) := by
  have one : isOneOfTypes document [.text name] = .ok fits := by
    simp only [isOneOfTypes, h]
    cases fits <;> rfl
  simp only [typed, typeNames, Findings.after, one]
  exact .reportUnless (.bind (quoted_foreseen _) fun _ _ =>
    .bind (.mapM fun _ _ => shown_foreseen _ _) fun _ _ => .pure _)

theorem type_string : (keyword check base schema "type" (.text "string") document).Decides document
    (∃ s, document = .text s) :=
  (typed_decides rfl).congr (by cases document <;> simp)

theorem type_object : (keyword check base schema "type" (.text "object") document).Decides document
    (∃ es, document = .map es) :=
  (typed_decides rfl).congr (by cases document <;> simp)

theorem type_array : (keyword check base schema "type" (.text "array") document).Decides document
    (∃ xs, document = .list xs) :=
  (typed_decides rfl).congr (by cases document <;> simp)

theorem type_boolean :
    (keyword check base schema "type" (.text "boolean") document).Decides document
      (∃ b, document = .bool b) :=
  (typed_decides rfl).congr (by cases document <;> simp)

theorem type_integer :
    (keyword check base schema "type" (.text "integer") document).Decides document
      (∃ n, whole? document = some n) :=
  (typed_decides rfl).congr (isWhole_iff document)

theorem isOneOfTypes_pair {a b : Value} {p q : Bool} (first : isType document a = .ok p)
    (second : isType document b = .ok q) : isOneOfTypes document [a, b] = .ok (p || q) := by
  simp only [isOneOfTypes, first, second]
  cases p <;> cases q <;> rfl

/-- A row of type names decides that the document is of one of the types. -/
theorem type_stringOrInteger :
    (keyword check base schema "type" (.list [.text "string", .text "integer"]) document).Decides
      document ((∃ s, document = .text s) ∨ ∃ n, whole? document = some n) := by
  obtain ⟨isText, typed_, isText_iff⟩ : ∃ isText, isType document (.text "string") = .ok isText ∧
      (isText = true ↔ ∃ s, document = .text s) := by
    cases document <;> exact ⟨_, rfl, by simp⟩
  have fits := isOneOfTypes_pair typed_ (rfl : isType document (.text "integer") = _)
  show (typed _ document).Decides document _
  simp only [typed, typeNames, Value.items, Findings.after, fits]
  refine Decides.congr (.reportUnless (.bind (quoted_foreseen _) fun _ _ =>
    .bind (.mapM fun _ _ => shown_foreseen _ _) fun _ _ => .pure _)) ?_
  rw [Bool.or_eq_true, isWhole_iff, isText_iff]

/-! ## Limits -/

/-- A size is less than one if it is zero. -/
theorem compares_one (size : Nat) :
    compares (.int size) (.int 1) [.lt] = .ok (decide (size = 0)) := by
  simp only [compares, Value.isNumber, Value.compareNumbers?]
  by_cases empty : size = 0
  · subst empty
    rfl
  · have more : compare (size : Int) 1 ≠ .lt := by
      rw [Ne, compare_lt_iff_lt]
      omega
    simpa [empty, eq_comm] using more

theorem minLength_one : (keyword check base schema "minLength" (.int 1) document).Decides document
    (∀ s, document = .text s → s ≠ "") := by
  show (sizeLimit "string" .lt 1 _ _ (.int 1) document).Decides document _
  cases document with
  | text s =>
      simp only [sizeLimit, sizeOf?, if_true, Findings.after, compares_one]
      refine (Decides.reportIf (.bind (quoted_foreseen _) fun _ _ => .pure _)).congr ?_
      simp [String.length_eq_zero_iff]
  | _ => exact .done (by simp)

theorem minItems_one : (keyword check base schema "minItems" (.int 1) document).Decides document
    (∀ xs, document = .list xs → xs ≠ []) := by
  show (sizeLimit "array" .lt 1 _ _ (.int 1) document).Decides document _
  cases document with
  | list xs =>
      simp only [sizeLimit, sizeOf?, if_true, Findings.after, compares_one]
      refine (Decides.reportIf (.bind (quoted_foreseen _) fun _ _ => .pure _)).congr ?_
      simp [List.length_eq_zero_iff]
  | _ => exact .done (by simp)

/-- A double that is a whole number is compared as that number. -/
theorem compareInt?_of_toInt? {x : Binary64} {n : Int} (whole : x.toInt? = some n) (limit : Int) :
    x.compareInt? limit = some (compare n limit) := by
  cases x with
  | infinite s => simp [Binary64.toInt?, Binary64.toRatio?] at whole
  | nan mark => simp [Binary64.toInt?, Binary64.toRatio?] at whole
  | finite s m e =>
      obtain ⟨num, den, ratio, positive⟩ : ∃ (num : Int) (den : Nat),
          (Binary64.finite s m e).toRatio? = some (num, den) ∧ 0 < den := by
        by_cases up : 0 ≤ e
        · exact ⟨_, 1, by simp [Binary64.toRatio?, up]; rfl, Nat.one_pos⟩
        · exact ⟨_, Binary64.twoTo (-e), by simp [Binary64.toRatio?, up]; rfl,
            Nat.pow_pos (by decide)⟩
      simp only [Binary64.toInt?, ratio] at whole
      split at whole
      · rename_i even
        cases whole
        have product : num = num / den * den :=
          (Int.ediv_mul_cancel (Int.dvd_of_emod_eq_zero even)).symm
        have den_pos : (0 : Int) < den := by exact_mod_cast positive
        simp only [Binary64.compareInt?, ratio, Option.map_some, Option.some.injEq]
        generalize num / (den : Int) = q at product
        subst product
        rcases lt_trichotomy q limit with less | same | more
        · rw [compare_lt_iff_lt.mpr less, compare_lt_iff_lt]
          exact Int.mul_lt_mul_of_pos_right less den_pos
        · rw [same, compare_eq_iff_eq.mpr rfl]
          exact (compare_eq_iff_eq.mpr rfl).symm
        · rw [compare_gt_iff_gt.mpr more, compare_gt_iff_gt]
          exact Int.mul_lt_mul_of_pos_right more den_pos
      · simp at whole

theorem compareNumbers?_of_whole? {v : Value} {n : Int} (whole : whole? v = some n)
    (limit : Int) : v.compareNumbers? (.int limit) = some (compare n limit) := by
  cases v with
  | int m =>
      cases whole
      rfl
  | float x => exact compareInt?_of_toInt? whole limit
  | _ => simp [whole?] at whole

/-- A limit on numbers decides that a whole number does not stand in one of some orders to it. -/
theorem numberLimit_decides (beyond : List Ordering) (text : String) (limit : Int) {n : Int}
    (whole : whole? document = some n) :
    (numberLimit beyond text (.int limit) document).Decides document
      (compare n limit ∉ beyond) := by
  have isNumber : document.isNumber = true := by
    cases document <;> simp_all [whole?, Value.isNumber]
  have order : compares document (.int limit) beyond =
      .ok (beyond.contains (compare n limit)) := by
    have limitIs : (Value.int limit).isNumber = true := rfl
    simp [compares, isNumber, limitIs, compareNumbers?_of_whole? whole]
  simp only [numberLimit, isNumber, if_true, Findings.after, order]
  refine (Decides.reportIf (.bind (quoted_foreseen _) fun _ _ =>
    .bind (shown_foreseen _ _) fun _ _ => .pure _)).congr ?_
  simp

theorem minimum_decides (least : Int) {n : Int} (whole : whole? document = some n) :
    (keyword check base schema "minimum" (.int least) document).Decides document (least ≤ n) :=
  (numberLimit_decides [.lt] _ least whole).congr (by simp [compare_lt_iff_lt])

theorem maximum_decides (most : Int) {n : Int} (whole : whole? document = some n) :
    (keyword check base schema "maximum" (.int most) document).Decides document (n ≤ most) :=
  (numberLimit_decides [.gt] _ most whole).congr (by simp [compare_gt_iff_gt])

theorem numberLimit_stops (beyond : List Ordering) (text : String) (limit : Int) :
    (numberLimit beyond text (.int limit) document).StopsOnly (Foreseen document) := by
  unfold numberLimit
  split
  · rename_i isNumber
    have order : ∃ b, compares document (.int limit) beyond = .ok b := by
      have limitIs : (Value.int limit).isNumber = true := rfl
      refine ⟨(document.compareNumbers? (.int limit)).any beyond.contains, ?_⟩
      simp only [compares, isNumber, limitIs, Bool.true_or, Bool.and_self, if_true]
    obtain ⟨b, order⟩ := order
    rw [order]
    exact (Decides.reportIf (.bind (quoted_foreseen _) fun _ _ =>
      .bind (shown_foreseen _ _) fun _ _ => .pure _)).stops
  · trivial

/-! ## Choices -/

/-- Whether a document is one of some texts can always be told. -/
theorem anyM_equal_texts (document : Value) : ∀ names : List String,
    (names.map Value.text).anyM (equal · document) =
      .ok (names.any fun name => (Value.text name).same document)
  | [] => rfl
  | name :: names => by
      rw [List.map_cons, List.anyM, equal_text_left, anyM_equal_texts document names,
        List.any_cons]
      cases (Value.text name).same document <;> rfl

/-- A row of names decides that the document is one of them. -/
theorem enum_texts (names : List String) :
    (keyword check base schema "enum" (.list (names.map .text)) document).Decides document
      (∃ name ∈ names, document = .text name) := by
  have compared := anyM_equal_texts document names
  have judged : FailsOnly (Foreseen document) ((names.map Value.text).anyM (equal · document)) :=
    compared ▸ .ok _
  refine (Decides.judged judged (.bind (quoted_foreseen _) fun _ _ =>
    .bind (shown_foreseen _ _) fun _ _ => .pure _)).congr ?_
  rw [compared]
  simp

theorem const_text (name : String) :
    (keyword check base schema "const" (.text name) document).Decides document
      (document = .text name) := by
  have judged : FailsOnly (Foreseen document) (equal document (.text name)) :=
    equal_text_right document name ▸ .ok _
  exact (Decides.judged judged (.bind (shown_foreseen _ _) fun _ _ => .pure _)).congr (by simp)

theorem shownItems_texts : ∀ names : List String,
    ∃ texts, Value.shownItems (names.map .text) = .ok texts
  | [] => ⟨[], rfl⟩
  | name :: names => by
      obtain ⟨texts, shown⟩ := shownItems_texts names
      refine ⟨Text.quoted name :: texts, ?_⟩
      simp only [List.map_cons, Value.shownItems, Value.shown_text, shown]
      rfl

theorem quoted_text (s : String) : quoted (.text s) = .ok (Text.quoted s) := by
  rw [quoted, if_neg (by simp), Value.shown_text]

theorem enum_texts_answers (names : List String) (kind : String) :
    (keyword check base schema "enum" (.list (names.map .text)) (.text kind)).Answers := by
  obtain ⟨texts, shown⟩ := shownItems_texts names
  have listed : (Value.list (names.map .text)).shown =
      .ok ("[" ++ commaSeparated texts ++ "]") := by
    simp only [Value.shown, shown]
    rfl
  have unfolded : keyword check base schema "enum" (.list (names.map .text)) (.text kind) =
      .after ((names.map Value.text).anyM (equal · (.text kind))) fun isThere =>
        if isThere then .done
        else .report do
          return (← quoted (.text kind)) ++ " is not one of "
            ++ (← (Value.list (names.map .text)).shown) := rfl
  rw [unfolded, anyM_equal_texts, quoted_text, listed, Findings.after]
  split
  · exact fun e => by simp
  · exact .report _

theorem const_text_answers (name kind : String) :
    (keyword check base schema "const" (.text name) (.text kind)).Answers := by
  have unfolded : keyword check base schema "const" (.text name) (.text kind) =
      .after (equal (.text kind) (.text name)) fun isSame =>
        if isSame then .done
        else .report do return (← (Value.text name).shown) ++ " was expected" := rfl
  rw [unfolded, equal_text_right, Value.shown_text, Findings.after]
  split
  · exact fun e => by simp
  · exact .report _

/-! ## Lists -/

/-- Whether the items of a list are distinct can be told, unless they are nested too deeply. -/
theorem areDistinct_foreseen (xs : List Value) :
    FailsOnly (Foreseen (.list xs)) (areDistinct xs) := by
  intro e failed
  obtain ⟨full, x, member, deep⟩ := areDistinct_eq_error failed
  exact .inr ⟨full, Nat.lt_of_lt_of_le deep (Value.depth_le_list member)⟩

theorem uniqueItems_true :
    (keyword check base schema "uniqueItems" (.bool true) document).Decides document
      (∀ xs, document = .list xs → areDistinct xs = .ok true) := by
  cases document with
  | list xs =>
      exact (Decides.judged (areDistinct_foreseen xs)
        (.bind (quoted_foreseen _) fun _ _ => .pure _)).congr (by simp)
  | _ => exact .done (by simp)

/-- A schema for the items decides that every item is as the schema decides. -/
theorem items_record {rules : List (String × Value)} {P : Value → Prop}
    (h : ∀ xs, document = .list xs → ∀ x ∈ xs, ∀ step,
      (descend check base step (.record rules) x).Decides x (P x)) :
    (keyword check base schema "items" (.record rules) document).Decides document
      (∀ xs, document = .list xs → ∀ x ∈ xs, P x) := by
  cases document with
  | list xs =>
      have unfolded : keyword check base schema "items" (.record rules) (.list xs) =
          .all (fun e => descend check base (some e.1) (.record rules) e.2)
            (numbered 0 xs) := rfl
      rw [unfolded]
      have inside : ∀ e ∈ numbered 0 xs, e.2 ∈ xs := by
        intro e he
        simp only [numbered, List.mem_map] at he
        obtain ⟨⟨item, k⟩, here, rfl⟩ := he
        exact List.fst_mem_of_mem_zipIdx here
      refine (Decides.all (P := fun e => P e.2) fun e he =>
        (h xs rfl e.2 (inside e he) (some e.1)).ofPart
          (Value.depth_le_list (inside e he))).congr ?_
      constructor
      · intro each ys same x hx
        cases same
        obtain ⟨k, hk, rfl⟩ := List.getElem_of_mem hx
        refine each (.int (0 + k : Nat), xs[k]) ?_
        simp only [numbered, List.mem_map]
        exact ⟨(xs[k], k), List.mem_zipIdx_iff_getElem?.mpr (by simp [hk]), rfl⟩
      · intro each e he
        exact each xs rfl e.2 (inside e he)
  | _ => exact .done (by simp)

/-! ## Mappings -/

theorem hasName_text (es : List (Value × Value)) (key : String) :
    hasName es (.text key) = .ok (Value.field key es).isSome := by
  have isKey : (Value.text key).isKey = true := rfl
  simp only [hasName, Value.member, isKey, if_true, Except.ok.injEq]
  rw [Bool.eq_iff_iff, List.any_eq_true, Option.isSome_iff_ne_none, Ne, Value.field_eq_none_iff]
  simp

/-- Required keys decide that a mapping has them all. -/
theorem required_texts (names : List String) :
    (keyword check base schema "required" (.list (names.map .text)) document).Decides document
      (∀ es, document = .map es → ∀ name ∈ names, ∃ v, Value.field name es = some v) := by
  cases document with
  | map es =>
      have unfolded : keyword check base schema "required" (.list (names.map .text)) (.map es) =
          required es (names.map .text) := rfl
      rw [unfolded, required, all_map]
      refine (Decides.all (P := fun name => (Value.field name es).isSome = true)
        fun name _ => ?_).congr ?_
      · rw [hasName_text]
        exact Decides.reportUnless (.bind (shown_foreseen _ _) fun _ _ => .pure _)
      · simp [Option.isSome_iff_exists]
  | _ => exact .done (by simp)

/-- What the schema for one key of a mapping finds. -/
def property (check : Check) (base : List Char) (es : List (Value × Value))
    (p : String × Value) : Findings :=
  match Value.field p.1 es with
  | some v => descend check base (some (.text p.1)) p.2 v
  | none => .done

/-- The schema for a key decides that the value of the key, if there is one, is as the schema
decides. -/
theorem property_decides {es : List (Value × Value)} {name : String} {s : Value}
    {P : Value → Prop}
    (h : ∀ v, Value.field name es = some v → ∀ step,
      (descend check base step s v).Decides v (P v)) :
    (property check base es (name, s)).Decides (.map es)
      (∀ v, Value.field name es = some v → P v) := by
  unfold property
  cases found : Value.field name es with
  | none => exact .done (by simp)
  | some v => exact ((h v found _).ofPart (Value.depth_le_of_field found)).congr (by simp)

/-- Schemas for keys decide together what each of them decides. -/
theorem properties_decide {properties : List (String × Value)} {Q : List (Value × Value) → Prop}
    (h : ∀ es, document = .map es → (Findings.all (property check base es) properties).Decides
      (.map es) (Q es)) :
    (keyword check base schema "properties" (.record properties) document).Decides document
      (∀ es, document = .map es → Q es) := by
  cases document with
  | map es =>
      have unfolded : keyword check base schema "properties" (.record properties) (.map es) =
          .all (fun e =>
            match Value.lookup e.1 es with
            | some v => descend check base (some e.1) e.2 v
            | none => .done) (rows properties) := rfl
      rw [unfolded, all_map]
      refine (h es rfl).congr ⟨?_, fun each => each es rfl⟩
      intro each fs same
      cases same
      exact each
  | _ => exact .done (by simp)

theorem filterAuxM_ok {α : Type} {f : α → Except Failure Bool} {keeps : α → Bool} :
    ∀ (xs kept : List α), (∀ x ∈ xs, f x = .ok (keeps x)) →
      xs.filterAuxM f kept = .ok ((xs.filter keeps).reverse ++ kept)
  | [], kept, _ => rfl
  | x :: xs, kept, h => by
      have rest := filterAuxM_ok xs (cond (keeps x) (x :: kept) kept) fun y hy => h y (by simp [hy])
      have step : List.filterAuxM f (x :: xs) kept =
          List.filterAuxM f xs (cond (keeps x) (x :: kept) kept) := by
        simp only [List.filterAuxM, h x (by simp)]
        rfl
      rw [step, rest]
      cases keep : keeps x <;> simp [keep]

theorem filterM_ok {α : Type} {f : α → Except Failure Bool} (keeps : α → Bool) {xs : List α}
    (h : ∀ x ∈ xs, f x = .ok (keeps x)) : xs.filterM f = .ok (xs.filter keeps) := by
  simp only [List.filterM, filterAuxM_ok xs [] h]
  simp [bind, Except.bind, pure, Except.pure]

/-- The keys that the properties do not cover, where there are no patterns for keys. -/
theorem extraKeys_eq {rules : List (String × Value)} {es : List (Value × Value)}
    (properties : List (String × Value)) (keys : ∀ e ∈ es, e.1.isKey = true)
    (known : (rules.lookup "properties").getD (.map []) = .record properties)
    (noPatterns : rules.lookup "patternProperties" = none) :
    extraKeys (rows rules) es =
      .ok ((es.filter fun e => !properties.any fun p => e.1.same (.text p.1)).map (·.1)) := by
  have patterns : joinedPatterns (rows rules) = .ok "" := by
    simp only [joinedPatterns, field_rows, noPatterns]
    rfl
  have filtered : es.filterM (fun e => do
      if ← Value.member e.1 (.record properties) then return false
      else if "".isEmpty then return true
      else return !(← matchesPattern (.text "") e.1)) =
        .ok (es.filter fun e => !properties.any fun p => e.1.same (.text p.1)) := by
    refine filterM_ok (fun e : Value × Value => !properties.any fun p => e.1.same (.text p.1))
      fun e he => ?_
    have among : Value.member e.1 (.record properties) =
        .ok (properties.any fun p => e.1.same (.text p.1)) := by
      simp only [Value.member, Value.record, keys e he, if_true, List.any_map, Except.ok.injEq]
      refine congrArg (properties.any ·) (funext fun p => ?_)
      rw [Function.comp_apply, Bool.eq_iff_iff, Value.same_text_left, Value.same_text_right]
    rw [among]
    cases properties.any fun p => e.1.same (.text p.1) <;> rfl
  simp only [extraKeys, field_rows, known, patterns]
  show (do
    let uncovered ← List.filterM _ es
    pure (List.map (·.1) uncovered) : Except Failure (List Value)) = _
  rw [filtered]
  rfl

theorem extrasMessage_verdictOnly {rules : List (String × Value)} (extras : List Value)
    (noPatterns : rules.lookup "patternProperties" = none) :
    VerdictOnly (extrasMessage (rows rules) extras) := by
  simp only [extrasMessage, field_rows, noPatterns]
  refine .bind (.bind (.mapM fun _ _ => Value.display_verdictOnly _) fun _ _ => .pure _)
    fun _ _ => ?_
  exact .bind (.mapM fun _ _ => Value.shown_verdictOnly _) fun _ _ => .pure _

/-- A schema that allows no further keys decides that every key is one of the properties. -/
theorem additionalProperties_false {rules properties : List (String × Value)}
    (keys : ∀ es, document = .map es → ∀ e ∈ es, e.1.isKey = true)
    (known : rules.lookup "properties" = some (.record properties))
    (noPatterns : rules.lookup "patternProperties" = none) :
    (keyword check base (rows rules) "additionalProperties" (.bool false) document).Decides document
      (∀ es, document = .map es → ∀ e ∈ es, ∃ p ∈ properties, e.1 = .text p.1) := by
  cases document with
  | map es =>
      have unfolded : keyword check base (rows rules) "additionalProperties" (.bool false) (.map es)
          = .after (extraKeys (rows rules) es) fun extras =>
            if extras.isEmpty then .done else .report (extrasMessage (rows rules) extras) := rfl
      rw [unfolded, extraKeys_eq properties (keys es rfl) (by rw [known]; rfl) noPatterns]
      refine (Decides.reportUnless (foreseen_of_verdictOnly
        (extrasMessage_verdictOnly _ noPatterns) _)).congr ?_
      simp
  | _ => exact .done (by simp)

/-- A schema for further keys, where there are no properties, decides that every value is as the
schema decides. -/
theorem additionalProperties_record {rules further : List (String × Value)} {P : Value → Prop}
    (keyed : ∀ es, document = .map es → Value.Keyed es)
    (known : rules.lookup "properties" = none)
    (noPatterns : rules.lookup "patternProperties" = none)
    (h : ∀ es, document = .map es → ∀ e ∈ es, ∀ step,
      (descend check base step (.record further) e.2).Decides e.2 (P e.2)) :
    (keyword check base (rows rules) "additionalProperties" (.record further) document).Decides
      document (∀ es, document = .map es → ∀ e ∈ es, P e.2) := by
  cases document with
  | map es =>
      have unfolded : keyword check base (rows rules) "additionalProperties" (.record further)
          (.map es) = .after (extraKeys (rows rules) es) (.all fun k =>
            descend check base (some k) (.record further) ((Value.lookup k es).getD .null)) := rfl
      have keys : ∀ e ∈ es, e.1.isKey = true := by
        intro e he
        have scalar := (keyed es rfl).scalar e he
        cases h : e.1 <;> simp_all [Value.isKey, Value.isScalar]
      rw [unfolded, extraKeys_eq [] keys (by rw [known]; rfl) noPatterns]
      have all_ : (es.filter fun e => !([] : List (String × Value)).any fun p =>
          e.1.same (.text p.1)) = es := by
        simp
      rw [all_]
      simp only [Findings.after, all_map]
      refine (Decides.all (P := fun e => P e.2) fun e he => ?_).congr ?_
      · rw [(keyed es rfl).lookup_of_mem (show (e.1, e.2) ∈ es from he)]
        exact (h es rfl e he (some e.1)).ofPart (Value.depth_le_map he)
      · constructor
        · intro each fs same
          cases same
          exact each
        · intro each
          exact each es rfl
  | _ => exact .done (by simp)

/-! ## Combinations -/

/-- What follows a condition depends on whether the document meets it. -/
theorem keyword_if (condition : Value) :
    keyword check base schema "if" condition document =
      .after (accepts check base condition document) fun isFit =>
        match Value.field (if isFit then "then" else "else") schema with
        | some s => descend check base none s document
        | none => .done :=
  rfl

/-- A condition that can be judged decides that what stands under it holds if the condition
does. -/
theorem if_decides {condition consequence : Value} {fits : Bool} {P : Prop}
    (then_ : Value.field "then" schema = some consequence)
    (else_ : Value.field "else" schema = none)
    (judged : accepts check base condition document = .ok fits)
    (h : (descend check base none consequence document).Decides document P) :
    (keyword check base schema "if" condition document).Decides document (fits = true → P) := by
  rw [keyword_if, judged]
  cases fits with
  | true => exact (by simpa [Findings.after, then_] using h.congr (by simp))
  | false => simpa [Findings.after, else_] using Decides.done trivial

theorem if_stops {condition consequence : Value}
    (then_ : Value.field "then" schema = some consequence)
    (else_ : Value.field "else" schema = none)
    (judged : FailsOnly (Foreseen document) (accepts check base condition document))
    (h : (descend check base none consequence document).StopsOnly (Foreseen document)) :
    (keyword check base schema "if" condition document).StopsOnly (Foreseen document) := by
  rw [keyword_if]
  refine StopsOnly.after judged fun fits => ?_
  cases fits with
  | true => simpa [then_] using h
  | false => simp [else_, StopsOnly]

end Keywords

/-- A schema that is a reference decides what the schema it leads to decides. -/
theorem decides_named {root : Value} {fuel : Nat} {base : List Char} {name : String}
    {target : Located} {document : Value} {P : Prop}
    (leads : resolve root base name.toList = .ok target)
    (dialect : checkDialect target.schema = .ok ())
    (h : (findings root fuel target.base target.schema document).Decides document P) :
    (findings root (fuel + 1) base (.record [("$ref", .text name)]) document).Decides
      document P := by
  have reference : Value.field "$ref" (rows [("$ref", .text name)]) = some (.text name) := by
    rw [field_rows]
    rfl
  have opened : findings root (fuel + 1) base (.record [("$ref", .text name)]) document =
      findings root fuel target.base target.schema document := by
    simp only [findings, Value.record, reference, leads, Findings.after, dialect]
  rw [opened]
  exact h

end Conveyor.Schema

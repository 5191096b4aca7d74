import Conveyor.FileTree.Basic

/-!
# Paths in normal form

A path in normal form is read back from its text: the file system takes its text along exactly its
names (`steps_text`), from the top or from the working directory as its root says (`head?_text`).
-/

set_option autoImplicit false

namespace Conveyor.Path

/-- Every name leads on, and none of them holds a slash. -/
structure IsNormal (p : Path) : Prop where
  proper : ∀ name ∈ p.parts, isProper name = true
  whole : ∀ name ∈ p.parts, '/' ∉ name.toList

theorem not_mem_of_mem_splitOn {α : Type} [BEq α] [LawfulBEq α] {a : α} :
    ∀ {xs : List α} {piece : List α}, piece ∈ xs.splitOn a → a ∉ piece
  | [], piece, member => by simp_all
  | x :: xs, piece, member => by
      rw [List.splitOn_cons_eq_if_modifyHead] at member
      split at member
      · rcases List.mem_cons.mp member with rfl | there
        · simp
        · exact not_mem_of_mem_splitOn there
      · rename_i differs
        have pieces := @not_mem_of_mem_splitOn α _ _ a xs
        cases cut : xs.splitOn a with
        | nil => exact absurd cut (List.splitOn_ne_nil a xs)
        | cons first rest =>
            rw [cut] at member pieces
            rcases List.mem_cons.mp member with rfl | there
            · have ahead := pieces List.mem_cons_self
              simp only [List.mem_cons, not_or]
              exact ⟨fun same => differs (by simp [same]), ahead⟩
            · exact pieces (List.mem_cons_of_mem _ there)

/-- A name between two slashes holds no slash. -/
theorem not_mem_of_mem_split {s name : String} (member : name ∈ split s) : '/' ∉ name.toList := by
  obtain ⟨piece, here, rfl⟩ := List.mem_map.mp member
  rw [String.toList_ofList]
  exact not_mem_of_mem_splitOn here

theorem isNormal_ofText (s : String) : (ofText s).IsNormal where
  proper _ member := (List.mem_filter.mp member).2
  whole _ member := not_mem_of_mem_split (List.mem_filter.mp member).1

theorem IsNormal.join {p q : Path} (hp : p.IsNormal) (hq : q.IsNormal) : (p.join q).IsNormal := by
  unfold Path.join
  split
  · exact hq
  · exact ⟨fun _ member => (List.mem_append.mp member).elim (hp.proper _) (hq.proper _),
      fun _ member => (List.mem_append.mp member).elim (hp.whole _) (hq.whole _)⟩

/-- A slash between two texts keeps their names apart. -/
theorem split_append_slash_append (s rest : String) :
    split (s ++ "/" ++ rest) = split s ++ split rest := by
  unfold split
  rw [String.toList_append, String.toList_append, List.append_assoc]
  show ((s.toList ++ '/' :: rest.toList).splitOn '/').map String.ofList = _
  rw [List.splitOn_append_cons_self, List.map_append]

/-- A name without a slash is a single name. -/
theorem split_of_not_mem {name : String} (whole : '/' ∉ name.toList) : split name = [name] := by
  rw [split, (List.splitOn_eq_singleton whole), List.map_cons, String.ofList_toList, List.map_nil]

/-- A name with a slash behind it is the first name. -/
theorem split_append_slash {name : String} (whole : '/' ∉ name.toList) (rest : String) :
    split (name ++ "/" ++ rest) = name :: split rest := by
  rw [split_append_slash_append, split_of_not_mem whole]
  rfl

/-! ## Texts of paths -/

/-- The characters of names with slashes between them are cut into the names again. -/
theorem splitOn_intercalate_names {names : List String} (some_ : names ≠ [])
    (whole : ∀ name ∈ names, '/' ∉ name.toList) :
    ("/".intercalate names).toList.splitOn '/' = names.map String.toList := by
  rw [String.toList_intercalate]
  exact List.splitOn_intercalate '/' (by simpa using whole) (by simpa using some_)

/-- The number of slashes that a path starts with. -/
def Root.slashes : Root → Nat
  | .here => 0
  | .top => 1
  | .twoSlashes => 2

theorem split_append_root (root : Root) (s : String) :
    split (root.text ++ s) = List.replicate root.slashes "" ++ split s := by
  unfold split
  cases root with
  | here => simp [Root.text, Root.slashes]
  | top =>
      simp [Root.text, Root.slashes, String.toList_append, List.splitOn_cons_eq_if_modifyHead]
  | twoSlashes =>
      simp [Root.text, Root.slashes, String.toList_append, List.splitOn_cons_eq_if_modifyHead,
        List.replicate_succ]

/-- A text that starts without a slash is a relative path. -/
theorem root_ofText {s : String} (noSlash : s.toList.head? ≠ some '/') :
    (ofText s).root = .here := by
  show Root.ofText s = .here
  unfold Root.ofText
  cases chars : s.toList with
  | nil => rfl
  | cons c rest =>
      have differs : c ≠ '/' := by simpa [chars] using noSlash
      rw [List.takeWhile_cons_of_neg (by simpa using differs)]
      rfl

variable {p : Path}

theorem text_of_parts (some_ : p.parts ≠ []) :
    p.text = p.root.text ++ "/".intercalate p.parts := by
  have filled : p.parts.isEmpty = false := by simpa using some_
  simp [text, filled]

theorem split_text (normal : p.IsNormal) (some_ : p.parts ≠ []) :
    split p.text = List.replicate p.root.slashes "" ++ p.parts := by
  have names : split ("/".intercalate p.parts) = p.parts := by
    rw [split, splitOn_intercalate_names some_ normal.whole, List.map_map]
    simp [Function.comp_def]
  rw [text_of_parts some_, split_append_root, names]

theorem IsNormal.ne_empty (normal : p.IsNormal) {name : String} (member : name ∈ p.parts) :
    name ≠ "" := by
  have proper := normal.proper name member
  rintro rfl
  revert proper
  decide

/-- The text of a path leads along its names. -/
theorem steps_text (normal : p.IsNormal) (some_ : p.parts ≠ []) : steps p.text = p.parts := by
  have dropped : (List.replicate p.root.slashes "").filter isProper = [] := by
    rw [List.filter_eq_nil_iff]
    intro name member
    rw [List.eq_of_mem_replicate member]
    decide
  have kept : p.parts.filter isProper = p.parts := List.filter_eq_self.mpr normal.proper
  have last : (split p.text).getLast? ≠ some "" := by
    rw [split_text normal some_, List.getLast?_append, List.getLast?_eq_some_getLast some_]
    simpa using normal.ne_empty (List.getLast_mem some_)
  have noDot : decide ((split p.text).getLast? = some "") = false := by simpa using last
  simp only [steps, noDot, Bool.false_and, Bool.false_eq_true, if_false, List.append_nil]
  rw [split_text normal some_, List.filter_append, dropped, kept, List.nil_append]

/-- A text that starts with a slash starts with an empty name. -/
theorem head?_split {s : String} (slash : s.toList.head? = some '/') :
    (split s).head? = some "" := by
  unfold split
  cases chars : s.toList with
  | nil => rw [chars] at slash; cases slash
  | cons c rest =>
      rw [chars, List.head?_cons, Option.some.injEq] at slash
      simp [slash, List.splitOn_cons_eq_if_modifyHead]

/-- The text of a path with names starts with a slash exactly if the path starts at the top. -/
theorem head?_text (normal : p.IsNormal) (some_ : p.parts ≠ []) :
    p.text.toList.head? = some '/' ↔ p.root ≠ .here := by
  constructor
  · intro slash here
    have first := head?_split slash
    rw [split_text normal some_, here] at first
    have member : "" ∈ p.parts := List.mem_of_mem_head? (by simpa [Root.slashes] using first)
    exact normal.ne_empty member rfl
  · intro above
    rw [text_of_parts some_, String.toList_append]
    cases root : p.root with
    | here => exact absurd root above
    | top => rfl
    | twoSlashes => rfl

end Conveyor.Path

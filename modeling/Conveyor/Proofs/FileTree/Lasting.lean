import Conveyor.Proofs.FileTree.Confinement

/-!
# Stored files that last

A path whose last name leads on ends at a place with this name, wherever the names before it lead
(`getLast?_lead`). So a file that was stored keeps its text as long as the files that are stored
after it have other last names, even where their paths lead up and out of the directory
(`stat_of_store`).
-/

set_option autoImplicit false

namespace Conveyor

namespace FileTree

/-- A name that is no dots comes last in the place it leads to. -/
theorem getLast?_lead {base : Place} {before : List String} {name : String}
    (forward : name ≠ "." ∧ name ≠ "..") :
    (lead base (before ++ [name])).names.getLast? = some name := by
  rw [lead, List.foldl_append, List.foldl_cons, List.foldl_nil, leadStep, if_neg forward.1,
    if_neg forward.2, List.getLast?_concat]

/-- New directories leave files as they are. -/
theorem Grows.file {t u : FileTree} (grows : Grows t u) {p : Place} {content : String}
    (there : t.at? p = some (.file content)) : u.at? p = some (.file content) := by
  rcases grows p with same | ⟨free, -⟩
  · exact same.trans there
  · rw [there] at free
    cases free

end FileTree

namespace Bundle

open FileTree

/-- A relative path with a last name that leads on. -/
structure HasName (path name : String) : Prop where
  here : (Path.ofText path).root = .here
  last : ∃ before, (Path.ofText path).parts = before ++ [name]
  forward : name ≠ "." ∧ name ≠ ".."

variable {root : Path} {path content name : String} {p : Place} {t : FileTree}

/-- A file that is written stands at a place with the last name of its path. -/
theorem exists_sets_of_writeText (normal : root.IsNormal) (named : HasName path name) {u : FileTree}
    (written : t.writeText (root.join (.ofText path)).text content = .ok u) :
    ∃ p, p.names.getLast? = some name ∧ t.resolve (root.join (.ofText path)).text = .ok p ∧
      Sets t u p content := by
  obtain ⟨before, parts⟩ := named.last
  obtain ⟨base, p, -, fromBase, resolved, sets⟩ := sets_of_writeText_join normal
    (Path.isNormal_ofText path) named.here (by simp [parts]) written
  rw [parts] at fromBase
  exact ⟨p, eq_lead_of_walk fromBase ▸ getLast?_lead named.forward, resolved, sets⟩

/-- Storing a file leaves files with other names as they are. -/
theorem file_of_storeOne (normal : root.IsNormal) {other : String} (named : HasName path other)
    (differs : other ≠ name) (last : p.names.getLast? = some name) {held : String}
    (there : t.at? p = some (.file held)) :
    (storeOne t (root.join (.ofText path)) content).tree.at? p = some (.file held) := by
  rcases storeOne_cases t (root.join (.ofText path)) content with
    ⟨-, -, grows⟩ | ⟨-, u, grows, written⟩
  · exact grows.file there
  · obtain ⟨q, last', -, sets⟩ := exists_sets_of_writeText normal named written
    have apart : p ≠ q := by
      rintro rfl
      rw [last, Option.some.injEq] at last'
      exact differs last'.symm
    have before := grows.file there
    rcases sets.rest p apart with same | ⟨free, -⟩
    · exact same.trans before
    · rw [before] at free
      cases free

/-- Storing files leaves files with other names as they are. -/
theorem file_of_storeFiles (normal : root.IsNormal) (last : p.names.getLast? = some name)
    {held : String} : ∀ {b : Bundle} {t : FileTree},
      (∀ e ∈ b, ∃ other, HasName e.1 other ∧ other ≠ name) →
      t.at? p = some (.file held) → (storeFiles root t b).tree.at? p = some (.file held)
  | [], _, _, there => there
  | (path, content) :: rest, t, named, there => by
      obtain ⟨other, namedHere, differs⟩ := named (path, content) (by simp)
      have first : (storeOne t (root.join (.ofText path)) content).tree.at? p =
          some (.file held) := file_of_storeOne normal namedHere differs last there
      rw [storeFiles]
      dsimp only
      split
      · exact first
      · exact file_of_storeFiles normal last (fun e member => named e (by simp [member])) first

/-- A file that is stored keeps its text if the files after it have other names. -/
theorem stat_of_storeFiles (normal : root.IsNormal) (named : HasName path name) {after : Bundle}
    (others : ∀ e ∈ after, ∃ other, HasName e.1 other ∧ other ≠ name) :
    ∀ {before : Bundle} {t : FileTree},
      (storeFiles root t (before ++ (path, content) :: after)).stopped = none →
      (storeFiles root t (before ++ (path, content) :: after)).tree.stat
        (root.join (.ofText path)).text = .ok (.file content)
  | [], t, stored => by
      rw [List.nil_append, storeFiles] at stored ⊢
      dsimp only at stored ⊢
      rcases storeOne_cases t (root.join (.ofText path)) content with
        ⟨e, stopped, -⟩ | ⟨finished, u, -, written⟩
      · rw [stopped] at stored
        cases stored
      · rw [finished]
        obtain ⟨p, last, resolved, sets⟩ := exists_sets_of_writeText normal named written
        exact stat_of_keeps (sets.keeps.trans (keeps_storeFiles root after _)) resolved
          (file_of_storeFiles normal last others sets.set)
  | (first, text) :: before, t, stored => by
      rw [List.cons_append, storeFiles] at stored ⊢
      dsimp only at stored ⊢
      split at stored
      · cases stored
      · exact stat_of_storeFiles normal named others stored

/-- A file of a bundle that was stored keeps its text if the files after it have other names. -/
theorem stat_of_store (normal : root.IsNormal) (named : HasName path name) {before after : Bundle}
    (others : ∀ e ∈ after, ∃ other, HasName e.1 other ∧ other ≠ name)
    (stored : (store root t (before ++ (path, content) :: after)).stopped = none) :
    (store root t (before ++ (path, content) :: after)).tree.stat (root.join (.ofText path)).text =
      .ok (.file content) := by
  unfold store at stored ⊢
  dsimp only at stored ⊢
  split at stored
  · cases stored
  · exact stat_of_storeFiles normal named others stored

end Bundle

end Conveyor

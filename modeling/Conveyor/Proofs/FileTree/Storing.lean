import Conveyor.FileTree.Bundle
import Conveyor.Proofs.FileTree.Frame
import Conveyor.Proofs.Log.Outcome

/-!
# What storing a bundle changes

A bundle whose paths only lead on is stored below one place, the directory of the bundle: each file
stands at the names of its path below that place (`below`). Where storing does not stop early and no
two paths are the same, every file holds its text afterwards, and besides the files only directories
were added, where nothing was (`Writes`).
-/

set_option autoImplicit false

namespace Conveyor

namespace FileTree

/-- One file is written; besides it only directories are added. -/
structure Sets (t u : FileTree) (p : Place) (content : String) : Prop where
  noDirectory : t.at? p ≠ some .directory
  set : u.at? p = some (.file content)
  rest : ∀ q, q ≠ p → u.at? q = t.at? q ∨ (t.at? q = none ∧ u.at? q = some .directory)

theorem Sets.keeps {t u : FileTree} {p : Place} {content : String} (h : Sets t u p content) :
    Keeps t u := by
  intro q there
  by_cases here : q = p
  · exact absurd (here ▸ there) h.noDirectory
  · rcases h.rest q here with same | ⟨free, -⟩
    · exact same.trans there
    · rw [there] at free
      cases free

theorem sets_of_writeText {t u : FileTree} {path content : String}
    (written : t.writeText path content = .ok u) :
    ∃ p, t.resolve path = .ok p ∧ Sets t u p content := by
  unfold writeText at written
  split at written
  · cases written
  · rename_i p resolved
    split at written
    · cases written
    · rename_i noDirectory
      cases written
      refine ⟨p, resolved, noDirectory, at?_put_self noDirectory, fun q differs => .inl ?_⟩
      exact at?_put_of_ne differs

/-- Where directories stay, a path leads to the same place. -/
theorem resolve_of_keeps {t u : FileTree} (keeps : Keeps t u) {path : String} {p : Place}
    (resolved : t.resolve path = .ok p) : u.resolve path = .ok p := by
  obtain ⟨named, walked⟩ := resolve_eq_ok_iff.mp resolved
  exact resolve_eq_ok_iff.mpr ⟨named, walk_of_keeps keeps walked⟩

/-- A path leads to what stands at its place, where directories stay. -/
theorem stat_of_keeps {t u : FileTree} (keeps : Keeps t u) {path : String} {p : Place} {node : Node}
    (resolved : t.resolve path = .ok p) (there : u.at? p = some node) : u.stat path = .ok node := by
  simp only [stat, resolve_of_keeps keeps resolved, there, bind, Except.bind]
  rfl

/-- A path that was written to leads to the file. -/
theorem stat_of_writeText {t u : FileTree} {path content : String}
    (written : t.writeText path content = .ok u) : u.stat path = .ok (.file content) := by
  obtain ⟨p, resolved, sets⟩ := sets_of_writeText written
  exact stat_of_keeps sets.keeps resolved sets.set

theorem normalLines_eq_self : ∀ {s : List Char}, '\r' ∉ s → normalLines s = s
  | [], _ => rfl
  | c :: s, noReturn => by
      have other : c ≠ '\r' := by
        rintro rfl
        exact noReturn List.mem_cons_self
      have rest := normalLines_eq_self fun there => noReturn (List.mem_cons_of_mem _ there)
      rw [normalLines, rest]
      · exact fun _ same _ => other same
      · exact fun same => other same

/-- A text without carriage returns is read as it was written. -/
theorem readText_of_writeText {t u : FileTree} {path content : String}
    (written : t.writeText path content = .ok u) (noReturn : '\r' ∉ content.toList) :
    u.exists? path = true ∧ u.readText path = .ok content := by
  have stat := stat_of_writeText written
  refine ⟨by rw [exists?, stat], ?_⟩
  rw [readText, stat]
  dsimp only
  rw [normalLines_eq_self noReturn, String.ofList_toList]

theorem Grows.sets {t u v : FileTree} {p : Place} {content : String} (h : Grows t u)
    (h' : Sets u v p content) : Sets t v p content where
  noDirectory there := h'.noDirectory (h.keeps p there)
  set := h'.set
  rest q differs := adds_trans (h q) (h'.rest q differs)

/-- Files are written; besides them only directories are added. -/
structure Writes (t u : FileTree) (files : List (Place × String)) : Prop where
  keeps : Keeps t u
  set : ∀ e ∈ files, u.at? e.1 = some (.file e.2)
  rest : ∀ q, (∀ e ∈ files, q ≠ e.1) →
    u.at? q = t.at? q ∨ (t.at? q = none ∧ u.at? q = some .directory)

theorem Writes.nil (t : FileTree) : Writes t t [] :=
  ⟨fun _ there => there, by simp, fun _ _ => .inl rfl⟩

theorem Grows.writes {t u v : FileTree} {files : List (Place × String)} (h : Grows t u)
    (h' : Writes u v files) : Writes t v files where
  keeps := h.keeps.trans h'.keeps
  set := h'.set
  rest q differs := adds_trans (h q) (h'.rest q differs)

/-- What is written first stays, if none of the other files stands at its place. -/
theorem Sets.writes {t u v : FileTree} {p : Place} {content : String}
    {files : List (Place × String)} (h : Sets t u p content) (h' : Writes u v files)
    (apart : ∀ e ∈ files, p ≠ e.1) : Writes t v ((p, content) :: files) where
  keeps := h.keeps.trans h'.keeps
  set e member := by
    rcases List.mem_cons.mp member with rfl | there
    · rcases h'.rest p apart with same | ⟨free, -⟩
      · exact same.trans h.set
      · rw [h.set] at free
        cases free
    · exact h'.set e there
  rest q differs := adds_trans (h.rest q (differs (p, content) (by simp)))
    (h'.rest q fun e member => differs e (by simp [member]))

end FileTree

namespace Path

/-- A relative path with names that only lead on. -/
def LeadsOn (s : String) : Prop := ∀ name ∈ split s, name ≠ "" ∧ name ≠ "." ∧ name ≠ ".."

theorem LeadsOn.ofText {s : String} (h : LeadsOn s) : ofText s = ⟨.here, split s⟩ := by
  have proper : (split s).filter isProper = split s := by
    refine List.filter_eq_self.mpr fun name member => ?_
    simp [isProper, (h name member).1, (h name member).2.1]
  have root : (Path.ofText s).root = .here := by
    refine root_ofText fun slash => ?_
    exact (h "" (List.mem_of_mem_head? (head?_split slash))).1 rfl
  rw [← root, ← proper]
  rfl

theorem split_ne_nil (s : String) : split s ≠ [] := by
  simp [split, List.splitOn_ne_nil]

theorem split_injective {s s' : String} (same : split s = split s') : s = s' := by
  have joined := List.map_injective_iff.mpr
    (fun _ _ => String.ofList_injective) same
  rw [← String.toList_inj]
  calc s.toList = ['/'].intercalate (s.toList.splitOn '/') := by rw [List.intercalate_splitOn]
    _ = s'.toList := by rw [joined, List.intercalate_splitOn]

end Path

namespace Bundle

open FileTree

/-- The place of a path below a directory. -/
def below (base : Place) (path : String) : Place :=
  { base with names := base.names ++ Path.split path }

/-- The place where a path starts. -/
def startOf (p : Path) : Place := FileTree.start (p.root ≠ .here)

/-- A file that is written at a path below a directory stands where the directory's names and then
the names of the path lead. -/
theorem sets_of_writeText_join {t u : FileTree} {root relative : Path} {content : String}
    (normal : root.IsNormal) (normal' : relative.IsNormal) (here : relative.root = .here)
    (some_ : relative.parts ≠ [])
    (written : t.writeText (root.join relative).text content = .ok u) :
    ∃ base p, u.walk (startOf root) root.parts = .ok base ∧ u.walk base relative.parts = .ok p ∧
      t.resolve (root.join relative).text = .ok p ∧ Sets t u p content := by
  obtain ⟨p, resolved, sets⟩ := sets_of_writeText written
  have joined : root.join relative = ⟨root.root, root.parts ++ relative.parts⟩ := by
    simp [Path.join, here]
  have filled : (root.join relative).parts ≠ [] := by
    rw [joined]
    simp [some_]
  have whole := normal.join normal'
  have walked := walk_of_resolve resolved
  have begins : FileTree.start ((root.join relative).text.toList.head? = some '/') =
      startOf root := by
    unfold startOf
    rw [show decide (_ = some '/') = decide (root.root ≠ .here) from
      decide_eq_decide.mpr ((Path.head?_text whole filled).trans (by rw [joined]))]
  rw [Path.steps_text whole filled, begins, joined] at walked
  obtain ⟨base, toBase, fromBase⟩ := walk_append_eq_ok walked
  exact ⟨base, p, walk_of_keeps sets.keeps toBase, walk_of_keeps sets.keeps fromBase, resolved, sets⟩

theorem sets_of_stored {t u : FileTree} {root : Path} {path content : String}
    (normal : root.IsNormal) (leadsOn : Path.LeadsOn path)
    (written : t.writeText (root.join (.ofText path)).text content = .ok u) :
    ∃ base, u.walk (startOf root) root.parts = .ok base ∧ Sets t u (below base path) content := by
  have parts : (Path.ofText path).parts = Path.split path := by rw [leadsOn.ofText]
  obtain ⟨base, p, toBase, fromBase, -, sets⟩ := sets_of_writeText_join normal
    (Path.isNormal_ofText path) (by rw [leadsOn.ofText]) (by simp [parts, Path.split_ne_nil])
    written
  rw [parts] at fromBase
  have place : p = below base path :=
    walk_eq_ok (fun name member => (leadsOn name member).2) fromBase
  exact ⟨base, toBase, place ▸ sets⟩

/-- Storing a file stops early and has only made directories, or it has made directories and then
written the file. -/
theorem storeOne_cases (t : FileTree) (path : Path) (content : String) :
    (∃ e, (storeOne t path content).stopped = some e ∧ Grows t (storeOne t path content).tree) ∨
    ((storeOne t path content).stopped = none ∧ ∃ u, Grows t u ∧
      u.writeText path.text content = .ok (storeOne t path content).tree) := by
  have grows := grows_makeDirectories t path.parent
  unfold storeOne
  dsimp only
  split
  · rename_i e stopped
    exact .inl ⟨e, stopped, grows⟩
  · split
    · rename_i u written
      exact .inr ⟨rfl, _, grows, written⟩
    · rename_i e failed
      exact .inl ⟨e, rfl, grows⟩

/-- A file that is stored stands below the place that its directory's names lead to. -/
theorem sets_of_storeOne {t : FileTree} {root : Path} {path content : String}
    (normal : root.IsNormal) (leadsOn : Path.LeadsOn path)
    (stored : (storeOne t (root.join (.ofText path)) content).stopped = none) :
    ∃ base, (storeOne t (root.join (.ofText path)) content).tree.walk (startOf root) root.parts =
        .ok base ∧
      Sets t (storeOne t (root.join (.ofText path)) content).tree (below base path) content := by
  rcases storeOne_cases t (root.join (.ofText path)) content with
    ⟨e, stopped, -⟩ | ⟨-, u, grows, written⟩
  · rw [stopped] at stored
    cases stored
  · obtain ⟨base, walked, sets⟩ := sets_of_stored normal leadsOn written
    exact ⟨base, walked, grows.sets sets⟩

theorem keeps_storeOne (t : FileTree) (path : Path) (content : String) :
    Keeps t (storeOne t path content).tree := by
  rcases storeOne_cases t path content with ⟨-, -, grows⟩ | ⟨-, u, grows, written⟩
  · exact grows.keeps
  · obtain ⟨p, -, sets⟩ := sets_of_writeText written
    exact grows.keeps.trans sets.keeps

theorem keeps_storeFiles (root : Path) :
    ∀ (b : Bundle) (t : FileTree), Keeps t (storeFiles root t b).tree
  | [], _ => fun _ there => there
  | (path, content) :: rest, t => by
      have first := keeps_storeOne t (root.join (.ofText path)) content
      rw [storeFiles]
      dsimp only
      split
      · exact first
      · exact first.trans (keeps_storeFiles root rest _)

/-- Where storing does not stop early, every file stands below one place, and nothing else is
different but for new directories. -/
theorem writes_of_storeFiles {root : Path} (normal : root.IsNormal) :
    ∀ {b : Bundle} {t : FileTree}, (storeFiles root t b).stopped = none →
      (∀ e ∈ b, Path.LeadsOn e.1) → (b.map (·.1)).Nodup → b ≠ [] →
      ∃ base, (storeFiles root t b).tree.walk (startOf root) root.parts = .ok base ∧
        Writes t (storeFiles root t b).tree (b.map fun e => (below base e.1, e.2))
  | [], t, _, _, _, some_ => absurd rfl some_
  | (path, content) :: rest, t, stored, leadsOn, distinct, _ => by
      have leadsHere : Path.LeadsOn path := leadsOn (path, content) (by simp)
      have leadsThere : ∀ e ∈ rest, Path.LeadsOn e.1 := fun e member => leadsOn e (by simp [member])
      rw [List.map_cons, List.nodup_cons] at distinct
      rw [storeFiles] at stored ⊢
      dsimp only at stored ⊢
      split at stored
      · cases stored
      · rename_i stopped
        obtain ⟨base, walked, sets⟩ := sets_of_storeOne normal leadsHere stopped
        refine ⟨base, walk_of_keeps (keeps_storeFiles root rest _) walked, ?_⟩
        have apart : ∀ e ∈ rest.map fun e => (below base e.1, e.2), below base path ≠ e.1 := by
          rw [List.forall_mem_map]
          intro e member same
          refine distinct.1 (List.mem_map.mpr ⟨e, member, ?_⟩)
          rw [below, below, Place.mk.injEq, List.append_cancel_left_eq] at same
          exact (Path.split_injective same.2).symm
        refine sets.writes ?_ apart
        cases rest with
        | nil => exact .nil _
        | cons e more =>
            obtain ⟨base', walked', writes⟩ := writes_of_storeFiles normal stored leadsThere
              distinct.2 (by simp)
            rw [walk_of_keeps (keeps_storeFiles root (e :: more) _) walked,
              Except.ok.injEq] at walked'
            exact walked' ▸ writes

/-- The paths of the files that were stored, in the order of the bundle. -/
theorem written_of_storeFiles {root : Path} :
    ∀ {b : Bundle} {t : FileTree}, (storeFiles root t b).stopped = none →
      (storeFiles root t b).written.map (·.1) = b.map fun e => (root.join (.ofText e.1)).text
  | [], _, _ => rfl
  | (path, content) :: rest, t, stored => by
      rw [storeFiles] at stored ⊢
      dsimp only at stored ⊢
      split at stored
      · cases stored
      · simp only [List.map_cons, written_of_storeFiles stored]

/-- A bundle that is stored without stopping early stands below the place that its directory leads
to, which is there afterwards. -/
theorem writes_of_store {root : Path} (normal : root.IsNormal) {b : Bundle} {t : FileTree}
    (stored : (store root t b).stopped = none) (leadsOn : ∀ e ∈ b, Path.LeadsOn e.1)
    (distinct : (b.map (·.1)).Nodup) (some_ : b ≠ []) :
    (store root t b).written.map (·.1) = b.map (fun e => (root.join (.ofText e.1)).text) ∧
      ∃ base, (store root t b).tree.walk (startOf root) root.parts = .ok base ∧
        Writes t (store root t b).tree (b.map fun e => (below base e.1, e.2)) := by
  have grows := grows_makeDirectories t root
  unfold store at stored ⊢
  dsimp only at stored ⊢
  split at stored
  · cases stored
  · obtain ⟨base, walked, writes⟩ := writes_of_storeFiles normal stored leadsOn distinct some_
    exact ⟨written_of_storeFiles stored, base, walked, grows.writes writes⟩

/-! ## Writing a bundle -/

/-- What writing a bundle comes to, without a journal. -/
def outcome (t : FileTree) (directory : String) (b : Bundle) :
    FileTree × Except Failure (List String) :=
  let stored := store (.ofText directory) t b
  match stored.stopped with
  | some e => (stored.tree, .error (.file e))
  | none => (stored.tree, .ok (stored.written.map (·.1)))

theorem outcome_fst (t : FileTree) (directory : String) (b : Bundle) :
    (outcome t directory b).1 = (store (.ofText directory) t b).tree := by
  unfold outcome
  dsimp only
  split <;> rfl

/-- Where paths come back, storing did not stop early, and they are the paths that were written. -/
theorem stored_of_outcome {t : FileTree} {directory : String} {b : Bundle} {paths : List String}
    (listed : (outcome t directory b).2 = .ok paths) :
    (store (.ofText directory) t b).stopped = none ∧
      (store (.ofText directory) t b).written.map (·.1) = paths := by
  unfold outcome at listed
  dsimp only at listed
  split at listed
  · cases listed
  · rename_i stopped
    exact ⟨stopped, Except.ok.inj listed⟩

theorem write_yields (env : Environment) (t : FileTree) (directory : String) (b : Bundle) :
    Logged.Yields env (write t directory b) (.ok (outcome t directory b)) := by
  unfold write outcome
  refine .after (Log.component_yields "output_writer") ?_
  dsimp only
  refine .after (.forIn (fun e => ?_) _) ?_
  · exact .after (Log.emit_yields _ _ _) (.pure (ForInStep.yield PUnit.unit))
  cases (store (.ofText directory) t b).stopped with
  | some e => exact .pure _
  | none => exact .after (Log.emit_yields _ _ _) (.pure _)

end Bundle

end Conveyor

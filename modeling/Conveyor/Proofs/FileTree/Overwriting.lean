import Conveyor.Proofs.FileTree.Confinement
import Conveyor.Proofs.FileTree.Fresh

/-!
# Bundles that overwrite

The files of a bundle are written in their order over what is there, and several paths of a bundle
may lead to one place: the last text stays (`lastAt`). Where storing stops early, the files that it
came to are written and no other file is touched; only the directories that were made stay
(`isWritten_store`).

Storing that does not stop early leaves every directory that it needs and a file at every place
that it writes to (`IsStored`). So it does not stop when it is done again, and leaves the tree as it
is (`store_again`).
-/

set_option autoImplicit false

namespace Conveyor

namespace FileTree

variable {t u v : FileTree} {files : List (Place × String)} {p : Place} {content : String}

/-! ## Writing over what is there -/

/-- The text that is written to a place last. -/
def lastAt (files : List (Place × String)) (p : Place) : Option String := files.reverse.lookup p

theorem lastAt_cons (file : Place × String) (files : List (Place × String)) (p : Place) :
    lastAt (file :: files) p = (lastAt files p).or (if p = file.1 then some file.2 else none) := by
  rw [lastAt, List.reverse_cons, List.lookup_append, Rows.lookup_cons_eq_ite, List.lookup_nil,
    lastAt]

theorem lastAt_eq_none_iff : lastAt files p = none ↔ ∀ e ∈ files, p ≠ e.1 :=
  Rows.lookup_reverse_eq_none_iff

/-- Files are written over what is there, one after another; besides them only directories are
added. -/
structure Overwrites (t u : FileTree) (files : List (Place × String)) : Prop where
  noDirectory : ∀ e ∈ files, t.at? e.1 ≠ some .directory
  set : ∀ p content, lastAt files p = some content → u.at? p = some (.file content)
  rest : ∀ p, lastAt files p = none →
    u.at? p = t.at? p ∨ (t.at? p = none ∧ u.at? p = some .directory)

theorem Overwrites.nil (t : FileTree) : Overwrites t t [] :=
  ⟨by simp, nofun, fun _ _ => .inl rfl⟩

theorem Overwrites.keeps (h : Overwrites t u files) : Keeps t u := by
  intro p there
  have unwritten : lastAt files p = none :=
    lastAt_eq_none_iff.mpr fun e member same => h.noDirectory e member (same ▸ there)
  rcases h.rest p unwritten with same | ⟨free, -⟩
  · exact same.trans there
  · rw [there] at free
    cases free

/-- A place with a file has a file afterwards. -/
theorem Overwrites.file (h : Overwrites t u files) (there : t.at? p = some (.file content)) :
    ∃ content', u.at? p = some (.file content') := by
  cases written : lastAt files p with
  | some content' => exact ⟨content', h.set p content' written⟩
  | none =>
      rcases h.rest p written with same | ⟨free, -⟩
      · exact ⟨content, same.trans there⟩
      · rw [there] at free
        cases free

/-- Directories that were made before files are written are among the added ones. -/
theorem Grows.overwrites (h : Grows t u) (h' : Overwrites u v files) : Overwrites t v files where
  noDirectory e member there := h'.noDirectory e member (h.keeps e.1 there)
  set := h'.set
  rest q unwritten := adds_trans (h q) (h'.rest q unwritten)

/-- A file that is written first stays unless its place is written to again. -/
theorem Sets.overwrites (h : Sets t u p content) (h' : Overwrites u v files) :
    Overwrites t v ((p, content) :: files) where
  noDirectory e member := by
    rcases List.mem_cons.mp member with rfl | there
    · exact h.noDirectory
    · exact fun directory => h'.noDirectory e there (h.keeps e.1 directory)
  set q text written := by
    rw [lastAt_cons] at written
    cases later : lastAt files q with
    | some text' =>
        rw [later] at written
        exact h'.set q text (later.trans written)
    | none =>
        rw [later, Option.none_or, Option.ite_none_right_eq_some] at written
        obtain ⟨rfl, same⟩ := written
        cases same
        rcases h'.rest q later with kept | ⟨free, -⟩
        · exact kept.trans h.set
        · rw [h.set] at free
          cases free
  rest q unwritten := by
    rw [lastAt_cons, Option.or_eq_none_iff] at unwritten
    obtain ⟨later, here⟩ := unwritten
    have apart : q ≠ p := by
      rintro rfl
      simp at here
    exact adds_trans (h.rest q apart) (h'.rest q later)

/-! ## Directories that are there -/

theorem stat_of_isDirectory {path : String} (there : t.isDirectory path = true) :
    t.stat path = .ok .directory := by
  unfold isDirectory at there
  split at there
  · assumption
  · cases there

/-- Where making a directory comes to an end, it is there. -/
theorem stat_of_settle {path : String}
    (finished : (settle t path (t.makeDirectory path)).stopped = none) :
    (settle t path (t.makeDirectory path)).tree.stat path = .ok .directory := by
  cases made : t.makeDirectory path with
  | ok u =>
      have grows := grows_of_makeDirectory made
      unfold makeDirectory at made
      split at made
      · cases made
      · rename_i place resolved
        split at made
        · cases made
        · rename_i free
          cases made
          exact stat_of_keeps grows.keeps resolved (at?_put_self (by simp [free]))
  | error e =>
      rw [made] at finished
      unfold settle at finished ⊢
      dsimp only at finished ⊢
      split at finished
      · rename_i there
        rw [if_pos there]
        exact stat_of_isDirectory there
      · cases finished

theorem stat_of_makeAll (root : Path.Root) :
    ∀ {names : List String} {t : FileTree}, (t.makeAll root names).stopped = none →
      (t.makeAll root names).tree.stat (Path.text ⟨root, names.reverse⟩) = .ok .directory
  | [], t, finished => by
      rw [makeAll] at finished ⊢
      exact stat_of_settle finished
  | name :: above, t, finished => by
      rw [makeAll] at finished ⊢
      dsimp only at finished ⊢
      split at finished
      · split at finished
        · rename_i stopped
          rw [stopped] at finished
          cases finished
        · split at finished
          · cases finished
          · exact stat_of_settle finished
      · exact stat_of_settle finished

/-- Where making a directory with all above it does not stop early, the directory is there. -/
theorem stat_of_makeDirectories {p : Path} (finished : (t.makeDirectories p).stopped = none) :
    (t.makeDirectories p).tree.stat p.text = .ok .directory := by
  have there := stat_of_makeAll p.root finished
  rwa [List.reverse_reverse] at there

theorem stat_directory_of_keeps (keeps : Keeps t u) {path : String}
    (there : t.stat path = .ok .directory) : u.stat path = .ok .directory := by
  obtain ⟨p, resolved, found⟩ := bind_eq_ok_iff.mp there
  cases node : t.at? p with
  | none => rw [node] at found; cases found
  | some n =>
      rw [node] at found
      cases found
      exact stat_of_keeps keeps resolved (keeps p node)

end FileTree

namespace Bundle

open FileTree

variable {t u : FileTree} {root path : Path} {p : Place} {content : String} {b : Bundle}

/-! ## Places of paths -/

/-- The place that a path leads to, if it leads anywhere. -/
def placeOf (path : Path) : Place := lead (startOf path) path.parts

/-- Where a path leads is a matter of its names alone. -/
theorem eq_placeOf_of_resolve (normal : path.IsNormal) (resolved : t.resolve path.text = .ok p) :
    p = placeOf path := by
  have leads := eq_lead_of_walk (walk_of_resolve resolved)
  by_cases none_ : path.parts = []
  · obtain ⟨root, parts⟩ := path
    subst none_
    rw [leads]
    cases root <;> rfl
  · rw [leads, Path.steps_text normal none_, placeOf, startOf,
      decide_eq_decide.mpr (Path.head?_text normal none_)]

/-- The path of a file below a directory. -/
def pathOf (root : Path) (file : String × String) : Path := root.join (.ofText file.1)

/-- The files of a bundle, each at the place that its path leads to. -/
def placed (root : Path) (b : Bundle) : List (Place × String) :=
  b.map fun file => (placeOf (pathOf root file), file.2)

theorem isNormal_pathOf (normal : root.IsNormal) (file : String × String) :
    (pathOf root file).IsNormal :=
  normal.join (Path.isNormal_ofText file.1)

/-! ## Storing -/

/-- All that storing a file needs is there: its directory, and a file at its place. -/
structure IsStored (t : FileTree) (path : Path) : Prop where
  above : t.stat path.parent.text = .ok .directory
  leads : t.resolve path.text = .ok (placeOf path)
  file : ∃ content, t.at? (placeOf path) = some (.file content)

theorem IsStored.overwrites {files : List (Place × String)} (stored : IsStored t path)
    (h : Overwrites t u files) : IsStored u path where
  above := stat_directory_of_keeps h.keeps stored.above
  leads := resolve_of_keeps h.keeps stored.leads
  file := by
    obtain ⟨content, there⟩ := stored.file
    exact h.file there

/-- A file that is stored stands at the place of its path, and all that storing it needs is
there. -/
theorem sets_of_stored_path (normal : path.IsNormal)
    (finished : (storeOne t path content).stopped = none) :
    Sets t (storeOne t path content).tree (placeOf path) content ∧
      IsStored (storeOne t path content).tree path := by
  have grows := grows_makeDirectories t path.parent
  unfold storeOne at finished ⊢
  dsimp only at finished ⊢
  split at finished
  · rename_i stopped
    rw [stopped] at finished
    cases finished
  · rename_i made
    split at finished
    · rename_i u written
      obtain ⟨p, resolved, sets⟩ := sets_of_writeText written
      obtain rfl := eq_placeOf_of_resolve normal resolved
      exact ⟨grows.sets sets, stat_directory_of_keeps sets.keeps (stat_of_makeDirectories made),
        resolve_of_keeps sets.keeps resolved, content, sets.set⟩
    · cases finished

/-- Storing a bundle writes the files that it came to, in their order. -/
theorem overwrites_storeFiles (normal : root.IsNormal) : ∀ (b : Bundle) (t : FileTree),
    Overwrites t (storeFiles root t b).tree
      (placed root (b.take (storeFiles root t b).written.length))
  | [], t => .nil t
  | (relative, content) :: rest, t => by
      rw [storeFiles]
      dsimp only
      split
      · rename_i e stopped
        rcases storeOne_cases t (root.join (.ofText relative)) content with
          ⟨-, -, grows⟩ | ⟨finished, -⟩
        · exact grows.overwrites (.nil _)
        · rw [finished] at stopped
          cases stopped
      · rename_i finished
        have sets := sets_of_stored_path (isNormal_pathOf normal (relative, content)) finished
        exact sets.1.overwrites (overwrites_storeFiles normal rest _)

/-- Where storing stops early, it did not come to all files. -/
theorem length_written_of_stopped {e : FileError} :
    ∀ {b : Bundle} {t : FileTree}, (storeFiles root t b).stopped = some e →
      (storeFiles root t b).written.length < b.length
  | [], _, stopped => by cases stopped
  | (relative, content) :: rest, t, stopped => by
      rw [storeFiles] at stopped ⊢
      dsimp only at stopped ⊢
      split at stopped
      · exact Nat.succ_pos _
      · exact Nat.succ_lt_succ (length_written_of_stopped stopped)

theorem length_written_of_finished (finished : (storeFiles root t b).stopped = none) :
    (storeFiles root t b).written.length = b.length := by
  rw [← List.length_map (·.1), written_of_storeFiles finished, List.length_map]

/-- All that storing them needs is there for the files that storing a bundle came to. -/
theorem isStored_storeFiles (normal : root.IsNormal) : ∀ (b : Bundle) (t : FileTree),
    ∀ file ∈ b.take (storeFiles root t b).written.length,
      IsStored (storeFiles root t b).tree (pathOf root file)
  | [], _ => by simp [storeFiles]
  | (relative, content) :: rest, t => by
      rw [storeFiles]
      dsimp only
      split
      · simp
      · rename_i finished
        have stored := (sets_of_stored_path (isNormal_pathOf normal (relative, content)) finished).2
        rw [List.length_cons, List.take_succ_cons, List.forall_mem_cons]
        exact ⟨stored.overwrites (overwrites_storeFiles normal rest _),
          isStored_storeFiles normal rest _⟩

/-! ## Storing again -/

theorem makeDirectories_of_stat {p : Path} (there : t.stat p.text = .ok .directory) :
    t.makeDirectories p = ⟨t, none⟩ :=
  makeAll_of_stat (by rwa [List.reverse_reverse])

/-- A file that is stored already is only written again. -/
theorem storeOne_of_isStored (stored : IsStored t path) (content : String) :
    storeOne t path content = ⟨t.put (placeOf path) (.file content), none⟩ := by
  obtain ⟨old, there⟩ := stored.file
  rw [storeOne, makeDirectories_of_stat stored.above]
  simp only [writeText, stored.leads, there]

/-- A bundle that is stored already is stored without stopping early, and nothing is added. -/
theorem storeFiles_of_isStored (normal : root.IsNormal) : ∀ {b : Bundle} {t : FileTree},
    (∀ file ∈ b, IsStored t (pathOf root file)) →
      (storeFiles root t b).stopped = none ∧
        ∀ q, t.at? q = none → (storeFiles root t b).tree.at? q = none
  | [], _, _ => ⟨rfl, fun _ free => free⟩
  | (relative, content) :: rest, t, stored => by
      rw [List.forall_mem_cons] at stored
      obtain ⟨first, others⟩ := stored
      have one := storeOne_of_isStored first content
      have sets := (sets_of_stored_path (isNormal_pathOf normal (relative, content))
        (congrArg Outcome.stopped one)).1
      obtain ⟨finished, adds⟩ := storeFiles_of_isStored normal fun file member =>
        (others file member).overwrites (sets.overwrites (.nil _))
      obtain ⟨old, there⟩ := first.file
      rw [pathOf] at one finished adds there
      rw [storeFiles]
      rw [one] at finished adds ⊢
      refine ⟨finished, fun q free => adds q ?_⟩
      refine (at?_put_of_ne fun same => ?_).trans free
      rw [same, there] at free
      cases free

/-! ## Bundles -/

/-- Storing a bundle stops at its directory, or goes on to the files once the directory is there. -/
theorem store_cases (root : Path) (t : FileTree) (b : Bundle) :
    (∃ u e, Grows t u ∧ store root t b = ⟨u, [], some e⟩) ∨
      ∃ u, Grows t u ∧ u.stat root.text = .ok .directory ∧
        store root t b = storeFiles root u b := by
  have grows := grows_makeDirectories t root
  unfold store
  dsimp only
  cases made : (t.makeDirectories root).stopped with
  | some e => exact .inl ⟨_, e, grows, rfl⟩
  | none => exact .inr ⟨_, grows, stat_of_makeDirectories made, rfl⟩

/-- A row of files is written below a directory: each path leads to its place, and there stands the
last text for it. -/
structure IsWritten (root : Path) (t u : FileTree) (b : Bundle) : Prop where
  stored : ∀ file ∈ b, IsStored u (pathOf root file)
  overwrites : Overwrites t u (placed root b)

/-- The files that storing a bundle came to are written, and nothing else is. -/
theorem isWritten_store (normal : root.IsNormal) (t : FileTree) (b : Bundle) :
    IsWritten root t (store root t b).tree (b.take (store root t b).written.length) := by
  rcases store_cases root t b with ⟨u, e, grows, same⟩ | ⟨u, grows, -, same⟩
  · rw [same]
    exact ⟨by simp, grows.overwrites (.nil u)⟩
  · rw [same]
    exact ⟨isStored_storeFiles normal b u, grows.overwrites (overwrites_storeFiles normal b u)⟩

/-- Storing that stops early did not come to the last file. -/
theorem length_written_store {e : FileError} (stopped : (store root t b).stopped = some e) :
    (store root t b).written.length < b.length ∨ (store root t b).written.length = 0 := by
  rcases store_cases root t b with ⟨u, e, -, same⟩ | ⟨u, -, -, same⟩
  · rw [same]
    exact .inr rfl
  · rw [same] at stopped ⊢
    exact .inl (length_written_of_stopped stopped)

/-- Storing that does not stop early came to all files. -/
theorem isWritten_of_finished (normal : root.IsNormal)
    (finished : (store root t b).stopped = none) :
    IsWritten root t (store root t b).tree b ∧
      (store root t b).tree.stat root.text = .ok .directory ∧
      (store root t b).written.map (·.1) = b.map fun file => (pathOf root file).text := by
  have written := isWritten_store normal t b
  rcases store_cases root t b with ⟨u, e, -, same⟩ | ⟨u, -, there, same⟩
  · rw [same] at finished
    cases finished
  · rw [same] at finished written ⊢
    rw [length_written_of_finished finished, List.take_length] at written
    exact ⟨written, stat_directory_of_keeps (keeps_storeFiles root b u) there,
      written_of_storeFiles finished⟩

/-- **What was stored can be stored again, and this changes nothing.** -/
theorem store_again (normal : root.IsNormal) (finished : (store root t b).stopped = none) :
    (store root (store root t b).tree b).stopped = none ∧
      ∀ p, (store root (store root t b).tree b).tree.at? p = (store root t b).tree.at? p := by
  obtain ⟨written, there, -⟩ := isWritten_of_finished normal finished
  have onlyFiles :
      store root (store root t b).tree b = storeFiles root (store root t b).tree b := by
    rw [store, makeDirectories_of_stat there]
  obtain ⟨finished', adds⟩ := storeFiles_of_isStored normal written.stored
  rw [← onlyFiles] at finished' adds
  have written' := (isWritten_of_finished normal finished').1
  refine ⟨finished', fun p => ?_⟩
  cases last : lastAt (placed root b) p with
  | some content =>
      rw [written'.overwrites.set p content last, written.overwrites.set p content last]
  | none =>
      rcases written'.overwrites.rest p last with same | ⟨free, made⟩
      · exact same
      · rw [adds p free] at made
        cases made

/-! ## Writing a bundle -/

theorem finished_of_outcome {directory : String} {paths : List String}
    (written : outcome t directory b = (u, .ok paths)) :
    (store (.ofText directory) t b).tree = u ∧ (store (.ofText directory) t b).stopped = none ∧
      (store (.ofText directory) t b).written.map (·.1) = paths :=
  ⟨(outcome_fst t directory b).symm.trans (congrArg Prod.fst written),
    stored_of_outcome (congrArg Prod.snd written)⟩

theorem stopped_of_outcome {directory : String} {e : Failure}
    (written : outcome t directory b = (u, .error e)) :
    (store (.ofText directory) t b).tree = u ∧
      ∃ error, (store (.ofText directory) t b).stopped = some error ∧ .file error = e := by
  refine ⟨(outcome_fst t directory b).symm.trans (congrArg Prod.fst written), ?_⟩
  unfold outcome at written
  dsimp only at written
  split at written
  · rename_i error stopped
    exact ⟨error, stopped, Except.error.inj (Prod.mk.inj written).2⟩
  · cases written

theorem isReady_of_write {env : Environment} {journal : Log.Journal} {t : FileTree}
    {directory : String} {b : Bundle} {r : FileTree × Except Failure (List String)}
    (written : ((write t directory b).perform env journal).1 = .ok r) :
    Log.IsReady env journal := by
  obtain ⟨logger, later, named, -⟩ := Logged.perform_bind_eq_ok written
  exact Log.isReady_of_component named

/-- **Writing a bundle writes a beginning of it.** From a journal that is ready there is a tree
afterwards. Where the paths of the files come back, all files are written, and writing the bundle
once more gives the same paths and changes nothing. Where writing fails, the files before some
place in the bundle are written, and nothing else is different but for new directories. -/
theorem write_beginning (t : FileTree) (directory : String) (b : Bundle) (env : Environment)
    (journal : Log.Journal) :
    (Log.IsReady env journal →
      ∃ u answer, ((write t directory b).perform env journal).1 = .ok (u, answer)) ∧
    (∀ u paths, ((write t directory b).perform env journal).1 = .ok (u, .ok paths) →
      paths = b.map (fun file => (pathOf (.ofText directory) file).text) ∧
      IsWritten (.ofText directory) t u b ∧
      Log.IsReady env ((write t directory b).perform env journal).2 ∧
      ∀ env' journal', Log.IsReady env' journal' →
        ∃ v, ((write u directory b).perform env' journal').1 = .ok (v, .ok paths) ∧
          ∀ p, v.at? p = u.at? p) ∧
    ∀ u e, ((write t directory b).perform env journal).1 = .ok (u, .error e) →
      (∃ error, e = .file error) ∧
      ∃ k, (k < b.length ∨ k = 0) ∧ IsWritten (.ofText directory) t u (b.take k) := by
  have normal := Path.isNormal_ofText directory
  have result {env : Environment} {journal : Log.Journal} (ready : Log.IsReady env journal)
      (t : FileTree) := (write_yields env t directory b journal ready).1
  refine ⟨fun ready => ⟨_, _, result ready t⟩, fun u paths written => ?_, fun u e written => ?_⟩
  · have ready := isReady_of_write written
    have leaves := (write_yields env t directory b journal ready).2
    have same := Except.ok.inj ((result ready t).symm.trans written)
    obtain ⟨rfl, finished, rfl⟩ := finished_of_outcome same
    obtain ⟨isWritten, -, paths⟩ := isWritten_of_finished normal finished
    refine ⟨paths, isWritten, leaves.isReady ready, fun env' journal' ready' => ?_⟩
    obtain ⟨finished', unchanged⟩ := store_again normal finished
    obtain ⟨-, -, paths'⟩ := isWritten_of_finished normal finished'
    rw [result ready', outcome, finished']
    exact ⟨_, by rw [paths', paths], unchanged⟩
  · have ready := isReady_of_write written
    have same := Except.ok.inj ((result ready t).symm.trans written)
    obtain ⟨rfl, error, stopped, rfl⟩ := stopped_of_outcome same
    exact ⟨⟨error, rfl⟩, _, length_written_store stopped, isWritten_store normal t b⟩

/-- Two paths of a bundle lead to one place, where an old file is: the last text stays. -/
theorem write_beginning_overlapping :
    ∃ u, ((write ⟨[(⟨.above 0, ["out"]⟩, .directory), (⟨.above 0, ["out", "a"]⟩, .file "0")]⟩ "out"
        [("a", "1"), ("./a", "2"), ("b/c", "3")]).perform {} {}).1 =
          .ok (u, .ok ["out/a", "out/a", "out/b/c"]) ∧
      u.at? ⟨.above 0, ["out", "a"]⟩ = some (.file "2") := by
  have stored : store (.ofText "out") ⟨[(⟨.above 0, ["out"]⟩, .directory),
      (⟨.above 0, ["out", "a"]⟩, .file "0")]⟩ [("a", "1"), ("./a", "2"), ("b/c", "3")] =
        ⟨⟨[(⟨.above 0, ["out"]⟩, .directory), (⟨.above 0, ["out", "a"]⟩, .file "2"),
          (⟨.above 0, ["out", "b"]⟩, .directory), (⟨.above 0, ["out", "b", "c"]⟩, .file "3")]⟩,
          [("out/a", 1), ("out/a", 1), ("out/b/c", 1)], none⟩ := by
    decide +kernel
  have written := (write_yields {} _ "out" _ {} (.inr Log.hasStandardLevel_nil)).1.trans
    (congrArg Except.ok (by rw [outcome, stored]))
  exact ⟨_, written, ((write_beginning _ _ _ _ _).2.1 _ _ written).2.1.overwrites.set _ _ rfl⟩

end Bundle

end Conveyor

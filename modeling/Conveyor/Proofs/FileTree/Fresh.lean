import Conveyor.Proofs.FileTree.Finding

/-!
# Fresh paths

A path goes on from a directory that its first names lead to, by further names. The way on is clear
if the file system takes the further names and no file is in the way; the path is fresh if moreover
nothing is at its end. Making the directories on a clear way never stops, and leaves alone what is
further down (`makeAll_of_clear`). So a file can always be stored at a fresh path, and is read there
afterwards (`IsFresh.stored`).
-/

set_option autoImplicit false

namespace Conveyor

namespace FileTree

/-- The place that names lead to from another one. -/
def Place.under (base : Place) (names : List String) : Place :=
  { base with names := base.names ++ names }

/-- The way is clear from a directory that the first names of a path lead to: the file system takes
the other names, none of which leads back, and there are only directories and missing directories
along them. -/
structure IsClear (t : FileTree) (root : Path.Root) (before : List String) (base : Place)
    (names : List String) : Prop where
  normal : Path.IsNormal ⟨root, before ++ names⟩
  noNull : '\x00' ∉ (Path.text ⟨root, before ++ names⟩).toList
  short : (Path.text ⟨root, before ++ names⟩).utf8ByteSize < tooLongPath
  leads : t.walk (start (root ≠ .here)) before = .ok base
  opens : t.at? base = some .directory
  forward : ".." ∉ names
  sized : ∀ name ∈ names, name.utf8ByteSize ≤ longestName
  way : ∀ k content, t.at? (Place.under base (names.take k)) ≠ some (.file content)

/-- A path to a new file: from a directory its way is clear, and there is nothing at its end. -/
def IsFresh (t : FileTree) (p : Path) : Prop :=
  ∃ before base names, p.parts = before ++ names ∧ names ≠ [] ∧
    t.IsClear p.root before base names ∧ t.at? (Place.under base names) = none

variable {t u : FileTree} {root : Path.Root} {before names : List String} {base : Place}

theorem Place.under_nil (base : Place) : Place.under base [] = base := by
  rw [Place.under, List.append_nil]

theorem Place.under_under (base : Place) (names more : List String) :
    Place.under (Place.under base names) more = Place.under base (names ++ more) := by
  simp [Place.under]

theorem IsClear.noFile (clear : t.IsClear root before base names) (content : String) :
    t.at? (Place.under base names) ≠ some (.file content) := by
  have whole := clear.way names.length content
  rwa [List.take_length] at whole

/-! ## Shorter ways -/

theorem text_append (some_ : names ≠ []) (name : String) :
    Path.text ⟨root, names ++ [name]⟩ = Path.text ⟨root, names⟩ ++ "/" ++ name := by
  rw [Path.text_of_parts (p := ⟨root, names ++ [name]⟩) (by simp),
    Path.text_of_parts (p := ⟨root, names⟩) some_,
    String.intercalate_append_of_ne_nil some_ (by simp), String.intercalate_singleton]
  simp only [String.append_assoc]

/-- A path without its last name has a shorter text, of characters of the whole one. -/
theorem text_of_append {name : String}
    (noNull : '\x00' ∉ (Path.text ⟨root, names ++ [name]⟩).toList)
    (short : (Path.text ⟨root, names ++ [name]⟩).utf8ByteSize < tooLongPath) :
    '\x00' ∉ (Path.text ⟨root, names⟩).toList ∧
      (Path.text ⟨root, names⟩).utf8ByteSize < tooLongPath := by
  by_cases none_ : names = []
  · subst none_
    cases root <;> exact ⟨by decide, by decide⟩
  · rw [text_append none_, String.toList_append, String.toList_append] at noNull
    rw [text_append none_, String.utf8ByteSize_append, String.utf8ByteSize_append] at short
    exact ⟨fun there => noNull (List.mem_append_left _ (List.mem_append_left _ there)), by omega⟩

/-- Without its last name a way is clear as well. -/
theorem IsClear.up {name : String} (clear : t.IsClear root before base (names ++ [name])) :
    t.IsClear root before base names := by
  obtain ⟨normal, noNull, short, leads, opens, forward, sized, way⟩ := clear
  rw [← List.append_assoc] at normal noNull short
  obtain ⟨noNull, short⟩ := text_of_append noNull short
  refine ⟨⟨fun n member => normal.proper n (List.mem_append_left _ member),
    fun n member => normal.whole n (List.mem_append_left _ member)⟩, noNull, short, leads, opens,
    fun there => forward (List.mem_append_left _ there),
    fun n member => sized n (List.mem_append_left _ member), fun k content => ?_⟩
  have here := way (min k names.length) content
  rwa [List.take_append_of_le_length (Nat.min_le_right _ _), ← List.take_eq_take_min] at here

/-- New directories leave a way clear. -/
theorem IsClear.grows (clear : t.IsClear root before base names) (grows : Grows t u) :
    u.IsClear root before base names :=
  { clear with
    leads := walk_of_keeps grows.keeps clear.leads
    opens := grows.keeps base clear.opens
    way := fun k content there => by
      rcases grows (Place.under base (names.take k)) with same | ⟨-, made⟩
      · exact clear.way k content (same ▸ there)
      · rw [made] at there
        cases there }

/-! ## Walking a clear way -/

/-- A walk along a clear way arrives, or it is stopped where a directory is missing. -/
theorem walk_of_clear : ∀ {names : List String} {p : Place},
    (∀ name ∈ names, name ≠ "." ∧ name ≠ ".." ∧ name.utf8ByteSize ≤ longestName) →
    (∀ k content, t.at? (Place.under p (names.take k)) ≠ some (.file content)) →
    t.walk p names = .ok (Place.under p names) ∨ t.walk p names = .error .missing ∧
      ∃ k < names.length, t.at? (Place.under p (names.take k)) = none
  | [], p, _, _ => .inl (by rw [Place.under_nil]; rfl)
  | name :: names, p, taken, way => by
      obtain ⟨noDot, noDots, sized⟩ := taken name List.mem_cons_self
      have here := way 0
      rw [List.take_zero, Place.under_nil] at here
      cases there : t.at? p with
      | none =>
          refine .inr ⟨?_, 0, Nat.succ_pos _, by rwa [List.take_zero, Place.under_nil]⟩
          simp [walk, walkStep, there, bind, Except.bind]
      | some node =>
          cases node with
          | file content => exact absurd there (here content)
          | directory =>
              have step : t.walkStep p name = .ok (Place.under p [name]) :=
                walkStep_eq_ok_iff.mpr ⟨there, .inr (.inr ⟨⟨noDot, noDots⟩, sized, rfl⟩)⟩
              have way' : ∀ k content, t.at? (Place.under (Place.under p [name]) (names.take k)) ≠
                  some (.file content) := fun k content => by
                rw [Place.under_under]
                exact way (k + 1) content
              have rest := walk_of_clear
                (fun name' member => taken name' (List.mem_cons_of_mem _ member)) way'
              rw [walk, List.foldlM_cons, step, ok_bind]
              rcases rest with arrived | ⟨stopped, k, within, missing⟩
              · exact .inl (by simpa [walk, Place.under_under] using arrived)
              · refine .inr ⟨stopped, k + 1, Nat.succ_lt_succ within, ?_⟩
                rw [Place.under_under] at missing
                exact missing

/-- The text of a path is taken along its names. -/
theorem IsClear.resolve_eq (clear : t.IsClear root before base names)
    (named : before ++ names ≠ []) :
    t.resolve (Path.text ⟨root, before ++ names⟩) = t.walk base names := by
  have noNull : (Path.text ⟨root, before ++ names⟩).toList.contains '\x00' = false := by
    simpa using clear.noNull
  have steps := Path.steps_text clear.normal named
  have filled : (Path.text ⟨root, before ++ names⟩).isEmpty = false := by
    rw [Bool.eq_false_iff, Ne, String.isEmpty_iff]
    intro nothing
    rw [nothing] at steps
    exact named steps.symm
  have begun : start ((Path.text ⟨root, before ++ names⟩).toList.head? = some '/') =
      start (root ≠ .here) := by
    rw [decide_eq_decide.mpr (Path.head?_text clear.normal named)]
  have leads := clear.leads
  unfold FileTree.resolve
  rw [noNull, filled, if_neg Bool.false_ne_true, if_neg Bool.false_ne_true,
    if_neg (Nat.not_le_of_lt clear.short), steps, begun]
  rw [walk] at leads ⊢
  rw [List.foldlM_append, leads]
  rfl

/-- The text of a path with a clear way leads to its end, or a directory is missing on the way. -/
theorem IsClear.resolve (clear : t.IsClear root before base names) (named : before ++ names ≠ []) :
    t.resolve (Path.text ⟨root, before ++ names⟩) = .ok (Place.under base names) ∨
      t.resolve (Path.text ⟨root, before ++ names⟩) = .error .missing ∧
        ∃ k < names.length, t.at? (Place.under base (names.take k)) = none := by
  rw [clear.resolve_eq named]
  refine walk_of_clear (fun name member => ⟨?_, ?_, clear.sized name member⟩) clear.way
  · rintro rfl
    exact absurd (clear.normal.proper "." (List.mem_append_right _ member)) (by decide)
  · rintro rfl
    exact clear.forward member

/-! ## Making directories -/

/-- What making the directories down to a place leaves: directories all the way, and nothing new
further down. -/
structure Makes (t : FileTree) (p : Place) (o : Outcome) : Prop where
  finished : o.stopped = none
  there : o.tree.at? p = some .directory
  rests : Rests o.tree p
  beyond : ∀ q, p.names.length < q.names.length → o.tree.at? q = t.at? q

theorem makeDirectory_of_stat {path : String} {node : Node} (there : t.stat path = .ok node) :
    t.makeDirectory path = .error ⟨.present, path⟩ := by
  obtain ⟨p, resolved, found⟩ := bind_eq_ok_iff.mp there
  rw [makeDirectory, resolved]
  dsimp only
  split at found
  · rfl
  · cases found

/-- A directory that is there is kept. -/
theorem settle_of_stat {path : String} (there : t.stat path = .ok .directory) :
    settle t path (t.makeDirectory path) = ⟨t, none⟩ := by
  have isDirectory : t.isDirectory path = true := by rw [FileTree.isDirectory, there]
  rw [makeDirectory_of_stat there, settle, if_pos isDirectory]

/-- Where a path leads to a place without a file, its directory is made, or it is kept. -/
theorem makes_settle {path : String} {p : Place} (resolved : u.resolve path = .ok p)
    (noFile : ∀ content, u.at? p ≠ some (.file content))
    (beyond : ∀ q, p.names.length < q.names.length → u.at? q = t.at? q) :
    (∀ q, u.makeDirectory path ≠ .error ⟨.missing, q⟩) ∧
      Makes t p (settle u path (u.makeDirectory path)) := by
  have rests := Rests.of_resolve resolved
  cases there : u.at? p with
  | none =>
      have made : u.makeDirectory path = .ok (u.put p .directory) := by
        simp only [makeDirectory, resolved, there]
      rw [made]
      refine ⟨nofun, rfl, at?_put_self (by simp [there]), fun k within => ?_, fun q long => ?_⟩
      · refine (at?_put_of_ne fun same => ?_).trans (rests k within)
        have length := congrArg (·.names.length) same
        rw [List.length_take_of_le (Nat.le_of_lt within)] at length
        exact Nat.ne_of_lt within length
      · refine (at?_put_of_ne fun same => ?_).trans (beyond q long)
        exact Nat.ne_of_gt long (by rw [same])
  | some node =>
      cases node with
      | file content => exact absurd there (noFile content)
      | directory =>
          have stat : u.stat path = .ok .directory :=
            stat_of_keeps (fun _ here => here) resolved there
          rw [settle_of_stat stat, makeDirectory_of_stat stat]
          exact ⟨nofun, rfl, there, rests, beyond⟩

/-- Once the directories above it are made, a clear way leads to its end. -/
theorem Makes.resolve {name : String} {o : Outcome} (makes : Makes t (Place.under base names) o)
    (clear : o.tree.IsClear root before base (names ++ [name])) :
    o.tree.resolve (Path.text ⟨root, before ++ (names ++ [name])⟩) =
      .ok (Place.under base (names ++ [name])) := by
  rcases clear.resolve (by simp) with resolved | ⟨-, k, within, missing⟩
  · exact resolved
  · have cut : (base.names ++ names ++ [name]).take (base.names.length + k) =
        base.names ++ (names ++ [name]).take k := by
      rw [List.append_assoc, List.take_length_add_append]
    have there := makes.rests.down makes.there name (base.names.length + k)
      (by simpa [Place.under] using within)
    rw [Place.under, ← cut] at missing
    cases missing.symm.trans there

/-- A path leads to the directory that it goes on from. -/
theorem IsClear.stat (clear : t.IsClear root before base []) :
    t.stat (Path.text ⟨root, before⟩) = .ok .directory := by
  by_cases none_ : before = []
  · exact stat_of_parts_nil none_
  · have resolved := clear.resolve_eq (by simpa using none_)
    rw [List.append_nil] at resolved
    exact stat_of_keeps (fun _ here => here) resolved clear.opens

theorem makeAll_of_stat {above : List String}
    (there : t.stat (Path.text ⟨root, above.reverse⟩) = .ok .directory) :
    t.makeAll root above = ⟨t, none⟩ := by
  cases above with
  | nil => exact settle_of_stat there
  | cons name above =>
      have settled := settle_of_stat there
      rw [makeAll]
      dsimp only
      split
      · rename_i failed
        rw [makeDirectory_of_stat there] at failed
        cases failed
      · exact settled

/-- The directories on a clear way, whose names are given in reverse, are made. -/
theorem makeAll_of_clear : ∀ {above : List String}, t.IsClear root before base above.reverse →
    Makes t (Place.under base above.reverse) (t.makeAll root (above ++ before.reverse))
  | [], clear => by
      have rests : Rests t base :=
        .walk (fun _ small => absurd small (Nat.not_lt_zero _)) clear.leads
      rw [List.nil_append, List.reverse_nil, Place.under_nil,
        makeAll_of_stat (by rw [List.reverse_reverse]; exact clear.stat)]
      exact ⟨rfl, clear.opens, rests, fun _ _ => rfl⟩
  | name :: above, clear => by
      rw [List.reverse_cons] at clear ⊢
      have outer := makeAll_of_clear clear.up
      have path : (name :: (above ++ before.reverse)).reverse =
          before ++ (above.reverse ++ [name]) := by simp
      rw [List.cons_append, makeAll, path]
      dsimp only
      rcases clear.resolve (by simp) with resolved | ⟨stopped, -⟩
      · -- All directories above are there, so the last one is made or kept at once.
        obtain ⟨notMissing, makes⟩ := makes_settle resolved clear.noFile fun _ _ => rfl
        split
        · rename_i failed
          exact absurd failed (notMissing _)
        · exact makes
      · -- The ones above are made first. Nothing new is below them, so the way is still clear.
        have failed : t.makeDirectory (Path.text ⟨root, before ++ (above.reverse ++ [name])⟩) =
            .error ⟨.missing, Path.text ⟨root, before ++ (above.reverse ++ [name])⟩⟩ := by
          simp only [makeDirectory, stopped]
        have clear := clear.grows (grows_makeAll root (above ++ before.reverse) t)
        have resolved := outer.resolve clear
        obtain ⟨notMissing, makes⟩ := makes_settle resolved clear.noFile fun q long =>
          outer.beyond q (Nat.lt_trans (by simp [Place.under]) long)
        rw [failed]
        dsimp only
        rw [outer.finished]
        dsimp only
        split
        · rename_i failed'
          exact absurd failed' (notMissing _)
        · exact makes

/-- The directories on a clear way are made. -/
theorem makeDirectories_of_clear (clear : t.IsClear root before base names) :
    Makes t (Place.under base names) (t.makeDirectories ⟨root, before ++ names⟩) := by
  rw [← names.reverse_reverse] at clear
  have makes := makeAll_of_clear clear
  rwa [names.reverse_reverse, ← List.reverse_append] at makes

/-! ## Storing at a fresh path -/

/-- Nothing is found by a fresh path. -/
theorem IsFresh.stat {p : Path} (fresh : t.IsFresh p) : t.stat p.text = .error .missing := by
  obtain ⟨root, parts⟩ := p
  obtain ⟨before, base, names, rfl, named, clear, free⟩ := fresh
  rcases clear.resolve (by simp [named]) with resolved | ⟨stopped, -⟩
  · rw [FileTree.stat, resolved, ok_bind, free]
    rfl
  · rw [FileTree.stat, stopped]
    rfl

/-- **A file can be stored at a fresh path**, and is read there afterwards. -/
theorem IsFresh.stored {p : Path} (fresh : t.IsFresh p) {content : String}
    (noReturn : '\r' ∉ content.toList) :
    (Bundle.storeOne t p content).stopped = none ∧
      (Bundle.storeOne t p content).tree.exists? p.text = true ∧
      (Bundle.storeOne t p content).tree.readText p.text = .ok content := by
  obtain ⟨root, parts⟩ := p
  obtain ⟨before, base, names, rfl, named, clear, free⟩ := fresh
  obtain ⟨names, name, rfl⟩ := (List.eq_nil_or_concat' names).resolve_left named
  have above : Path.parent ⟨root, before ++ (names ++ [name])⟩ = ⟨root, before ++ names⟩ := by
    rw [Path.parent, ← List.append_assoc, List.dropLast_concat]
  have makes := makeDirectories_of_clear clear.up
  have resolved := makes.resolve (clear.grows (grows_makeDirectories t _))
  have free : (t.makeDirectories ⟨root, before ++ names⟩).tree.at?
      (Place.under base (names ++ [name])) = none :=
    (makes.beyond _ (by simp [Place.under])).trans free
  have written : (t.makeDirectories ⟨root, before ++ names⟩).tree.writeText
      (Path.text ⟨root, before ++ (names ++ [name])⟩) content =
        .ok (Bundle.storeOne t ⟨root, before ++ (names ++ [name])⟩ content).tree := by
    simp only [Bundle.storeOne, above, makes.finished, writeText, resolved, free]
  refine ⟨?_, readText_of_writeText written noReturn⟩
  simp only [Bundle.storeOne, above, makes.finished, writeText, resolved, free]

end FileTree

end Conveyor

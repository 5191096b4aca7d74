import Conveyor.Definition.Source
import Conveyor.Proofs.FileTree.Storing
import Conveyor.Proofs.Value.Depth
import Conveyor.Proofs.Yaml.Restoring

/-!
# A written tree is loaded from its file

The text of a tree holds no carriage return, so a file keeps it as it is.  Loading the file does
what replacing the references in the tree itself does, in every environment.

How deep a tree may be nested for it to be written depends on the room that is left for it.  The
main result (`load_of_print`) holds for whatever room there is: what is written is loaded as the
tree, and a tree is written unless it is nested deeper than there is room for.
-/

set_option autoImplicit false

namespace Conveyor

namespace Definition

/-- **What is written of a tree is loaded as the tree**, with its references replaced: no text
comes back as another kind of value, and lists and mappings keep their order.  With whatever room
for levels a tree is written, it is written exactly if it is not nested deeper. -/
theorem load_of_print {v : Value} (tree : v.IsTree) {room : Nat}
    (near : room ≤ Yaml.Tree.deepest) :
    (v.depth ≤ room ∧ ∃ text, Yaml.printWithin room v = .ok text ∧
      ∀ (t u : FileTree) (path : String), t.writeText path text = .ok u →
        load u path = v.substitute) ∨
    room < v.depth ∧ Yaml.printWithin room v = .error .tooDeep := by
  rcases Nat.lt_or_ge room v.depth with deep | shallow
  · exact .inr ⟨deep, Yaml.printWithin_tooDeep tree deep⟩
  · obtain ⟨text, printed, characters, restored⟩ := Yaml.read_of_printWithin tree near shallow
    refine .inl ⟨shallow, text, printed, fun t u path written => ?_⟩
    obtain ⟨there, same⟩ :=
      FileTree.readText_of_writeText written (Yaml.noReturn_of_isPrinted characters)
    have reached : v.reach ≤ deepest :=
      Nat.le_trans v.reach_le_depth (Nat.le_trans shallow (Nat.le_trans near (by decide)))
    rw [load, there, same]
    dsimp only
    rw [parse, restored]
    dsimp only
    rw [if_neg (Nat.not_lt.mpr reached)]
    rfl

/-- Words that mean something else without quotes, blank lines, blanks at the ends of lines and a
key of two lines. -/
def mixedTree : Value :=
  .map [(.text "on", .text "null"),
    (.text "<<\n", .list [.text "  a\n\nb \n\n", .int (-10), .text "2024-01-02", .null])]

theorem load_of_print_mixedTree :
    mixedTree.IsTree ∧ Yaml.Tree.deepest - 10 ≤ Yaml.Tree.deepest ∧
      ∃ text u, Yaml.printWithin (Yaml.Tree.deepest - 10) mixedTree = .ok text ∧
        ({} : FileTree).writeText "pipeline.yaml" text = .ok u ∧
        load u "pipeline.yaml" = mixedTree.substitute := by
  have tree : mixedTree.IsTree := by decide
  have near : Yaml.Tree.deepest - 10 ≤ Yaml.Tree.deepest := by decide
  rcases load_of_print tree near with ⟨-, text, printed, loads⟩ | ⟨deep, -⟩
  · have written : ({} : FileTree).writeText "pipeline.yaml" text =
        .ok ⟨[(⟨.above 0, ["pipeline.yaml"]⟩, .file text)]⟩ := rfl
    exact ⟨tree, near, text, _, printed, written, loads _ _ _ written⟩
  · exact absurd deep (by decide)

/-- A null in a number of lists. -/
def nestedLists : Nat → Value
  | 0 => .null
  | n + 1 => .list [nestedLists n]

theorem isTree_nestedLists : ∀ n, (nestedLists n).IsTree
  | 0 => trivial
  | n + 1 => ⟨isTree_nestedLists n, trivial⟩

theorem depth_nestedLists : ∀ n, (nestedLists n).depth = n
  | 0 => rfl
  | n + 1 => by
      rw [nestedLists, Value.depth, Value.itemsDepth, Value.itemsDepth, depth_nestedLists n,
        Nat.max_zero]

/-- A tree that is nested deeper is not written at all. -/
theorem print_nestedLists :
    (nestedLists 350).IsTree ∧ Yaml.print (nestedLists 350) = .error .tooDeep := by
  have deep : Yaml.Tree.deepest < (nestedLists 350).depth := by
    rw [depth_nestedLists]
    decide
  exact ⟨isTree_nestedLists 350, Yaml.printWithin_tooDeep (isTree_nestedLists 350) deep⟩

end Definition

end Conveyor

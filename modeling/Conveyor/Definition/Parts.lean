import Conveyor.Config

/-!
# The parts of a definition

A definition is a mapping: the stages stand under one key of their own, and everything else are
the options of the project.
-/

set_option autoImplicit false

namespace Conveyor.Definition

/-- The key of the stages. -/
def stagesKey : Value := .text "stages"

/-- The options of a definition: all its entries but the stages. -/
def options (entries : List (Value × Value)) : Value :=
  .map (entries.filter fun e => !e.1.same stagesKey)

/-- The configuration and the items of the list of stages. -/
def parts (data : Value) : Except Failure (Config × List Value) := do
  let entries ← data.entries
  let config ← Config.ofOptions (options entries)
  let stages ← (((Value.lookup stagesKey entries).getD .null).orElse (.list [])).items
  return (config, stages)

end Conveyor.Definition

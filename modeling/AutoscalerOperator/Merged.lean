import AutoscalerOperator.SemanticEquality

namespace AutoscalerOperator

/-- A value after something was merged into it, and whether that changed it. -/
structure Merged (α : Type) where
  value : α
  changed : Bool := false
  deriving DecidableEq

namespace Merged

variable {α β : Type}

protected def map (f : α → β) (m : Merged α) : Merged β := ⟨f m.value, m.changed⟩

def andThen (m : Merged α) (f : α → Merged β) : Merged β :=
  let next := f m.value
  ⟨next.value, m.changed || next.changed⟩

/-- Takes over a required value that does not say the same. -/
def adopt [ToJson α] (existing required : α) : Merged α :=
  if semanticEq existing required then ⟨existing, false⟩ else ⟨required, true⟩

end Merged

end AutoscalerOperator

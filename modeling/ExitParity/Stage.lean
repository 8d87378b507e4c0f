namespace ExitParity

/-- What a step of some work leads to: its result, or work left to be gone on
with at a later time. -/
inductive Stage (ω β : Type) where
  | finished (result : β)
  | pending (rest : ω)

namespace Stage

variable {ω ω' β β' : Type}

def map (left : ω → ω') (result : β → β') : Stage ω β → Stage ω' β'
  | .finished value => .finished (result value)
  | .pending rest => .pending (left rest)

theorem map_map {ω'' β'' : Type} (stage : Stage ω β) (left : ω → ω') (left' : ω' → ω'') (result : β → β')
    (result' : β' → β'') :
    (stage.map left result).map left' result' = stage.map (left' ∘ left) (result' ∘ result) := by
  cases stage <;> rfl

end Stage
end ExitParity

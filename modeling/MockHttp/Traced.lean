/-!
# Results with steps

A `Traced` value is a result together with the steps taken on the way to it, in order.
-/

namespace MockHttp

structure Traced (σ α : Type) where
  value : α
  steps : List σ

namespace Traced

variable {σ τ α β : Type}

def pure (a : α) : Traced σ α := ⟨a, []⟩

/-- The second result after the first; its steps follow those of the first. -/
def bind (a : Traced σ α) (f : α → Traced σ β) : Traced σ β :=
  let b := f a.value
  ⟨b.value, a.steps ++ b.steps⟩

instance : Monad (Traced σ) where
  pure := Traced.pure
  bind := Traced.bind

def step (s : σ) : Traced σ Unit := ⟨(), [s]⟩

/-- The same result with every step seen in another way. -/
def mapSteps (f : σ → τ) (a : Traced σ α) : Traced τ α :=
  ⟨a.value, a.steps.map f⟩

end Traced

end MockHttp

import MockHttp.Step

/-!
# Results with steps, taken apart

The value and the steps of a result that was put together from others.
-/

namespace MockHttp.Traced

variable {σ τ α β : Type}

@[simp] theorem value_pure (a : α) : (Pure.pure a : Traced σ α).value = a := rfl

@[simp] theorem value_bind (a : Traced σ α) (f : α → Traced σ β) :
    (a >>= f).value = (f a.value).value := rfl

@[simp] theorem steps_bind (a : Traced σ α) (f : α → Traced σ β) :
    (a >>= f).steps = a.steps ++ (f a.value).steps := rfl

@[simp] theorem value_step (s : σ) : (step s).value = () := rfl

@[simp] theorem steps_pure (a : α) : (Pure.pure a : Traced σ α).steps = [] := rfl

@[simp] theorem steps_step (s : σ) : (step s).steps = [s] := rfl

@[simp] theorem value_mapSteps (f : σ → τ) (a : Traced σ α) : (a.mapSteps f).value = a.value := rfl

@[simp] theorem steps_mapSteps (f : σ → τ) (a : Traced σ α) :
    (a.mapSteps f).steps = a.steps.map f := rfl

end MockHttp.Traced

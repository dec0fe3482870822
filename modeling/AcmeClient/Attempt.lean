import AcmeClient.Error

/-!
# Attempts

An attempt works on a state and either yields a value or fails. What it has done to the state
before it fails stays done. An attempt on a part of a state is an attempt on the whole that leaves
the rest alone.
-/

namespace AcmeClient

/-- Something that works on a state and may fail: how it ends, and the state that it leaves. -/
@[ext] structure Attempt (σ α : Type) where
  run : σ → Except Error α × σ

namespace Attempt

instance : Monad (Attempt σ) where
  pure x := ⟨fun s => (.ok x, s)⟩
  bind a f := ⟨fun s =>
    match a.run s with
    | (.ok x, t) => (f x).run t
    | (.error e, t) => (.error e, t)⟩

instance : MonadStateOf σ (Attempt σ) where
  get := ⟨fun s => (.ok s, s)⟩
  set t := ⟨fun _ => (.ok ⟨⟩, t)⟩
  modifyGet f := ⟨fun s => (.ok (f s).1, (f s).2)⟩

instance : MonadExceptOf Error (Attempt σ) where
  throw e := ⟨fun s => (.error e, s)⟩
  tryCatch a handle := ⟨fun s =>
    match a.run s with
    | (.ok x, t) => (.ok x, t)
    | (.error e, t) => (handle e).run t⟩

@[simp] theorem run_pure (x : α) (s : σ) : (pure x : Attempt σ α).run s = (.ok x, s) := rfl

@[simp] theorem run_throw (e : Error) (s : σ) :
    (throw e : Attempt σ α).run s = (.error e, s) := rfl

@[simp] theorem run_get (s : σ) : (get : Attempt σ σ).run s = (.ok s, s) := rfl

@[simp] theorem run_set (t s : σ) : (set t : Attempt σ PUnit).run s = (.ok ⟨⟩, t) := rfl

@[simp] theorem run_modify (f : σ → σ) (s : σ) :
    (modify f : Attempt σ PUnit).run s = (.ok ⟨⟩, f s) := rfl

/-- One attempt after another: the second starts where the first ends, unless that fails. -/
theorem run_bind (a : Attempt σ α) (f : α → Attempt σ β) (s : σ) :
    (a >>= f).run s =
      match a.run s with
      | (.ok x, t) => (f x).run t
      | (.error e, t) => (.error e, t) := rfl

/-- Changing the value changes neither failures nor the state. -/
@[simp] theorem run_map (f : α → β) (a : Attempt σ α) (s : σ) :
    (f <$> a).run s = ((a.run s).1.map f, (a.run s).2) := by
  change (a >>= fun x => pure (f x)).run s = _
  rw [run_bind]
  rcases a.run s with ⟨_ | _, t⟩ <;> rfl

/-- Passing the value on changes nothing. -/
theorem map_id (a : Attempt σ α) : id <$> a = a := by
  ext1; funext s
  change (match a.run s with | (.ok x, t) => _ | (.error e, t) => _) = _
  rcases a.run s with ⟨_ | _, t⟩ <;> rfl

/-- Attempts in a row may be grouped either way. -/
theorem bind_bind (a : Attempt σ α) (f : α → Attempt σ β) (g : β → Attempt σ γ) :
    a >>= f >>= g = a >>= fun x => f x >>= g := by
  ext1; funext s
  simp only [run_bind]
  rcases a.run s with ⟨_ | _, t⟩ <;> rfl

instance : LawfulMonad (Attempt σ) := .mk' _ map_id (fun _ _ => rfl) bind_bind

/-- A result that is already known. -/
def ofExcept (r : Except Error α) : Attempt σ α := ⟨fun s => (r, s)⟩

@[simp] theorem run_ofExcept (r : Except Error α) (s : σ) :
    (ofExcept r : Attempt σ α).run s = (r, s) := rfl

instance : MonadLift (Except Error) (Attempt σ) := ⟨ofExcept⟩

/-- Works on a part of the state. -/
def within (get : τ → σ) (put : σ → τ → τ) (a : Attempt σ α) : Attempt τ α :=
  ⟨fun t =>
    let r := a.run (get t)
    (r.1, put r.2 t)⟩

@[simp] theorem run_within (get : τ → σ) (put : σ → τ → τ) (a : Attempt σ α) (t : τ) :
    (within get put a).run t = ((a.run (get t)).1, put (a.run (get t)).2 t) := rfl

end Attempt

end AcmeClient

import AcmeClient.Attempt
import AcmeClient.Proofs.Results

/-!
# Effects of attempts

An effect is a relation between the state before and the state after. It need not say how an
attempt ends: it holds of failures as of successes, since what is done before a failure stays
done. Effects of single attempts add up to effects of sequences, lists and attempts on parts.
-/

namespace AcmeClient

namespace Attempt

/-- A relation that attempts in a row have if each of them has it. -/
structure Effect (R : σ → σ → Prop) : Prop where
  refl : ∀ s, R s s
  trans : ∀ {s t u}, R s t → R t u → R s u

/-- What has an effect on a part has the same effect on the whole. -/
theorem Effect.on {R : σ → σ → Prop} (hR : Effect R) (get : τ → σ) :
    Effect fun s t => R (get s) (get t) where
  refl s := hR.refl (get s)
  trans h h' := hR.trans h h'

/-- An attempt that relates the state before each run to the state after it. -/
def Keeps (R : σ → σ → Prop) (a : Attempt σ α) : Prop := ∀ s, R s (a.run s).2

/-- A result that is already known does nothing to the state. -/
@[simp] theorem run_lift (r : Except Error α) (s : σ) :
    (liftM r : Attempt σ α).run s = (r, s) := rfl

/-- What holds after attempts in a row: the second one starts where the first succeeds. -/
theorem run_bind_ind {a : Attempt σ α} {f : α → Attempt σ β} {s : σ}
    {P : Except Error β × σ → Prop} (failed : ∀ e t, a.run s = (.error e, t) → P (.error e, t))
    (done : ∀ x t, a.run s = (.ok x, t) → P ((f x).run t)) : P ((a >>= f).run s) := by
  rw [run_bind]
  rcases h : a.run s with ⟨_ | x, t⟩
  · exact failed _ t h
  · exact done x t h

/-- Attempts in a row succeed if both of them do. -/
theorem run_bind_eq_ok {a : Attempt σ α} {f : α → Attempt σ β} {s u : σ} {y : β}
    (h : (a >>= f).run s = (.ok y, u)) :
    ∃ x t, a.run s = (.ok x, t) ∧ (f x).run t = (.ok y, u) := by
  rw [run_bind] at h
  rcases ha : a.run s with ⟨_ | x, t⟩
  · simp [ha] at h
  · exact ⟨x, t, rfl, by simpa only [ha] using h⟩

/-- Attempts in a row fail if the first does, or the second where the first succeeds. -/
theorem run_bind_eq_error {a : Attempt σ α} {f : α → Attempt σ β} {s u : σ} {e : Error}
    (h : (a >>= f).run s = (.error e, u)) :
    a.run s = (.error e, u) ∨ ∃ x t, a.run s = (.ok x, t) ∧ (f x).run t = (.error e, u) := by
  rw [run_bind] at h
  rcases ha : a.run s with ⟨e' | x, t⟩
  · left
    simpa [ha] using h
  · exact Or.inr ⟨x, t, rfl, by simpa only [ha] using h⟩

namespace Keeps

variable {R : σ → σ → Prop}

/-- An effect relates the ends of a run. -/
theorem of_run {a : Attempt σ α} {s t : σ} {r : Except Error α} (ha : Keeps R a)
    (h : a.run s = (r, t)) : R s t := by
  have hs := ha s
  rwa [h] at hs

/-- A value alone has every effect. -/
theorem pure (hR : Effect R) (x : α) : Keeps R (Pure.pure x : Attempt σ α) := hR.refl

/-- A failure alone has every effect. -/
theorem throw (hR : Effect R) (e : Error) : Keeps R (MonadExcept.throw e : Attempt σ α) := hR.refl

/-- A result that is already known has every effect. -/
theorem lift (hR : Effect R) (r : Except Error α) : Keeps R (liftM r : Attempt σ α) := hR.refl

/-- Looking at the state has every effect. -/
theorem get (hR : Effect R) : Keeps R (MonadState.get : Attempt σ σ) := hR.refl

/-- A run of attempts in a row has an effect if the first run has it, and the second where the first
succeeds. -/
theorem run_bind_of (hR : Effect R) {a : Attempt σ α} {f : α → Attempt σ β} {s : σ}
    (ha : R s (a.run s).2) (hf : ∀ x t, a.run s = (.ok x, t) → R t ((f x).run t).2) :
    R s ((a >>= f).run s).2 := by
  refine run_bind_ind (P := fun r => R s r.2) ?_ ?_
  · intro e t h
    rwa [h] at ha
  · intro x t h
    rw [h] at ha
    exact hR.trans ha (hf x t h)

/-- Attempts in a row have an effect if the second has it wherever the first succeeds. -/
theorem bind_of (hR : Effect R) {a : Attempt σ α} {f : α → Attempt σ β} (ha : Keeps R a)
    (hf : ∀ s x t, a.run s = (.ok x, t) → R t ((f x).run t).2) : Keeps R (a >>= f) :=
  fun s => run_bind_of hR (ha s) (hf s)

/-- Attempts in a row have an effect if both of them have it. -/
theorem bind (hR : Effect R) {a : Attempt σ α} {f : α → Attempt σ β} (ha : Keeps R a)
    (hf : ∀ x, Keeps R (f x)) : Keeps R (a >>= f) :=
  bind_of hR ha fun _ x t _ => hf x t

/-- Changing the value does not change the effect. -/
theorem map {a : Attempt σ α} (f : α → β) (ha : Keeps R a) : Keeps R (f <$> a) := by
  intro s
  rw [run_map]
  exact ha s

/-- What is attempted for each member of a list has the effect that it has for one. -/
theorem mapM (hR : Effect R) {f : α → Attempt σ β} {l : List α} (hf : ∀ x ∈ l, Keeps R (f x)) :
    Keeps R (l.mapM f) := by
  induction l with
  | nil => exact pure hR _
  | cons x l ih =>
    rw [List.mapM_cons]
    have hl := ih fun y hy => hf y (List.mem_cons_of_mem x hy)
    exact bind hR (hf x List.mem_cons_self) fun _ => bind hR hl fun _ => pure hR _

/-- An attempt on a part of the state has its effect on that part. -/
theorem within {S : τ → τ → Prop} {get : τ → σ} {put : σ → τ → τ} {a : Attempt σ α}
    (h : ∀ t u, R (get t) u → S t (put u t)) (ha : Keeps R a) :
    Keeps S (Attempt.within get put a) := fun t => h t _ (ha (get t))

end Keeps

end Attempt

end AcmeClient

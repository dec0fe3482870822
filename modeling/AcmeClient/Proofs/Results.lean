import Mathlib.Data.List.Forall2

/-!
# Results of steps and of lists

A result that is made in steps is a value if each step gives one. A list is taken to another one, by
steps that may fail or find nothing, if its members are taken to those of the other, one by one.
-/

namespace AcmeClient

/-- Results in a row are a value if both of them are. -/
theorem bind_eq_ok {x : Except ε α} {f : α → Except ε β} {y : β} (h : x >>= f = .ok y) :
    ∃ a, x = .ok a ∧ f a = .ok y := by
  cases x with
  | error e => cases h
  | ok a => exact ⟨a, rfl, h⟩

/-- What follows a value goes on with it. -/
theorem ok_bind (a : α) (f : α → Except ε β) : Except.ok a >>= f = f a := rfl

/-- A result that is made of another one is a value if that one is. -/
theorem map_eq_ok_iff {x : Except ε α} {f : α → β} {y : β} :
    x.map f = .ok y ↔ ∃ a, x = .ok a ∧ f a = y := by
  cases x <;> simp [Except.map]

/-- Another account of a failure makes no difference to a value. -/
theorem mapError_eq_ok_iff {x : Except ε α} {f : ε → ε'} {y : α} :
    x.mapError f = .ok y ↔ x = .ok y := by
  cases x <;> simp [Except.mapError]

/-- A list is taken to another one if its members are taken to the members of the other, one by
one. -/
theorem mapM_eq_ok_iff {f : α → Except ε β} {l : List α} {ys : List β} :
    l.mapM f = .ok ys ↔ List.Forall₂ (fun x y => f x = .ok y) l ys := by
  induction l generalizing ys with
  | nil => cases ys <;> simp [pure, Except.pure]
  | cons x l ih =>
    rw [List.mapM_cons]
    constructor
    · intro h
      obtain ⟨y, hy, h⟩ := bind_eq_ok h
      obtain ⟨rest, hrest, h⟩ := bind_eq_ok h
      cases h
      exact .cons hy (ih.mp hrest)
    · intro h
      cases h with
      | cons hy hrest =>
        rw [hy, ok_bind, ih.mpr hrest]
        rfl

/-- A list is taken to another one exactly if each of its members is taken to something. -/
theorem exists_mapM_eq_ok_iff {f : α → Except ε β} {l : List α} :
    (∃ ys, l.mapM f = .ok ys) ↔ ∀ x ∈ l, ∃ y, f x = .ok y := by
  simp only [mapM_eq_ok_iff]
  induction l with
  | nil => simp
  | cons x l ih =>
    rw [List.forall_mem_cons, ← ih]
    constructor
    · rintro ⟨ys, h⟩
      cases h with
      | cons hy hrest => exact ⟨⟨_, hy⟩, ⟨_, hrest⟩⟩
    · rintro ⟨⟨y, hy⟩, ⟨ys, hys⟩⟩
      exact ⟨y :: ys, .cons hy hys⟩

section Found

variable {f : α → Option β} {l : List α} {ys : List β}

/-- What is found for a list is what is found for its members, one by one. -/
theorem mapM_eq_some_iff :
    l.mapM f = some ys ↔ List.Forall₂ (fun x y => f x = some y) l ys := by
  induction l generalizing ys with
  | nil => cases ys <;> simp
  | cons x l ih =>
    rw [List.mapM_cons]
    simp only [Option.bind_eq_bind, Option.bind_eq_some_iff]
    constructor
    · rintro ⟨y, hy, rest, hrest, h⟩
      cases h
      exact .cons hy (ih.mp hrest)
    · intro h
      cases h with
      | cons hy hrest => exact ⟨_, hy, _, ih.mpr hrest, rfl⟩

/-- What each member of a list is taken to is known for the list. -/
theorem mapM_eq_some_map {g : α → β} (h : ∀ x ∈ l, f x = some (g x)) :
    l.mapM f = some (l.map g) :=
  mapM_eq_some_iff.mpr (List.forall₂_map_right_iff.mpr (List.forall₂_same.mpr h))

/-- What is found for a list is a single thing if it is found for the only member of the list. -/
theorem mapM_eq_singleton_iff {y : β} : l.mapM f = some [y] ↔ ∃ x, l = [x] ∧ f x = some y := by
  rw [mapM_eq_some_iff, List.forall₂_cons_right_iff]
  constructor
  · rintro ⟨x, more, hx, hmore, rfl⟩
    cases hmore
    exact ⟨x, rfl, hx⟩
  · rintro ⟨x, rfl, hx⟩
    exact ⟨x, [], hx, .nil, rfl⟩

end Found

section Pairs

variable {R : α → β → Prop} {l : List α} {ys : List β}

/-- Each member of a list has its partner in a list that is related to it one by one. -/
theorem exists_of_mem_left (h : List.Forall₂ R l ys) {x : α} (hx : x ∈ l) : ∃ y ∈ ys, R x y := by
  obtain ⟨n, hn, rfl⟩ := List.getElem_of_mem hx
  have hn' : n < ys.length := h.length_eq ▸ hn
  exact ⟨ys[n], List.getElem_mem hn', h.get hn hn'⟩

/-- Each member of a list is the partner of one in a list that is related to it one by one. -/
theorem exists_of_mem_right (h : List.Forall₂ R l ys) {y : β} (hy : y ∈ ys) : ∃ x ∈ l, R x y :=
  exists_of_mem_left h.flip hy

end Pairs

end AcmeClient

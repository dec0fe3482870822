import AcmeClient.Order.Basic
import AcmeClient.Proofs.Poll.Effects
import AcmeClient.Proofs.Tracked.Answers

/-!
# Following a resource

Whatever is done with a resource, it only ever takes over answers, one after another. So it stays
the same resource of the same account, and keeps what each accepted answer keeps: an order that has
identifiers never gets other ones.
-/

namespace AcmeClient

open Attempt

namespace Tracked

variable [Described α]

/-- What a resource becomes by taking over answers one after another. -/
inductive Follows (t : Tracked α) : Tracked α → Prop
  | refl : Follows t t
  | accept {u : Tracked α} (answer content : α) (before : Follows t u)
      (accepted : Described.accept u.location u.content answer = .ok content) :
      Follows t { u with content }

namespace Follows

variable {t u v : Tracked α}

/-- Answers may follow on answers. -/
theorem trans (h : t.Follows u) (h' : u.Follows v) : t.Follows v := by
  induction h' with
  | refl => exact h
  | accept answer content _ accepted ih => exact .accept answer content ih accepted

/-- A resource stays that of its account. -/
theorem owner_eq (h : t.Follows u) : u.owner = t.owner := by
  induction h with
  | refl => rfl
  | accept _ _ _ _ ih => exact ih

/-- A resource stays where it is. -/
theorem location_eq (h : t.Follows u) : u.location = t.location := by
  induction h with
  | refl => rfl
  | accept _ _ _ _ ih => exact ih

/-- Following one of two things is an effect on it. -/
theorem effect : Effect fun st st' : Session × Tracked α => st.2.Follows st'.2 where
  refl _ := .refl
  trans h h' := h.trans h'

end Follows

/-- Whether each resource of a list is followed by the one at its position in another list. -/
def AllFollowed (l l' : List (Tracked α)) : Prop :=
  ∀ (i : Nat) (t : Tracked α), l[i]? = some t → ∃ t', l'[i]? = some t' ∧ t.Follows t'

namespace AllFollowed

variable {l l' l'' : List (Tracked α)}

/-- Resources follow themselves. -/
protected theorem refl (l : List (Tracked α)) : AllFollowed l l :=
  fun _ t ht => ⟨t, ht, .refl⟩

/-- Lists may follow on lists. -/
theorem trans (h : AllFollowed l l') (h' : AllFollowed l' l'') : AllFollowed l l'' := by
  intro i t ht
  obtain ⟨u, hu, htu⟩ := h i t ht
  obtain ⟨v, hv, huv⟩ := h' i u hu
  exact ⟨v, hv, htu.trans huv⟩

/-- Resources that come to a list are put behind the ones there. -/
theorem append (l more : List (Tracked α)) : AllFollowed l (l ++ more) := by
  intro i t ht
  obtain ⟨hi, _⟩ := List.getElem?_eq_some_iff.mp ht
  exact ⟨t, by rw [List.getElem?_append_left hi, ht], .refl⟩

/-- A resource that is followed leaves the others as they are. -/
theorem set {i : Nat} {t t' : Tracked α} (ht : l[i]? = some t) (h : t.Follows t') :
    AllFollowed l (l.set i t') := by
  intro j u hu
  by_cases hij : i = j
  · subst hij
    obtain rfl := Option.some.inj (ht.symm.trans hu)
    obtain ⟨hi, _⟩ := List.getElem?_eq_some_iff.mp ht
    exact ⟨t', List.getElem?_set_self hi, h⟩
  · exact ⟨u, by rw [List.getElem?_set_ne hij, hu], .refl⟩

end AllFollowed

/-- Whether a list keeps its resources at their positions, and gets others of some sort only. -/
structure Grows (new : Tracked α → Prop) (l l' : List (Tracked α)) : Prop where
  followed : AllFollowed l l'
  added : ∀ (i : Nat) (t : Tracked α), l'[i]? = some t → l.length ≤ i → new t

namespace Grows

variable {new : Tracked α → Prop} {l l' more : List (Tracked α)}

/-- A list may stay as it is. -/
protected theorem refl (l : List (Tracked α)) : Grows new l l where
  followed := .refl l
  added i t ht hi := by
    rw [List.getElem?_eq_none hi] at ht
    cases ht

/-- Resources of the sort may be put behind the others. -/
theorem append (h : ∀ t ∈ more, new t) : Grows new l (l ++ more) where
  followed := .append l more
  added i t ht hi := by
    rw [List.getElem?_append_right hi] at ht
    exact h t (List.mem_of_getElem? ht)

/-- A resource may be followed. -/
theorem set {i : Nat} {t t' : Tracked α} (ht : l[i]? = some t) (h : t.Follows t') :
    Grows new l (l.set i t') where
  followed := .set ht h
  added j u hu hj := by
    rw [List.getElem?_eq_none (by rwa [List.length_set])] at hu
    cases hu

/-- What holds of all that follows the resources, and of what is of the sort, holds of all. -/
theorem forall_mem (h : Grows new l l') {P : Tracked α → Prop}
    (hfollows : ∀ t ∈ l, ∀ t', t.Follows t' → P t') (hnew : ∀ t ∈ l', new t → P t) :
    ∀ t ∈ l', P t := by
  intro t ht
  obtain ⟨i, hi⟩ := List.getElem?_of_mem ht
  rcases Nat.lt_or_ge i l.length with hlt | hge
  · obtain ⟨t', ht', hfollow⟩ := h.followed i l[i] (List.getElem?_eq_getElem hlt)
    obtain rfl := Option.some.inj (ht'.symm.trans hi)
    exact hfollows _ (List.getElem_mem hlt) _ hfollow
  · exact hnew t ht (h.added i t hi hge)

end Grows

/-- A message about a resource is followed by its answer. -/
theorem follows_conclude (t : Tracked α) (sent : Except Error Http.Response × Session)
    (value : Http.Response → Session → β) : t.Follows (t.conclude sent value).2.2 := by
  rcases sent with ⟨e | response, s⟩
  · exact .refl
  · unfold conclude settle
    dsimp only
    cases ht : t.answered response with
    | error e => exact .refl
    | ok t' =>
      obtain ⟨answer, _, ht⟩ := bind_eq_ok ht
      obtain ⟨content, haccept, ht⟩ := bind_eq_ok ht
      cases ht
      exact .accept answer content .refl haccept

/-- An update follows the resource. -/
theorem follows_update :
    Keeps (fun st st' => st.2.Follows st'.2) (update : Tracking α (Option Duration)) := by
  rintro ⟨s, t⟩
  rw [run_update]
  exact t.follows_conclude _ _

/-- A submission follows the resource. -/
theorem follows_submit (url : String) (payload : Bytes) :
    Keeps (fun st st' => st.2.Follows st'.2) (submit url payload : Tracking α Unit) := by
  rintro ⟨s, t⟩
  rw [run_submit]
  exact t.follows_conclude _ _

/-- Waiting for a state follows the resource. -/
theorem follows_await [Staged α] (done : Status → Bool) (policy : RetryPolicy) :
    Keeps (fun st st' => st.2.Follows st'.2) (await done policy : Tracking α Status) := by
  have hE := Follows.effect (α := α)
  refine .bind hE (.get hE) fun st => ?_
  refine .bind hE (.bind hE (.get hE) fun _ => ?_) fun status => ?_
  · exact Pollable.keeps_pollFrom hE follows_update (fun _ _ => .refl) done policy _ _ _
  · cases status with
    | some status => exact .pure hE status
    | none => exact .throw hE _

end Tracked

open Tracked

/-- Finalizing follows the order. -/
theorem Order.follows_finalize (key : SigningKey) :
    Keeps (fun st st' => st.2.Follows st'.2) (Order.finalize key) := by
  rintro ⟨s, order⟩
  rcases Order.run_finalize key s order with ⟨e, h⟩ | ⟨der, _, h⟩
  · rw [h]
    exact .refl
  · rw [h]
    exact follows_submit order.content.finalize _ (s, order)

/-- Giving up an authorization follows it. -/
theorem Authorization.follows_deactivate :
    Keeps (fun st st' => st.2.Follows st'.2) Authorization.deactivate := by
  rintro ⟨s, a⟩
  rw [Authorization.run_deactivate]
  exact follows_submit a.location Authorization.deactivation (s, a)

/-- Triggering a challenge follows it. -/
theorem Client.follows_triggerAs (found : Challenge) (kind : Option ChallengeKind) :
    Keeps (fun st st' => st.2.Follows st'.2) (triggerAs found kind) := by
  rintro ⟨s, ch⟩
  rcases run_triggerAs found kind s ch with ⟨e, h⟩ | h
  · rw [h]
    exact .refl
  · rw [h]
    exact follows_submit ch.location Challenge.readiness (s, ch)

namespace Resource.Order

/-- What an answer says about an order, with the identifiers that the order has, if it has any. -/
def keepingIdentifiers (had answer : Order) : Order :=
  if had.identifiers = [] then answer else { answer with identifiers := had.identifiers }

/-- An order that takes over an answer keeps its identifiers. -/
theorem eq_keepingIdentifiers_of_refreshed {had answer content : Order}
    (h : had.refreshed answer = .ok content) : content = had.keepingIdentifiers answer := by
  unfold refreshed at h
  unfold keepingIdentifiers
  split at h
  · rw [if_pos ‹_›]
    exact (Except.ok.inj h).symm
  · rw [if_neg ‹_›]
    split at h
    · exact (Except.ok.inj h).symm
    · cases h

/-- An order that has identifiers takes over answers with these. -/
theorem identifiers_eq_of_refreshed {had answer content : Order} (hne : had.identifiers ≠ [])
    (h : had.refreshed answer = .ok content) : content.identifiers = had.identifiers := by
  rw [eq_keepingIdentifiers_of_refreshed h, keepingIdentifiers, if_neg hne]

end Resource.Order

/-- An order that has identifiers never gets other ones. -/
theorem Order.identifiers_eq_of_follows {order order' : Order}
    (hne : order.content.identifiers ≠ []) (h : order.Follows order') :
    order'.content.identifiers = order.content.identifiers := by
  induction h with
  | refl => rfl
  | accept answer content _ accepted ih =>
    exact (Resource.Order.identifiers_eq_of_refreshed (ih ▸ hne) accepted).trans ih

end AcmeClient

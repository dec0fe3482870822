import AcmeClient.Proofs.Identifier.Rearrangement
import AcmeClient.Proofs.Tracked.Answers

/-!
# Answers about an order's own identifiers

An order is to take over an answer exactly if that lists the order's identifiers, each once, in any
order and spelling. The order compares the numbers of identifiers and looks for each identifier of
the answer among its own. That does what it is to do, except for answers that repeat an identifier
in place of another one, which it takes over as well.
-/

namespace AcmeClient

open Attempt Identifier

namespace Resource.Order

/-- A list agrees with one's own if it is as long and has no other identifiers. -/
theorem agrees_iff (had got : List Identifier) :
    agrees had got = true ↔ got.length = had.length ∧ ∀ i ∈ got, i.isIn had = true := by
  simp only [agrees, Bool.and_eq_true, beq_iff_eq, List.all_eq_true]

/-- For a list without repetition, what agrees with it rearranges it or repeats some of it. -/
theorem agrees_iff_rearranges_or_repeats {had : List Identifier} (hhad : Distinct had)
    (got : List Identifier) :
    agrees had got = true ↔ Rearranges got had ∨ Repeats got had := by
  rw [agrees_iff, rearranges_iff hhad]
  constructor
  · intro h
    by_cases hrepeats : Repeats got had
    · exact Or.inr hrepeats
    · exact Or.inl ⟨h, hrepeats⟩
  · rintro (h | h)
    · exact h.1
    · exact ⟨h.1, h.2.1⟩

variable {had answer : Order}

/-- An answer that agrees is taken over with one's own identifiers. -/
theorem refreshed_of_agrees (hne : had.identifiers ≠ [])
    (h : agrees had.identifiers answer.identifiers = true) :
    had.refreshed answer = .ok { answer with identifiers := had.identifiers } := by
  rw [refreshed, if_neg hne, if_pos h]

/-- An answer that does not agree is refused. -/
theorem refreshed_of_not_agrees (hne : had.identifiers ≠ [])
    (h : ¬agrees had.identifiers answer.identifiers = true) :
    had.refreshed answer =
      .error (.protocolViolation (.identifierMismatch had.identifiers answer.identifiers)) := by
  rw [refreshed, if_neg hne, if_neg h]

end Resource.Order

namespace Order

open Resource.Order

variable (order : Order) (s : Session) (response : Http.Response) (answer : Resource.Order)

/-- The order with an answer taken over but for the identifiers. -/
def taking : Order :=
  { order with content := { answer with identifiers := order.content.identifiers } }

/-- What is promised of an answer about an order: one that lists the order's identifiers is taken
over, and any other one is refused and changes nothing. -/
def TakesOwn : Prop :=
  Rearranges answer.identifiers order.content.identifiers ∧
    (Tracked.adopt response).run (s, order) = (.ok (), s, order.taking answer) ∨
  ¬Rearranges answer.identifiers order.content.identifiers ∧
    (Tracked.adopt response).run (s, order) =
      (.error (.protocolViolation
        (.identifierMismatch order.content.identifiers answer.identifiers)), s, order)

variable {order response answer}

/-- Taking over an answer ends as the comparison of the identifiers says. -/
theorem run_adopt_of_decode (h : response.decode Resource.Order.codec = .ok answer) :
    (Tracked.adopt response).run (s, order) =
      match order.content.refreshed answer with
      | .ok content => (.ok (), s, { order with content })
      | .error e => (.error e, s, order) := by
  have hdecode : response.decode (Described.codec (α := Resource.Order)) = .ok answer := h
  have hanswered : order.answered response =
      (order.content.refreshed answer).bind fun content => .ok { order with content } := by
    unfold Tracked.answered
    rw [hdecode]
    rfl
  rw [Tracked.run_adopt, Tracked.settle, hanswered]
  cases order.content.refreshed answer <;> rfl

/-- An answer that agrees is taken over. -/
theorem run_adopt_of_agrees (hne : order.content.identifiers ≠ [])
    (hdecode : response.decode Resource.Order.codec = .ok answer)
    (h : agrees order.content.identifiers answer.identifiers = true) :
    (Tracked.adopt response).run (s, order) = (.ok (), s, order.taking answer) := by
  rw [run_adopt_of_decode s hdecode, refreshed_of_agrees hne h]
  rfl

/-- An answer that does not agree is refused. -/
theorem run_adopt_of_not_agrees (hne : order.content.identifiers ≠ [])
    (hdecode : response.decode Resource.Order.codec = .ok answer)
    (h : ¬agrees order.content.identifiers answer.identifiers = true) :
    (Tracked.adopt response).run (s, order) =
      (.error (.protocolViolation
        (.identifierMismatch order.content.identifiers answer.identifiers)), s, order) := by
  rw [run_adopt_of_decode s hdecode, refreshed_of_not_agrees hne h]

/-- An answer that repeats identifiers in place of others is taken over. -/
theorem run_adopt_of_repeats (hne : order.content.identifiers ≠ [])
    (hdistinct : Distinct order.content.identifiers)
    (hdecode : response.decode Resource.Order.codec = .ok answer)
    (h : Repeats answer.identifiers order.content.identifiers) :
    (Tracked.adopt response).run (s, order) = (.ok (), s, order.taking answer) ∧
      ¬Rearranges answer.identifiers order.content.identifiers := by
  refine ⟨run_adopt_of_agrees s hne hdecode ?_, fun hown => ?_⟩
  · exact (agrees_iff_rearranges_or_repeats hdistinct _).mpr (Or.inr h)
  · exact ((rearranges_iff hdistinct).mp hown).2 h

/-- An order does as promised with an answer exactly if that does not repeat identifiers in place
of others. -/
theorem takesOwn_iff_not_repeats (hne : order.content.identifiers ≠ [])
    (hdistinct : Distinct order.content.identifiers)
    (hdecode : response.decode Resource.Order.codec = .ok answer) :
    order.TakesOwn s response answer ↔
      ¬Repeats answer.identifiers order.content.identifiers := by
  have hagrees := agrees_iff_rearranges_or_repeats hdistinct answer.identifiers
  constructor
  · intro h hrepeats
    obtain ⟨hrun, hother⟩ := run_adopt_of_repeats s hne hdistinct hdecode hrepeats
    rcases h with ⟨hown, _⟩ | ⟨_, hrefused⟩
    · exact hother hown
    · rw [hrun] at hrefused
      cases hrefused
  · intro hrepeats
    by_cases hown : Rearranges answer.identifiers order.content.identifiers
    · exact Or.inl ⟨hown, run_adopt_of_agrees s hne hdecode (hagrees.mpr (Or.inl hown))⟩
    · refine Or.inr ⟨hown, run_adopt_of_not_agrees s hne hdecode fun h => ?_⟩
      exact (hagrees.mp h).elim hown hrepeats

/-- The case of an order for two domains and an answer that lists both the other way round. -/
theorem takesOwn_iff_not_repeats_reversed :
    let order : Order := {
      owner := ⟨⟨1, by decide, by decide⟩, "http://localhost/account"⟩
      location := "http://localhost/order"
      content := { identifiers := [⟨"dns", "b.example", none⟩, ⟨"dns", "a.example", none⟩] } }
    let answer : Resource.Order := {
      status := .ready
      identifiers := [⟨"dns", "a.example", none⟩, ⟨"dns", "b.example", none⟩] }
    let response : Http.Response :=
      ⟨"http://localhost/order", { status := ⟨200⟩, body := Resource.Order.codec.write answer }⟩
    let s : Session := {
      uri := { scheme := "http", hasAuthority := true, host := some (.domain "localhost") }
      provider := .generic }
    order.content.identifiers ≠ [] ∧ Distinct order.content.identifiers ∧
      response.decode Resource.Order.codec = .ok answer ∧
      (order.TakesOwn s response answer ↔
        ¬Repeats answer.identifiers order.content.identifiers) := by
  intro order answer response s
  have hne : order.content.identifiers ≠ [] := by decide
  have hdistinct : Distinct order.content.identifiers := by
    unfold Distinct
    decide
  have hdecode : response.decode Resource.Order.codec = .ok answer := by rfl
  exact ⟨hne, hdistinct, hdecode, takesOwn_iff_not_repeats s hne hdistinct hdecode⟩

/-- An order for two domains takes over an answer that lists the first one twice, so an answer
without one of its identifiers. -/
theorem takes_repeated_identifier :
    let order : Order := {
      owner := ⟨⟨1, by decide, by decide⟩, "http://localhost/account"⟩
      location := "http://localhost/order"
      content := { identifiers := [⟨"dns", "a.example", none⟩, ⟨"dns", "b.example", none⟩] } }
    let answer : Resource.Order := {
      status := .ready
      identifiers := [⟨"dns", "a.example", none⟩, ⟨"dns", "a.example", none⟩] }
    let response : Http.Response :=
      ⟨"http://localhost/order", { status := ⟨200⟩, body := Resource.Order.codec.write answer }⟩
    let s : Session := {
      uri := { scheme := "http", hasAuthority := true, host := some (.domain "localhost") }
      provider := .generic }
    order.content.identifiers ≠ [] ∧ Distinct order.content.identifiers ∧
      response.decode Resource.Order.codec = .ok answer ∧
      ¬Rearranges answer.identifiers order.content.identifiers ∧
      (Tracked.adopt response).run (s, order) = (.ok (), s, order.taking answer) := by
  intro order answer response s
  have hne : order.content.identifiers ≠ [] := by decide
  have hdistinct : Distinct order.content.identifiers := by
    unfold Distinct
    decide
  have hdecode : response.decode Resource.Order.codec = .ok answer := by rfl
  have hrepeats : Repeats answer.identifiers order.content.identifiers := by
    unfold Repeats Distinct
    decide
  obtain ⟨hrun, hother⟩ := run_adopt_of_repeats s hne hdistinct hdecode hrepeats
  exact ⟨hne, hdistinct, hdecode, hother, hrun⟩

end Order

end AcmeClient

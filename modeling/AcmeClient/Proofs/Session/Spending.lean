import AcmeClient.Proofs.Session.Requests

/-!
# Where nonces come from

A nonce comes with the response to a message, or with the success of a request for one. It is
unused until the next message is sent. If every message takes an unused nonce, no two of them have
theirs from the same exchange.
-/

namespace AcmeClient

namespace Http

/-- Whether a directory that arrived names an address as the place for nonces. -/
def Lists (l : List Exchange) (address : Url) : Prop :=
  ∃ e ∈ l, e.request.method = .get ∧ ∃ reply, e.reply = some reply ∧
    reply.status.isSuccess = true ∧ ∃ d, Resource.Directory.codec.decode reply.body = .ok d ∧
      address? d.newNonce = some address

/-- Whether the exchange at a position brings a nonce: as the response to a message, or as the
success of a request to the place for nonces. -/
def Brings (l : List Exchange) (k : Nat) (nonce : String) : Prop :=
  ∃ e, l[k]? = some e ∧ e.nonce? = some nonce ∧
    (e.isPost = true ∨
      e.request.method = .head ∧ e.grantedNonce? = some nonce ∧ Lists (l.take k) e.request.url)

/-- Whether the exchange at a position brings a nonce that no message can have used. -/
def Unused (l : List Exchange) (k : Nat) (nonce : String) : Prop :=
  Brings l k nonce ∧ ∀ j e, k < j → l[j]? = some e → e.isPost = false

/-- Whether every message has a nonce that was unused before. -/
def Spent (l : List Exchange) : Prop :=
  ∀ i x, l[i]? = some x → x.isPost = true →
    ∃ m k, x.request.message = some m ∧ Unused (l.take i) k m.header.nonce

variable {l : List Exchange} {x : Exchange} {k : Nat} {nonce : String}

/-- What a directory lists stays listed. -/
theorem Lists.append {address : Url} (h : Lists l address) (m : List Exchange) :
    Lists (l ++ m) address := by
  obtain ⟨e, he, h⟩ := h
  exact ⟨e, List.mem_append_left m he, h⟩

namespace Brings

/-- Only exchanges that took place bring nonces. -/
theorem lt (h : Brings l k nonce) : k < l.length := by
  obtain ⟨e, he, _⟩ := h
  exact (List.getElem?_eq_some_iff.mp he).1

/-- A nonce that was brought stays so. -/
theorem append (h : Brings l k nonce) (m : List Exchange) : Brings (l ++ m) k nonce := by
  have hlt := h.lt
  unfold Brings at h ⊢
  rwa [List.getElem?_append_left hlt, List.take_append_of_le_length (Nat.le_of_lt hlt)]

/-- A nonce that was brought before a position was brought. -/
theorem of_take {i : Nat} (h : Brings (l.take i) k nonce) : k < i ∧ Brings l k nonce := by
  have hlt := h.lt
  rw [List.length_take] at hlt
  have happend := h.append (l.drop i)
  rw [List.take_append_drop] at happend
  exact ⟨by omega, happend⟩

/-- A nonce that is brought is well-formed. -/
theorem isUrlText (h : Brings l k nonce) : Base64.isUrlText nonce = true := by
  obtain ⟨e, _, hnonce, _⟩ := h
  obtain ⟨reply, _, hreply⟩ := Option.bind_eq_some_iff.mp hnonce
  exact (Option.filter_eq_some_iff.mp hreply).2

end Brings

/-- A nonce stays unused until a message is sent. -/
theorem Unused.append (h : Unused l k nonce) (hx : x.isPost = false) :
    Unused (l ++ [x]) k nonce := by
  refine ⟨h.1.append [x], ?_⟩
  intro j e hj he
  rw [List.getElem?_append] at he
  split at he
  · exact h.2 j e hj he
  · obtain ⟨_, rfl⟩ := List.mem_singleton.mp (List.mem_of_getElem? he)
    exact hx

/-- The nonce of the last exchange is unused. -/
theorem unused_last (h : Brings (l ++ [x]) l.length nonce) : Unused (l ++ [x]) l.length nonce := by
  refine ⟨h, ?_⟩
  intro j e hj he
  have := (List.getElem?_eq_some_iff.mp he).1
  rw [List.length_append, List.length_singleton] at this
  omega

/-- The response to a message brings its nonce. -/
theorem unused_of_isPost (hx : x.isPost = true) (hn : x.nonce? = some nonce) :
    Unused (l ++ [x]) l.length nonce :=
  unused_last ⟨x, List.getElem?_concat_length, hn, Or.inl hx⟩

/-- A granted nonce is a nonce that came back. -/
theorem nonce?_of_grantedNonce? (h : x.grantedNonce? = some nonce) : x.nonce? = some nonce := by
  obtain ⟨reply, hreply, h⟩ := Option.bind_eq_some_iff.mp h
  split at h
  · exact Option.bind_eq_some_iff.mpr ⟨reply, hreply, h⟩
  · cases h

/-- A request to the place for nonces brings the nonce that is granted. -/
theorem unused_of_isHead (hx : x.request.method = .head) (hn : x.grantedNonce? = some nonce)
    (hl : Lists l x.request.url) : Unused (l ++ [x]) l.length nonce := by
  refine unused_last ⟨x, List.getElem?_concat_length, nonce?_of_grantedNonce? hn,
    Or.inr ⟨hx, hn, ?_⟩⟩
  rwa [List.take_left]

/-- Messages that were sent keep their nonces, and the next one takes an unused one. -/
theorem Spent.append (h : Spent l)
    (hx : x.isPost = true → ∃ m k, x.request.message = some m ∧ Unused l k m.header.nonce) :
    Spent (l ++ [x]) := by
  intro i y hy hpost
  rw [List.getElem?_append] at hy
  split at hy
  · rename_i hi
    rw [List.take_append_of_le_length (Nat.le_of_lt hi)]
    exact h i y hy hpost
  · have hlt := (List.getElem?_eq_some_iff.mp hy).1
    have hi : i = l.length := by
      rw [List.length_singleton] at hlt
      omega
    subst hi
    simp only [Nat.sub_self, List.getElem?_cons_zero, Option.some.injEq] at hy
    subst hy
    rw [List.take_left]
    exact hx hpost

/-- A nonce that is unused at a position is not from before a message that precedes it. -/
theorem Unused.not_lt {i j : Nat} (h : Unused (l.take j) k nonce) (hk : k < i)
    (hi : l[i]? = some x) (hx : x.isPost = true) : ¬i < j := by
  intro hij
  have hpost := h.2 i x hk (by rwa [List.getElem?_take_of_lt hij])
  rw [hx] at hpost
  cases hpost

/-- There is a place from which a message, if there is one, has taken its nonce. -/
theorem Spent.exists_position (h : Spent l) (i : Nat) :
    ∃ k, ∀ x, l[i]? = some x → x.isPost = true →
      ∃ m, x.request.message = some m ∧ Unused (l.take i) k m.header.nonce := by
  cases hi : l[i]? with
  | none => exact ⟨0, fun x hx => by cases hx⟩
  | some x =>
    by_cases hx : x.isPost = true
    · obtain ⟨m, k, hm, hk⟩ := h i x hi hx
      refine ⟨k, fun y hy _ => ?_⟩
      obtain rfl := Option.some.inj hy
      exact ⟨m, hm, hk⟩
    · refine ⟨0, fun y hy hpost => ?_⟩
      obtain rfl := Option.some.inj hy
      exact absurd hpost hx

/-- Messages have their nonces from different exchanges. -/
theorem Spent.exists_source (h : Spent l) :
    ∃ source : Nat → Nat,
      (∀ i x, l[i]? = some x → x.isPost = true → source i < i ∧
        ∃ m, x.request.message = some m ∧ Brings l (source i) m.header.nonce) ∧
      ∀ i j x y, l[i]? = some x → x.isPost = true → l[j]? = some y → y.isPost = true →
        source i = source j → i = j := by
  obtain ⟨source, hsource⟩ := Classical.skolem.mp h.exists_position
  refine ⟨source, ?_, ?_⟩
  · intro i x hi hx
    obtain ⟨m, hm, hunused⟩ := hsource i x hi hx
    exact ⟨hunused.1.of_take.1, m, hm, hunused.1.of_take.2⟩
  · intro i j x y hi hx hj hy heq
    obtain ⟨_, _, hunusedi⟩ := hsource i x hi hx
    obtain ⟨_, _, hunusedj⟩ := hsource j y hj hy
    -- of two messages with one source, each would have used the nonce up before the other
    have hij := hunusedj.not_lt (heq ▸ hunusedi.1.of_take.1) hi hx
    have hji := hunusedi.not_lt (heq ▸ hunusedj.1.of_take.1) hj hy
    omega

end Http

end AcmeClient

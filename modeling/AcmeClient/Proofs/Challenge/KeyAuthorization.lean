import AcmeClient.Challenge.Kind
import AcmeClient.Proofs.Client.Messages
import AcmeClient.Proofs.Jws.Thumbprint
import AcmeClient.Proofs.Text.Cutting

/-!
# Key authorizations

A proof by token is made from a challenge exactly if its token is fit for URLs. The authorization is
the token and the thumbprint of the account's key with one full stop between them, so both can be
told from it. A server computes the thumbprint from the messages that find or create the account.
-/

namespace AcmeClient

open Base64 (IsUrlSymbol not_mem_of_isUrlSymbol)

/-- The proof by token that a challenge of a kind carries. -/
def TypedChallenge.proof? : TypedChallenge → Option TokenProof
  | http01 p | dns01 p | tlsAlpn01 p => some p
  | dnsPersist01 _ | generic _ => none

/-- Whether a challenge has a token, which is not empty and has letters and digits of ASCII, hyphens
and low lines only. -/
def Challenge.HasToken (c : Challenge) : Prop :=
  ∃ token, c.content.token = some token ∧ token ≠ "" ∧ ∀ ch ∈ token.toList, IsUrlSymbol ch

/-- Whatever message is sent to find or create the account of a key, a server computes the
thumbprint of the key from it. -/
theorem Session.thumbprint_of_account (key : SigningKey) (wanted : Resource.Account) (s : Session) :
    ∃ sent, ((account key wanted).run s).2.wire.exchanges = s.wire.exchanges ++ sent ∧
      ∀ e ∈ sent, ∀ message, e.request.message = some message →
        (Jws.embeddedKey? message.write).bind Jwk.thumbprintOf? =
          some (Jwk.ofKey key).thumbprint := by
  have hposts : s.Posts (fun d draft => draft = wanted.draft key d)
      ((account key wanted).run s).2 :=
    (Posts.discipline fun d draft => draft = wanted.draft key d).account (fun _ => rfl) s
  obtain ⟨sent, hsent, hcarries⟩ := hposts.exchanges
  refine ⟨sent, hsent, fun e he message hmessage => ?_⟩
  cases hcarries e he with
  | nothing _ hnone => exact nomatch hnone.symm.trans hmessage
  | message draft nonce allowed _ hsigned =>
    obtain ⟨d, _, rfl⟩ := allowed
    obtain rfl := Option.some.inj (hsigned.symm.trans hmessage)
    exact Jwk.thumbprint_of_embeddedKey rfl _ _ _

namespace TokenProof

variable {c c' : Challenge} {k : ChallengeKind} {t : TypedChallenge} {p p' : TokenProof}

/-- A proof is made of a challenge and its token. -/
theorem ofChallenge_eq_ok_iff : ofChallenge c = .ok p ↔
    p.challenge = c ∧ c.content.token = some p.token ∧ Base64.isUrlText p.token = true := by
  unfold ofChallenge
  obtain ⟨challenge, token⟩ := p
  cases htoken : c.content.token with
  | none => simp
  | some found =>
    by_cases hfit : Base64.isUrlText found = true
    · simp only [hfit, if_true, Except.ok.injEq, mk.injEq, Option.some.injEq]
      constructor
      · rintro ⟨rfl, rfl⟩
        exact ⟨rfl, rfl, hfit⟩
      · rintro ⟨rfl, rfl, _⟩
        exact ⟨rfl, rfl⟩
    · simp only [hfit, Option.some.injEq]
      refine iff_of_false (by simp) ?_
      rintro ⟨_, rfl, h⟩
      exact hfit h

/-- A challenge that needs a token is taken as one of its kind together with its proof. -/
theorem wrap_eq_ok_iff (h : k ≠ .dnsPersist01) : k.wrap c = .ok t ↔
    ∃ p, ofChallenge c = .ok p ∧ t.proof? = some p ∧ t.kind? = some k := by
  cases k with
  | dnsPersist01 => exact absurd rfl h
  | http01 | dns01 | tlsAlpn01 =>
    simp only [ChallengeKind.wrap, map_eq_ok_iff]
    cases t <;> simp [TypedChallenge.proof?, TypedChallenge.kind?]

/-- A challenge has a proof exactly if it has a token. -/
theorem exists_ofChallenge_iff : (∃ p, ofChallenge c = .ok p) ↔ c.HasToken := by
  simp only [ofChallenge_eq_ok_iff, Base64.isUrlText_iff]
  constructor
  · rintro ⟨p, _, htoken, hfit⟩
    exact ⟨p.token, htoken, hfit⟩
  · rintro ⟨token, htoken, hfit⟩
    exact ⟨⟨c, token⟩, rfl, htoken, hfit⟩

/-- The characters of an authorization. -/
theorem toList_authorization (p : TokenProof) : p.authorization.toList =
    p.token.toList ++ '.' :: (Jwk.ofKey p.challenge.owner.key).thumbprint.toList := by
  simp [authorization]

/-- What comes before the first full stop of an authorization is the token. -/
theorem authorization_eq_iff (hp : '.' ∉ p.token.toList) (hp' : '.' ∉ p'.token.toList) :
    p.authorization = p'.authorization ↔ p.token = p'.token ∧
      (Jwk.ofKey p.challenge.owner.key).thumbprint =
        (Jwk.ofKey p'.challenge.owner.key).thumbprint := by
  have hcut {cs : List Char} (h : '.' ∉ cs) (rest : List Char) :
      (cs ++ '.' :: rest).takeWhile (· != '.') = cs := by
    have hkept : ∀ ch ∈ cs, (ch != '.') = true := by
      intro ch hch
      exact bne_iff_ne.mpr (ne_of_mem_of_not_mem hch h)
    exact (Text.span_append hkept (by simp)).1
  constructor
  · intro heq
    have hlists := congrArg String.toList heq
    rw [toList_authorization, toList_authorization] at hlists
    have htoken : p.token.toList = p'.token.toList := by
      rw [← hcut hp, hlists, hcut hp']
    rw [htoken] at hlists
    exact ⟨String.toList_injective htoken,
      String.toList_injective (List.cons.inj (List.append_cancel_left hlists)).2⟩
  · rintro ⟨htoken, hthumbprint⟩
    rw [authorization, authorization, htoken, hthumbprint]

/-- Whether a text is the authorization of a token by a key. -/
structure IsKeyAuthorization (key : SigningKey) (token text thumbprint : String) : Prop where
  /-- The token and the thumbprint stand on either side of the only full stop. -/
  parts : text = token ++ "." ++ thumbprint
  single : text.toList.count '.' = 1
  length_thumbprint : thumbprint.length = 43
  /-- The thumbprint is the digest of the coordinates, each in 32 octets, as members in a fixed
  order without blanks. -/
  digested : ∃ x y : Bytes, x.length = 32 ∧ y.length = 32 ∧
    Bytes.toNat x = key.publicPoint.x ∧ Bytes.toNat y = key.publicPoint.y ∧
    thumbprint = Base64.encodeUrl (Sha256.digest (Utf8.encode
      (Jwk.canonicalText (Base64.encodeUrl x) (Base64.encodeUrl y))))
  /-- A server computes it from every message that asks for the account of the key. -/
  served : ∀ (wanted : Resource.Account) (s : Session), ∃ sent,
    ((Session.account key wanted).run s).2.wire.exchanges = s.wire.exchanges ++ sent ∧
      ∀ e ∈ sent, ∀ message, e.request.message = some message →
        (Jws.embeddedKey? message.write).bind Jwk.thumbprintOf? = some thumbprint

/-- The authorization of a proof whose token has symbols for URLs only. -/
theorem isKeyAuthorization (p : TokenProof) (h : ∀ ch ∈ p.token.toList, IsUrlSymbol ch) :
    IsKeyAuthorization p.challenge.owner.key p.token p.authorization
      (Jwk.ofKey p.challenge.owner.key).thumbprint where
  parts := rfl
  single := by
    have hthumbprint : '.' ∉ (Jwk.ofKey p.challenge.owner.key).thumbprint.toList :=
      not_mem_of_isUrlSymbol Base64.isUrlSymbol_of_mem_encodeUrl
    rw [toList_authorization, List.count_append, List.count_cons_self,
      List.count_eq_zero_of_not_mem (not_mem_of_isUrlSymbol h),
      List.count_eq_zero_of_not_mem hthumbprint]
  length_thumbprint := by rw [Jwk.thumbprint, Base64.length_encodeUrl, Sha256.length_digest]
  digested := by
    obtain ⟨hx, hy⟩ := p.challenge.owner.key.toNat_publicPoint
    refine ⟨_, _, Octets.length_fixed 32 _, Octets.length_fixed 32 _, hx, hy, ?_⟩
    rw [Jwk.thumbprint, Jwk.writeEssential_eq]
    rfl
  served := Session.thumbprint_of_account _

/-- Challenges that need a token can be taken as one of their kind exactly if they have one. Then
the authorization is the token and the thumbprint of the account's key with one full stop between
them, the digest that is published as text is the one that goes into a certificate, and two
authorizations are equal exactly if the tokens and the thumbprints are. -/
theorem keyAuthorization_of_challenge (c : Challenge) :
    (∀ k : ChallengeKind, k ≠ .dnsPersist01 → ((∃ t, k.wrap c = .ok t) ↔ c.HasToken)) ∧
    (∀ (k : ChallengeKind) (t : TypedChallenge), k ≠ .dnsPersist01 → k.wrap c = .ok t → ∃ p,
      t.proof? = some p ∧ t.kind? = some k ∧ p.challenge = c ∧
      c.content.token = some p.token ∧
      IsKeyAuthorization c.owner.key p.token p.authorization (Jwk.ofKey c.owner.key).thumbprint ∧
      p.validation = Sha256.digest (Utf8.encode p.authorization) ∧ p.validation.length = 32 ∧
      p.digest = Base64.encodeUrl p.validation ∧
      Base64.decodeUrl? p.digest = some p.validation) ∧
    (∀ (c' : Challenge) (k k' : ChallengeKind) (t t' : TypedChallenge) (p p' : TokenProof),
      k.wrap c = .ok t → k'.wrap c' = .ok t' →
      t.proof? = some p → t'.proof? = some p' →
      (p.authorization = p'.authorization ↔ p.token = p'.token ∧
        (Jwk.ofKey c.owner.key).thumbprint = (Jwk.ofKey c'.owner.key).thumbprint)) := by
  have hproof {c : Challenge} {k : ChallengeKind} {t : TypedChallenge} {p : TokenProof}
      (h : k.wrap c = .ok t) (hp : t.proof? = some p) :
      p.challenge = c ∧ '.' ∉ p.token.toList := by
    have hk : k ≠ .dnsPersist01 := by
      rintro rfl
      obtain rfl := Except.ok.inj h
      exact nomatch hp
    obtain ⟨q, hq, hqt, _⟩ := (wrap_eq_ok_iff hk).mp h
    obtain rfl := Option.some.inj (hqt.symm.trans hp)
    obtain ⟨rfl, _, hfit⟩ := ofChallenge_eq_ok_iff.mp hq
    exact ⟨rfl, not_mem_of_isUrlSymbol ((Base64.isUrlText_iff _).mp hfit).2⟩
  refine ⟨fun k hk => ?_, fun k t hk h => ?_, fun c' k k' t t' p p' h h' hp hp' => ?_⟩
  · rw [← exists_ofChallenge_iff]
    simp only [wrap_eq_ok_iff hk]
    constructor
    · rintro ⟨_, p, hp, _⟩
      exact ⟨p, hp⟩
    · rintro ⟨p, hp⟩
      cases k with
      | dnsPersist01 => exact absurd rfl hk
      | http01 => exact ⟨.http01 p, p, hp, rfl, rfl⟩
      | dns01 => exact ⟨.dns01 p, p, hp, rfl, rfl⟩
      | tlsAlpn01 => exact ⟨.tlsAlpn01 p, p, hp, rfl, rfl⟩
  · obtain ⟨p, hp, hpt, hkind⟩ := (wrap_eq_ok_iff hk).mp h
    obtain ⟨rfl, htoken, hfit⟩ := ofChallenge_eq_ok_iff.mp hp
    exact ⟨p, hpt, hkind, rfl, htoken,
      isKeyAuthorization p ((Base64.isUrlText_iff _).mp hfit).2, rfl,
      Sha256.length_digest _, rfl, Base64.decodeUrl?_encodeUrl _⟩
  · obtain ⟨rfl, hfit⟩ := hproof h hp
    obtain ⟨rfl, hfit'⟩ := hproof h' hp'
    exact authorization_eq_iff hfit hfit'

end TokenProof

end AcmeClient

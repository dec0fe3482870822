import AcmeClient.Challenge.Basic
import AcmeClient.Proofs.Challenge.KeyAuthorization

/-!
# Looking up challenges

The challenges of an authorization can be looked up by type or by kind, or all be taken as what
they are. All three ways agree on which challenge comes first and on what it is taken as. They
differ in how much they ask for: a token that is missing is a failure only where it is needed, for
the one challenge that is looked up or for any of the list.
-/

namespace AcmeClient

/-- Whether a challenge is taken as what it is: as one of the known kind that has its type, with its
token if there is one in the proof, or else as a generic one. -/
structure TypedChallenge.IsTakenFrom (t : TypedChallenge) (c : Challenge) : Prop where
  challenge : t.challenge = c
  kind : ∀ k, t.kind? = some k ↔ c.content.type = k.type
  token : ∀ p, t.proof? = some p → c.content.token = some p.token

/-- Whether a challenge can be taken as one of a kind. -/
def Challenge.Suits (c : Challenge) (k : ChallengeKind) : Prop := k ≠ .dnsPersist01 → c.HasToken

variable {c : Challenge} {k : ChallengeKind} {t : TypedChallenge}

namespace ChallengeKind

/-- Different kinds have different types. -/
theorem type_inj {k' : ChallengeKind} : k.type = k'.type ↔ k = k' := by
  constructor
  · intro h
    have hk := ofType?_type k
    rw [h, ofType?_type] at hk
    exact (Option.some.inj hk).symm
  · rintro rfl
    rfl

/-- What a challenge is taken as is the challenge itself, of the kind that was asked for. -/
theorem of_wrap_eq_ok (h : k.wrap c = .ok t) : t.challenge = c ∧ t.kind? = some k ∧
    ∀ p, t.proof? = some p → c.content.token = some p.token := by
  by_cases hk : k = .dnsPersist01
  · subst hk
    obtain rfl := Except.ok.inj h
    exact ⟨rfl, rfl, by simp [TypedChallenge.proof?]⟩
  · obtain ⟨p, hp, hproof, hkind⟩ := (TokenProof.wrap_eq_ok_iff hk).mp h
    obtain ⟨rfl, htoken, -⟩ := TokenProof.ofChallenge_eq_ok_iff.mp hp
    refine ⟨?_, hkind, ?_⟩
    · cases t <;> simp_all [TypedChallenge.proof?, TypedChallenge.challenge]
    · intro p' hp'
      rw [hproof] at hp'
      obtain rfl := Option.some.inj hp'
      exact htoken

/-- A challenge can be taken as one of a kind exactly if it suits the kind. -/
theorem exists_wrap_iff : (∃ t, k.wrap c = .ok t) ↔ c.Suits k := by
  by_cases hk : k = .dnsPersist01
  · subst hk
    exact iff_of_true ⟨_, rfl⟩ fun h => absurd rfl h
  · have hproof : (∃ t, k.wrap c = .ok t) ↔ ∃ p, TokenProof.ofChallenge c = .ok p := by
      cases k <;> simp_all [wrap, map_eq_ok_iff]
    rw [hproof, TokenProof.exists_ofChallenge_iff]
    exact ⟨fun h _ => h, fun h => h hk⟩

end ChallengeKind

namespace Authorization

variable {a : Authorization} {l : List TypedChallenge}

/-- A challenge of a known type is taken as one of its kind. -/
theorem typed_of_type (h : c.content.type = k.type) : typed c = k.wrap c := by
  have hkind : ChallengeKind.all.find? (·.type = c.content.type) = some k := by
    rw [h]
    exact k.ofType?_type
  unfold typed ChallengeKind.wrapFirst
  rw [hkind]
  dsimp only
  cases k.wrap c <;> rfl

/-- A challenge of any other type is taken as a generic one. -/
theorem typed_of_other (h : ∀ k : ChallengeKind, c.content.type ≠ k.type) :
    typed c = .ok (.generic c) := by
  have hkind : ChallengeKind.all.find? (·.type = c.content.type) = none := by
    apply List.find?_eq_none.mpr
    intro k _
    simpa using (h k).symm
  unfold typed ChallengeKind.wrapFirst
  rw [hkind]
  rfl

/-- What a challenge is taken as is what it is. -/
theorem isTakenFrom_of_typed (h : typed c = .ok t) : t.IsTakenFrom c := by
  by_cases hknown : ∃ k : ChallengeKind, c.content.type = k.type
  · obtain ⟨k, hk⟩ := hknown
    rw [typed_of_type hk] at h
    obtain ⟨hchallenge, hkind, htoken⟩ := ChallengeKind.of_wrap_eq_ok h
    refine ⟨hchallenge, fun k' => ?_, htoken⟩
    rw [hkind, hk, ChallengeKind.type_inj, Option.some.injEq]
  · rw [not_exists] at hknown
    rw [typed_of_other hknown] at h
    obtain rfl := Except.ok.inj h
    refine ⟨rfl, fun k => ?_, by simp [TypedChallenge.proof?]⟩
    simp [TypedChallenge.kind?, hknown k]

/-- A challenge can be taken as what it is unless it lacks a token that its kind needs. -/
theorem exists_typed_iff :
    (∃ t, typed c = .ok t) ↔ ∀ k : ChallengeKind, c.content.type = k.type → c.Suits k := by
  by_cases hknown : ∃ k : ChallengeKind, c.content.type = k.type
  · obtain ⟨k, hk⟩ := hknown
    rw [typed_of_type hk, ChallengeKind.exists_wrap_iff]
    constructor
    · intro hsuits k' hk'
      rw [hk, ChallengeKind.type_inj] at hk'
      exact hk' ▸ hsuits
    · exact fun h => h k hk
  · rw [not_exists] at hknown
    exact iff_of_true ⟨_, typed_of_other hknown⟩ fun k hk => absurd hk (hknown k)

/-- The first challenge of a type is found. -/
theorem find?_eq (type : String) : a.find? type = a.challenges.find? (·.content.type = type) := by
  rw [challenges, List.find?_map]
  rfl

/-- Looking up a kind takes the first challenge of its type as one of the kind. -/
theorem findKind_eq : a.findKind k = match a.find? k.type with
    | none => .ok none
    | some c => (k.wrap c).map some := by
  unfold findKind find? Resource.Authorization.challenge?
  cases a.content.challenges.find? (·.type = k.type) <;> rfl

/-- All challenges are taken as what they are, one by one. -/
theorem typedChallenges_eq_ok_iff : a.typedChallenges = .ok l ↔
    List.Forall₂ (fun c t => typed c = .ok t) a.challenges l := mapM_eq_ok_iff

/-- If all challenges can be taken as what they are, the first one of a kind among them is the one
that looking up the kind finds. -/
theorem findKind_eq_find? (h : a.typedChallenges = .ok l) (k : ChallengeKind) :
    a.findKind k = .ok (l.find? (·.kind? = some k)) := by
  rw [typedChallenges_eq_ok_iff] at h
  rw [findKind_eq, find?_eq]
  generalize a.challenges = challenges at h ⊢
  -- along both lists: the first challenge of the type is the partner of the first of the kind
  induction h with
  | nil => rfl
  | @cons c t cs ts hc _ ih =>
    have hkind := (isTakenFrom_of_typed hc).kind k
    by_cases htype : c.content.type = k.type
    · rw [List.find?_cons_of_pos (by simpa using htype),
        List.find?_cons_of_pos (by simpa using hkind.mpr htype)]
      rw [typed_of_type htype] at hc
      dsimp only
      rw [hc]
      rfl
    · rw [List.find?_cons_of_neg (by simpa using htype),
        List.find?_cons_of_neg (by simpa using fun hk => htype (hkind.mp hk))]
      exact ih

/-- The ways to look up challenges agree. All challenges can be taken as what they are exactly if
each one suits the kind of its type; then they are that, one by one. A kind is found exactly if its
type is, in the same first challenge; that fails exactly if this challenge does not suit the kind,
and what it finds is the first of the kind among all challenges, if all of them can be taken as what
they are. -/
theorem lookups_agree (a : Authorization) :
    ((∃ l, a.typedChallenges = .ok l) ↔
      ∀ c ∈ a.challenges, ∀ k : ChallengeKind, c.content.type = k.type → c.Suits k) ∧
    (∀ l, a.typedChallenges = .ok l → List.Forall₂ (fun c t => t.IsTakenFrom c) a.challenges l) ∧
    ∀ k : ChallengeKind,
      (a.findKind k = .ok none ↔ a.find? k.type = none) ∧
      (a.find? k.type = none ↔ ∀ c ∈ a.challenges, c.content.type ≠ k.type) ∧
      (∀ c, a.find? k.type = some c →
        (∃ before after, a.challenges = before ++ c :: after ∧ c.content.type = k.type ∧
          ∀ other ∈ before, other.content.type ≠ k.type) ∧
        ((∃ e, a.findKind k = .error e) ↔ ¬c.Suits k) ∧
        ∀ found, a.findKind k = .ok found → ∃ t, found = some t ∧ t.IsTakenFrom c) ∧
      ∀ l, a.typedChallenges = .ok l → a.findKind k = .ok (l.find? (·.kind? = some k)) := by
  refine ⟨?_, fun l h => ?_, fun k => ⟨?_, ?_, fun c hc => ?_, fun l h => findKind_eq_find? h k⟩⟩
  · rw [typedChallenges, exists_mapM_eq_ok_iff]
    simp only [exists_typed_iff]
  · exact (typedChallenges_eq_ok_iff.mp h).imp fun _ _ => isTakenFrom_of_typed
  · rw [findKind_eq]
    cases a.find? k.type with
    | none => simp
    | some c =>
      refine iff_of_false ?_ (by simp)
      intro h
      obtain ⟨t, -, hnone⟩ := map_eq_ok_iff.mp h
      cases hnone
  · rw [find?_eq, List.find?_eq_none]
    simp
  · rw [findKind_eq, hc]
    rw [find?_eq, List.find?_eq_some_iff_append] at hc
    obtain ⟨htype, before, after, hsplit, hbefore⟩ := hc
    have htype : c.content.type = k.type := by simpa using htype
    refine ⟨⟨before, after, hsplit, htype, by simpa using hbefore⟩, ?_, fun found h => ?_⟩
    · rw [← ChallengeKind.exists_wrap_iff]
      dsimp only
      cases k.wrap c <;> simp [Except.map]
    · obtain ⟨t, ht, rfl⟩ := map_eq_ok_iff.mp h
      rw [← typed_of_type htype] at ht
      exact ⟨t, rfl, isTakenFrom_of_typed ht⟩

end Authorization

end AcmeClient

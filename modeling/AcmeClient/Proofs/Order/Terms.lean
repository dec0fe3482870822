import AcmeClient.Order.Request
import AcmeClient.Proofs.Identifier.Duplicates
import AcmeClient.Proofs.Results
import Mathlib.Data.List.Induction
import Mathlib.Tactic.Tauto

/-!
# What terms add up to

The terms of a request for an order may come in any order and number. Together they say what the
request is: of each thing the term that comes last, and of the identifiers all, without duplicates.
Terms are refused exactly if there are both dates of validity and automatic renewal among them.
-/

namespace AcmeClient

/-- Whether an argument is refused because dates of validity and automatic renewal exclude each
other. -/
def ArgumentFault.isExclusion : ArgumentFault → Bool
  | renewalWithValidity | validityWithRenewal _ => true
  | _ => false

namespace OrderTerm

/-- The identifiers that a term adds. -/
def added : OrderTerm → List Identifier
  | .domain name => (Identifier.dns name).toOption.toList
  | .domains names => names.filterMap fun name => (Identifier.dns name).toOption
  | .identifier i => [i]
  | .identifiers l => l
  | _ => []

/-- The start of validity that a term sets. -/
def notBefore? : OrderTerm → Option Date
  | .notBefore date => some date
  | _ => none

/-- The end of validity that a term sets. -/
def notAfter? : OrderTerm → Option Date
  | .notAfter date => some date
  | _ => none

/-- The start of automatic renewal that a term sets. -/
def renewalStart? : OrderTerm → Option Date
  | .renewalStart date => some date
  | _ => none

/-- The end of automatic renewal that a term sets. -/
def renewalEnd? : OrderTerm → Option Date
  | .renewalEnd date => some date
  | _ => none

/-- The lifetime of renewed certificates that a term sets. -/
def renewalLifetime? : OrderTerm → Option Duration
  | .renewalLifetime lifetime => some lifetime
  | _ => none

/-- The overlap of renewed certificates that a term sets. -/
def renewalAdjust? : OrderTerm → Option Duration
  | .renewalAdjust adjust => some adjust
  | _ => none

/-- Whether a term allows renewed certificates to be fetched without authentication. -/
def allowsGet : OrderTerm → Bool
  | .renewalGet => true
  | _ => false

/-- The profile that a term sets. -/
def profile? : OrderTerm → Option String
  | .profile name => some name
  | _ => none

/-- The certificate to be replaced that a term sets. -/
def replaces? : OrderTerm → Option String
  | .replaces id => some id
  | .replacesCertificate certificate => certificate.renewalId.toOption
  | _ => none

/-- Whether a term sets a date of validity. -/
def setsValidity : OrderTerm → Bool
  | .notBefore _ | .notAfter _ => true
  | _ => false

/-- Whether a term asks for automatic renewal. -/
def asksForRenewal : OrderTerm → Bool
  | .renewal | .renewalStart _ | .renewalEnd _ | .renewalLifetime _ | .renewalAdjust _
  | .renewalGet => true
  | _ => false

/-- Whether a term makes sense by itself: domains have to be well-formed, and a certificate to be
replaced has to be identified. -/
def IsSound : OrderTerm → Prop
  | .domain name => ∃ i, Identifier.dns name = .ok i
  | .domains names => ∀ name ∈ names, ∃ i, Identifier.dns name = .ok i
  | .replacesCertificate certificate => ∃ id, certificate.renewalId = .ok id
  | _ => True

/-- What the last term that sets something sets. -/
def last (get : OrderTerm → Option α) (terms : List OrderTerm) : Option α :=
  (terms.filterMap get).getLast?

/-- Whether there are both dates of validity and automatic renewal among terms. -/
def Conflicting (terms : List OrderTerm) : Prop :=
  (∃ t ∈ terms, t.setsValidity = true) ∧ ∃ t ∈ terms, t.asksForRenewal = true

@[simp] theorem last_concat (get : OrderTerm → Option α) (terms : List OrderTerm) (t : OrderTerm) :
    last get (terms ++ [t]) = (get t).or (last get terms) := by
  unfold last
  rw [List.filterMap_append, List.getLast?_append]
  cases h : get t <;> simp [h]

/-- Something is set exactly if some term sets it. -/
theorem isSome_last_iff {get : OrderTerm → Option α} {terms : List OrderTerm} :
    (last get terms).isSome ↔ ∃ t ∈ terms, (get t).isSome := by
  rw [last, Option.isSome_iff_ne_none, Ne, List.getLast?_eq_none_iff,
    List.filterMap_eq_nil_iff]
  simp [Option.isSome_iff_ne_none]

/-- No term both sets a date of validity and asks for automatic renewal. -/
theorem not_asksForRenewal {t : OrderTerm} (h : t.setsValidity = true) :
    t.asksForRenewal = false := by
  cases t <;> first | rfl | cases h

/-- Another term conflicts if it is against one that is there. -/
theorem conflicting_concat_iff {terms : List OrderTerm} {t : OrderTerm} :
    Conflicting (terms ++ [t]) ↔ Conflicting terms ∨
      (t.setsValidity = true ∧ ∃ t ∈ terms, t.asksForRenewal = true) ∨
      t.asksForRenewal = true ∧ ∃ t ∈ terms, t.setsValidity = true := by
  have hone : t.setsValidity = true → t.asksForRenewal = false := not_asksForRenewal
  unfold Conflicting
  simp only [List.mem_append, List.mem_singleton, or_and_right, exists_or, exists_eq_left]
  grind

end OrderTerm

namespace OrderRequest

open OrderTerm Identifier

/-- What terms add up to. -/
def summary (terms : List OrderTerm) : OrderRequest where
  identifiers := firsts (terms.flatMap added)
  notBefore := last notBefore? terms
  notAfter := last notAfter? terms
  renews := terms.any (·.asksForRenewal)
  renewalStart := last renewalStart? terms
  renewalEnd := last renewalEnd? terms
  renewalLifetime := last renewalLifetime? terms
  renewalAdjust := last renewalAdjust? terms
  renewalGet := terms.any (·.allowsGet)
  profile := last profile? terms
  replaces := last replaces? terms

variable {terms : List OrderTerm} {t : OrderTerm} {r : OrderRequest}

/-- A date of validity is set exactly if some term sets one. -/
theorem isSome_summary_validity_iff :
    ((summary terms).notBefore.isSome ∨ (summary terms).notAfter.isSome) ↔
      ∃ t ∈ terms, t.setsValidity = true := by
  unfold summary
  dsimp only
  rw [isSome_last_iff, isSome_last_iff, ← exists_or]
  refine exists_congr fun t => ?_
  rw [← and_or_left]
  cases t <;> simp [notBefore?, notAfter?, setsValidity]

/-- Automatic renewal is asked for exactly if some term does. -/
theorem renews_summary_iff :
    (summary terms).renews = true ↔ ∃ t ∈ terms, t.asksForRenewal = true :=
  List.any_eq_true

/-- Whether something about automatic renewal is set. -/
def SetsRenewal (r : OrderRequest) : Prop :=
  r.renewalStart.isSome ∨ r.renewalEnd.isSome ∨ r.renewalLifetime.isSome ∨
    r.renewalAdjust.isSome ∨ r.renewalGet = true

/-- What terms set about automatic renewal comes with renewal itself. -/
theorem renews_of_setsRenewal (h : (summary terms).SetsRenewal) :
    (summary terms).renews = true := by
  have hterm : ∃ t ∈ terms, t.renewalStart?.isSome ∨ t.renewalEnd?.isSome ∨
      t.renewalLifetime?.isSome ∨ t.renewalAdjust?.isSome ∨ t.allowsGet = true := by
    simpa only [SetsRenewal, summary, isSome_last_iff, List.any_eq_true, ← exists_or,
      ← and_or_left] using h
  obtain ⟨t, ht, hset⟩ := hterm
  refine renews_summary_iff.mpr ⟨t, ht, ?_⟩
  cases t <;> simp_all [renewalStart?, renewalEnd?, renewalLifetime?, renewalAdjust?, allowsGet,
    asksForRenewal]

/-- A term that does not ask for renewal leaves the renewal alone. -/
theorem summary_concat_of_not_renewal (terms : List OrderTerm) (h : t.asksForRenewal = false) :
    summary (terms ++ [t]) = { summary terms with
      identifiers := firsts (terms.flatMap added ++ t.added)
      notBefore := t.notBefore?.or (last notBefore? terms)
      notAfter := t.notAfter?.or (last notAfter? terms)
      profile := t.profile?.or (last profile? terms)
      replaces := t.replaces?.or (last replaces? terms) } := by
  cases t with
  | renewal | renewalStart | renewalEnd | renewalLifetime | renewalAdjust | renewalGet => cases h
  | _ => simp [summary, asksForRenewal, renewalStart?, renewalEnd?, renewalLifetime?,
      renewalAdjust?, allowsGet]

/-- A term that asks for renewal changes nothing else. -/
theorem summary_concat_of_renewal (terms : List OrderTerm) (h : t.asksForRenewal = true) :
    summary (terms ++ [t]) = { summary terms with
      renews := true
      renewalStart := t.renewalStart?.or (last renewalStart? terms)
      renewalEnd := t.renewalEnd?.or (last renewalEnd? terms)
      renewalLifetime := t.renewalLifetime?.or (last renewalLifetime? terms)
      renewalAdjust := t.renewalAdjust?.or (last renewalAdjust? terms)
      renewalGet := terms.any (·.allowsGet) || t.allowsGet } := by
  cases t with
  | renewal | renewalStart | renewalEnd | renewalLifetime | renewalAdjust | renewalGet =>
    simp [summary, asksForRenewal, added, notBefore?, notAfter?, profile?, replaces?]
  | _ => cases h

/-- Identifiers are added behind those that are there, without duplicates. -/
theorem withIdentifiers_eq {had : List Identifier} (h : r.identifiers = firsts had)
    (l : List Identifier) :
    r.withIdentifiers l = { r with identifiers := firsts (had ++ l) } := by
  induction l generalizing r had with
  | nil => rw [List.append_nil, ← h]; rfl
  | cons i l ih =>
    have hone : r.withIdentifier i = { r with identifiers := firsts (had ++ [i]) } := by
      unfold withIdentifier
      rw [firsts_concat, h, isIn_firsts]
      split
      · rw [← h]
      · rfl
    change (r.withIdentifier i).withIdentifiers l = _
    have hidentifiers : (r.withIdentifier i).identifiers = firsts (had ++ [i]) := by rw [hone]
    rw [ih hidentifiers, hone, List.append_assoc]
    rfl

/-- Whether an attempt fails, but not because of the exclusion. -/
def FailsOtherwise (x : Except Error OrderRequest) : Prop :=
  ∃ fault : ArgumentFault, fault.isExclusion = false ∧ x = .error (.invalidArgument fault)

/-- A name that is no domain name is refused as such. -/
theorem dns_cases (name : String) : (∃ i, Identifier.dns name = .ok i) ∨
    ∃ fault : ArgumentFault, fault.isExclusion = false ∧
      Identifier.dns name = .error (.invalidArgument fault) := by
  unfold Identifier.dns DomainName.toAscii
  dsimp only
  split
  · exact Or.inl ⟨_, rfl⟩
  · exact Or.inr ⟨_, rfl, rfl⟩
  · exact Or.inr ⟨_, rfl, rfl⟩

/-- Domains are added together, unless one of them is refused. -/
theorem foldlM_withDomain_cases (r : OrderRequest) (names : List String) :
    ((∀ name ∈ names, ∃ i, Identifier.dns name = .ok i) ∧ names.foldlM withDomain r =
      .ok (r.withIdentifiers (names.filterMap fun name => (Identifier.dns name).toOption))) ∨
    (¬∀ name ∈ names, ∃ i, Identifier.dns name = .ok i) ∧
      FailsOtherwise (names.foldlM withDomain r) := by
  induction names generalizing r with
  | nil => exact Or.inl ⟨by simp, rfl⟩
  | cons name names ih =>
    rw [List.foldlM_cons]
    unfold withDomain
    rcases dns_cases name with ⟨i, hi⟩ | ⟨fault, hfault, hname⟩
    · have hnames : (∀ name' ∈ name :: names, ∃ i, Identifier.dns name' = .ok i) ↔
          ∀ name ∈ names, ∃ i, Identifier.dns name = .ok i := by simp [hi]
      rw [hnames, List.filterMap_cons, hi]
      exact ih (r.withIdentifier i)
    · refine Or.inr ⟨fun hall => ?_, fault, hfault, by rw [hname]; rfl⟩
      obtain ⟨i, hi⟩ := hall name List.mem_cons_self
      rw [hname] at hi
      cases hi

/-- Whether a term is refused because of the exclusion. -/
def Refuses (r : OrderRequest) (t : OrderTerm) : Prop :=
  ∃ fault : ArgumentFault, fault.isExclusion = true ∧
    r.withTerm t = .error (.invalidArgument fault)

/-- A date of validity is refused beside automatic renewal, and else set. -/
theorem withTerm_of_setsValidity (terms : List OrderTerm) (ht : t.setsValidity = true) :
    ((summary terms).renews = true ∧ (summary terms).Refuses t) ∨
    ¬(summary terms).renews = true ∧
      (summary terms).withTerm t = .ok (summary (terms ++ [t])) := by
  have hother : t.asksForRenewal = false ∧ t.added = [] := by
    cases t <;> first | exact ⟨rfl, rfl⟩ | cases ht
  rw [summary_concat_of_not_renewal terms hother.1, hother.2, List.append_nil]
  by_cases h : (summary terms).renews = true
  · refine Or.inl ⟨h, ?_⟩
    cases t with
    | notBefore date =>
      refine ⟨.validityWithRenewal "notBefore", rfl, ?_⟩
      rw [withTerm, withNotBefore, withoutRenewal, if_pos h]
      rfl
    | notAfter date =>
      refine ⟨.validityWithRenewal "notAfter", rfl, ?_⟩
      rw [withTerm, withNotAfter, withoutRenewal, if_pos h]
      rfl
    | _ => cases ht
  · refine Or.inr ⟨h, ?_⟩
    cases t with
    | notBefore date =>
      rw [withTerm, withNotBefore, withoutRenewal, if_neg h]
      rfl
    | notAfter date =>
      rw [withTerm, withNotAfter, withoutRenewal, if_neg h]
      rfl
    | _ => cases ht

/-- A term that asks for renewal asks for it first, and then sets what it sets. -/
theorem withTerm_eq_withRenewalTerm (terms : List OrderTerm) (ht : t.asksForRenewal = true) :
    ∃ set, (∀ r : OrderRequest, r.withTerm t = r.withRenewalTerm set) ∧
      set { summary terms with renews := true } = summary (terms ++ [t]) := by
  rw [summary_concat_of_renewal terms ht]
  cases t with
  | renewal =>
    refine ⟨id, fun r => ?_, ?_⟩
    · rw [withTerm, withRenewalTerm]
      cases r.withRenewal <;> rfl
    · simp [summary, renewalStart?, renewalEnd?, renewalLifetime?, renewalAdjust?, allowsGet]
  | renewalStart | renewalEnd | renewalLifetime | renewalAdjust | renewalGet =>
    refine ⟨_, fun _ => rfl, ?_⟩
    simp [summary, renewalStart?, renewalEnd?, renewalLifetime?, renewalAdjust?, allowsGet]
  | _ => cases ht

/-- Automatic renewal is refused beside a date of validity, and else set by the term. -/
theorem withTerm_of_asksForRenewal (terms : List OrderTerm) (ht : t.asksForRenewal = true) :
    (((summary terms).notBefore.isSome ∨ (summary terms).notAfter.isSome) ∧
      (summary terms).Refuses t) ∨
    ¬((summary terms).notBefore.isSome ∨ (summary terms).notAfter.isSome) ∧
      (summary terms).withTerm t = .ok (summary (terms ++ [t])) := by
  obtain ⟨set, hterm, hsum⟩ := withTerm_eq_withRenewalTerm terms ht
  by_cases h : (summary terms).notBefore.isSome = true ∨ (summary terms).notAfter.isSome = true
  · refine Or.inl ⟨h, .renewalWithValidity, rfl, ?_⟩
    rw [hterm, withRenewalTerm, withRenewal, if_pos h]
    rfl
  · refine Or.inr ⟨h, ?_⟩
    rw [hterm, withRenewalTerm, withRenewal, if_neg h, ← hsum]
    rfl

/-- Any other term is taken if it is sound. -/
theorem withTerm_of_other (terms : List OrderTerm) (hvalidity : t.setsValidity = false)
    (hrenewal : t.asksForRenewal = false) :
    (t.IsSound ∧ (summary terms).withTerm t = .ok (summary (terms ++ [t]))) ∨
    ¬t.IsSound ∧ FailsOtherwise ((summary terms).withTerm t) := by
  have hlist : ∀ l, (summary terms).withIdentifiers l =
      { summary terms with identifiers := firsts (terms.flatMap added ++ l) } :=
    withIdentifiers_eq rfl
  have hnone : t.added = [] → firsts (terms.flatMap added ++ t.added) =
      (summary terms).identifiers := fun h => by rw [h, List.append_nil]; rfl
  rw [summary_concat_of_not_renewal terms hrenewal]
  cases t with
  | domain name =>
    rw [withTerm, withDomain]
    rcases dns_cases name with ⟨i, hi⟩ | ⟨fault, hfault, hname⟩
    · refine Or.inl ⟨⟨i, hi⟩, ?_⟩
      have hone := hlist [i]
      rw [added, hi]
      exact congrArg Except.ok hone
    · refine Or.inr ⟨?_, fault, hfault, by rw [hname]; rfl⟩
      rintro ⟨i, hi⟩
      rw [hname] at hi
      cases hi
  | domains names =>
    rw [withTerm]
    rcases foldlM_withDomain_cases (summary terms) names with ⟨hall, hrun⟩ | ⟨hall, hfails⟩
    · refine Or.inl ⟨hall, ?_⟩
      rw [hrun, hlist]
      rfl
    · exact Or.inr ⟨hall, hfails⟩
  | identifier i => exact Or.inl ⟨trivial, congrArg Except.ok (hlist [i])⟩
  | identifiers l => exact Or.inl ⟨trivial, congrArg Except.ok (hlist l)⟩
  | profile name => exact Or.inl ⟨trivial, congrArg Except.ok (by rw [hnone rfl]; rfl)⟩
  | replaces id => exact Or.inl ⟨trivial, congrArg Except.ok (by rw [hnone rfl]; rfl)⟩
  | replacesCertificate certificate =>
    rw [hnone rfl, withTerm, withReplacement]
    cases hid : certificate.renewalId with
    | ok id =>
      refine Or.inl ⟨⟨id, hid⟩, ?_⟩
      rw [replaces?, hid]
      rfl
    | error fault =>
      refine Or.inr ⟨?_, _, rfl, rfl⟩
      rintro ⟨id, hid'⟩
      rw [hid] at hid'
      cases hid'
  | notBefore | notAfter => cases hvalidity
  | _ => cases hrenewal

/-- What comes of adding a term to what others add up to: the term counts as well, or it is refused
because of the exclusion or for itself. -/
inductive Adds (terms : List OrderTerm) (t : OrderTerm) : Except Error OrderRequest → Prop
  | taken (hsound : t.IsSound) (hapart : ¬Conflicting (terms ++ [t])) :
    Adds terms t (.ok (summary (terms ++ [t])))
  | excluded (hagainst : Conflicting (terms ++ [t])) {fault : ArgumentFault}
    (hfault : fault.isExclusion = true) : Adds terms t (.error (.invalidArgument fault))
  | unsound (hsound : ¬t.IsSound) (hapart : ¬Conflicting (terms ++ [t])) {fault : ArgumentFault}
    (hfault : fault.isExclusion = false) : Adds terms t (.error (.invalidArgument fault))

/-- Adding one term. -/
theorem adds_withTerm (h : ¬Conflicting terms) (t : OrderTerm) :
    Adds terms t ((summary terms).withTerm t) := by
  have hsound : t.setsValidity = true ∨ t.asksForRenewal = true → t.IsSound := by
    cases t <;> simp [setsValidity, asksForRenewal, IsSound]
  have hagainst : Conflicting (terms ++ [t]) ↔ _ := conflicting_concat_iff
  rw [← isSome_summary_validity_iff, ← renews_summary_iff] at hagainst
  by_cases hvalidity : t.setsValidity = true
  · have hnot := not_asksForRenewal hvalidity
    rcases withTerm_of_setsValidity terms hvalidity with
      ⟨hset, fault, hfault, hrun⟩ | ⟨hset, hrun⟩
    · rw [hrun]
      exact .excluded (hagainst.mpr (.inr (.inl ⟨hvalidity, hset⟩))) hfault
    · rw [hrun]
      exact .taken (hsound (.inl hvalidity)) (by simp_all)
  by_cases hrenewal : t.asksForRenewal = true
  · rcases withTerm_of_asksForRenewal terms hrenewal with
      ⟨hset, fault, hfault, hrun⟩ | ⟨hset, hrun⟩
    · rw [hrun]
      exact .excluded (hagainst.mpr (.inr (.inr ⟨hrenewal, hset⟩))) hfault
    · rw [hrun]
      exact .taken (hsound (.inr hrenewal)) (by tauto)
  have hapart : ¬Conflicting (terms ++ [t]) := by tauto
  rcases withTerm_of_other terms (by simpa using hvalidity) (by simpa using hrenewal) with
    ⟨ht, hrun⟩ | ⟨ht, fault, hfault, hrun⟩
  · rw [hrun]
    exact .taken ht hapart
  · rw [hrun]
    exact .unsound ht hapart hfault

/-- Terms make a request one after another. -/
theorem ofTerms_concat (terms : List OrderTerm) (t : OrderTerm) :
    ofTerms (terms ++ [t]) = ofTerms terms >>= (·.withTerm t) := by
  simp [ofTerms, List.foldlM_append]

/-- Terms make a request exactly if each of them is sound and none is against another, and then it
is what they add up to. -/
theorem ofTerms_eq_ok_iff : ofTerms terms = .ok r ↔
    (∀ t ∈ terms, t.IsSound) ∧ ¬Conflicting terms ∧ r = summary terms := by
  induction terms using List.reverseRecOn generalizing r with
  | nil =>
    have hnil : ofTerms [] = .ok (summary []) := rfl
    simp [hnil, Conflicting, @eq_comm _ r]
  | append_singleton terms t ih =>
    have hbefore : ¬Conflicting (terms ++ [t]) → ¬Conflicting terms :=
      mt fun h => conflicting_concat_iff.mpr (.inl h)
    have hall : (∀ t' ∈ terms ++ [t], t'.IsSound) ↔ (∀ t' ∈ terms, t'.IsSound) ∧ t.IsSound := by
      simp [or_imp, forall_and]
    rw [ofTerms_concat, hall]
    constructor
    · intro h
      obtain ⟨r', hr', hterm⟩ := bind_eq_ok h
      obtain ⟨hsound, hapart, rfl⟩ := ih.mp hr'
      have hadds := adds_withTerm hapart t
      rw [hterm] at hadds
      cases hadds with
      | taken ht hapart => exact ⟨⟨hsound, ht⟩, hapart, rfl⟩
    · rintro ⟨⟨hsound, ht⟩, hapart, rfl⟩
      rw [ih.mpr ⟨hsound, hbefore hapart, rfl⟩]
      have hadds := adds_withTerm (hbefore hapart) t
      change (summary terms).withTerm t = _
      revert hadds
      generalize (summary terms).withTerm t = x
      intro hadds
      cases hadds with
      | taken => rfl
      | excluded hagainst => exact absurd hagainst hapart
      | unsound hnot => exact absurd ht hnot

end OrderRequest

end AcmeClient

import AcmeClient.Proofs.Json.Records
import AcmeClient.Proofs.Order.Gate
import AcmeClient.Proofs.Order.Terms

/-!
# What terms are sent as

A request made of terms is sent with a member for each thing that some term sets, and with no other
ones. Dates of validity and automatic renewal are never sent together, and no term can bring them
together: it is refused exactly if it would.
-/

namespace AcmeClient

open Json

namespace OrderTerm

/-- The member that a term is sent in. -/
def member : OrderTerm → String
  | .domain _ | .domains _ | .identifier _ | .identifiers _ => "identifiers"
  | .notBefore _ => "notBefore"
  | .notAfter _ => "notAfter"
  | .renewal | .renewalStart _ | .renewalEnd _ | .renewalLifetime _ | .renewalAdjust _
  | .renewalGet => "auto-renewal"
  | .profile _ => "profile"
  | .replaces _ | .replacesCertificate _ => "replaces"

/-- The member of automatic renewal that a term is sent in. -/
def renewalMember? : OrderTerm → Option String
  | .renewalStart _ => some "start-date"
  | .renewalEnd _ => some "end-date"
  | .renewalLifetime _ => some "lifetime"
  | .renewalAdjust _ => some "lifetime-adjust"
  | .renewalGet => some "allow-certificate-get"
  | _ => none

variable {terms : List OrderTerm}

/-- Something is set exactly if some term is sent in its member. -/
theorem isSome_last_iff_member {get : OrderTerm → Option α} {a : String}
    (h : ∀ t ∈ terms, (get t).isSome ↔ t.member = a) :
    (last get terms).isSome ↔ ∃ t ∈ terms, t.member = a := by
  rw [isSome_last_iff]
  exact exists_congr fun t => and_congr_right (h t)

/-- Something is set about renewal exactly if some term is sent in its member. -/
theorem isSome_last_iff_renewalMember {get : OrderTerm → Option α} {a : String}
    (h : ∀ t, (get t).isSome ↔ t.renewalMember? = some a) :
    (last get terms).isSome ↔ ∃ t ∈ terms, t.renewalMember? = some a := by
  rw [isSome_last_iff]
  exact exists_congr fun t => and_congr_right fun _ => h t

end OrderTerm

open OrderTerm Identifier

/-- Whether a text is that of a date, or there is neither. -/
def Date.IsSentAs (date : Option Date) (text : Option String) : Prop :=
  text.map some = date.map (·.timestamp?)

/-- Whether a number is that of a duration's whole seconds, or there is neither. -/
def Duration.IsSentAs (duration : Option Duration) (seconds : Option UInt64) : Prop :=
  seconds.map (·.toNat) = duration.map (·.nanoseconds / 1000000000)

/-- A date is sent exactly if there is one. -/
theorem Date.IsSentAs.isSome_iff {date : Option Date} {text : Option String}
    (h : IsSentAs date text) : text.isSome ↔ date.isSome := by
  have hmap := congrArg Option.isSome h
  rw [Option.isSome_map, Option.isSome_map] at hmap
  rw [hmap]

/-- A duration is sent exactly if there is one. -/
theorem Duration.IsSentAs.isSome_iff {duration : Option Duration} {seconds : Option UInt64}
    (h : IsSentAs duration seconds) : seconds.isSome ↔ duration.isSome := by
  have hmap := congrArg Option.isSome h
  rw [Option.isSome_map, Option.isSome_map] at hmap
  rw [hmap]

/-- The whole seconds of a duration are sent. -/
theorem Duration.isSentAs_wholeSeconds (d : Option Duration) :
    Duration.IsSentAs d (d.map OrderRequest.wholeSeconds) := by
  cases d with
  | none => rfl
  | some d =>
    have hlimit : d.seconds < Nat.pow 2 64 := Nat.div_lt_of_lt_mul <| by
      rw [Nat.mul_comm]
      exact d.inRange
    exact congrArg some (UInt64.toNat_ofNat_of_lt' hlimit)

/-- Whether automatic renewal is sent as terms ask for it. -/
structure Resource.Renewal.IsSentFor (r : Resource.Renewal) (terms : List OrderTerm) : Prop where
  startDate : Date.IsSentAs (last renewalStart? terms) r.startDate
  endDate : Date.IsSentAs (last renewalEnd? terms) r.endDate
  lifetime : Duration.IsSentAs (last renewalLifetime? terms) r.lifetime
  lifetimeAdjust : Duration.IsSentAs (last renewalAdjust? terms) r.lifetimeAdjust
  allowCertificateGet :
    r.allowCertificateGet = if terms.any (·.allowsGet) then some true else none
  /-- There are no other members than those that terms are sent in. -/
  members : ∀ name, name ∈ Resource.Renewal.record.present r ↔
    ∃ t ∈ terms, t.renewalMember? = some name

/-- Whether an order is sent as terms ask for it. -/
structure Resource.NewOrder.IsSentFor (n : Resource.NewOrder) (terms : List OrderTerm) :
    Prop where
  identifiers : n.identifiers = firsts (terms.flatMap added)
  notBefore : Date.IsSentAs (last notBefore? terms) n.notBefore
  notAfter : Date.IsSentAs (last notAfter? terms) n.notAfter
  profile : n.profile = last profile? terms
  replaces : n.replaces = last replaces? terms
  renews : n.renewal.isSome ↔ ∃ t ∈ terms, t.asksForRenewal = true
  renewal : ∀ renewal, n.renewal = some renewal → renewal.IsSentFor terms
  exclusive : n.renewal.isSome → n.notBefore = none ∧ n.notAfter = none
  /-- There are no other members than those that terms are sent in. -/
  members : ∀ name, name ∈ Resource.NewOrder.record.present n ↔
    name = "identifiers" ∨ ∃ t ∈ terms, t.member = name

namespace OrderRequest

/-- Whether a request is what terms make it. -/
structure IsMadeOf (r : OrderRequest) (terms : List OrderTerm) : Prop where
  identifiers : r.identifiers = firsts (terms.flatMap added)
  distinct : Distinct r.identifiers
  exclusive : ¬((r.notBefore.isSome ∨ r.notAfter.isSome) ∧ r.renews = true)
  renews : r.renews = true ↔ ∃ t ∈ terms, t.asksForRenewal = true
  /-- What is set about renewal comes with renewal itself. -/
  setsRenewal : r.SetsRenewal → r.renews = true
  renewalStart : r.renewalStart = last renewalStart? terms
  renewalEnd : r.renewalEnd = last renewalEnd? terms
  renewalLifetime : r.renewalLifetime = last renewalLifetime? terms
  renewalAdjust : r.renewalAdjust = last renewalAdjust? terms
  renewalGet : r.renewalGet = terms.any (·.allowsGet)
  /-- Another term is refused exactly if it would break the exclusion. -/
  refuses : ∀ t, r.Refuses t ↔ Conflicting (terms ++ [t])
  /-- What is sent exists unless a date cannot be written. -/
  isSent : (∃ n, r.payload = .ok n) ↔ r.IsWritable
  sent : ∀ n, r.payload = .ok n → n.IsSentFor terms

variable {r : OrderRequest} {terms : List OrderTerm}

/-- A date that is written is sent. -/
theorem isSentAs_of_timestampOption {date : Option Date} {text : Option String}
    (h : timestampOption date = .ok text) : Date.IsSentAs date text := by
  cases date with
  | none => cases h; rfl
  | some date =>
    rw [timestampOption, timestamp_eq] at h
    cases htext : date.timestamp? with
    | none => simp [htext, Except.map] at h
    | some written =>
      simp only [htext, Except.map, Except.ok.injEq] at h
      subst h
      exact congrArg some htext.symm

/-- The members of automatic renewal that are sent. -/
theorem mem_present_renewal {renewal : Resource.Renewal} {name : String} :
    name ∈ Resource.Renewal.record.present renewal ↔
      (name = "start-date" ∧ renewal.startDate.isSome) ∨
      (name = "end-date" ∧ renewal.endDate.isSome) ∨
      (name = "lifetime" ∧ renewal.lifetime.isSome) ∨
      (name = "lifetime-adjust" ∧ renewal.lifetimeAdjust.isSome) ∨
      name = "allow-certificate-get" ∧ renewal.allowCertificateGet.isSome := by
  rw [Record.mem_present_iff]
  simp [Resource.Renewal.record, Member.optional, @eq_comm _ name]

/-- The members of a request that are sent. -/
theorem mem_present_newOrder {n : Resource.NewOrder} {name : String} :
    name ∈ Resource.NewOrder.record.present n ↔ name = "identifiers" ∨
      (name = "notBefore" ∧ n.notBefore.isSome) ∨ (name = "notAfter" ∧ n.notAfter.isSome) ∨
      (name = "auto-renewal" ∧ n.renewal.isSome) ∨ (name = "replaces" ∧ n.replaces.isSome) ∨
      name = "profile" ∧ n.profile.isSome := by
  rw [Record.mem_present_iff]
  simp [Resource.NewOrder.record, Member.optional, Member.required, @eq_comm _ name]

/-- Automatic renewal is sent as it is asked for. -/
theorem renewal_isSentFor {renewal : Resource.Renewal}
    (h : (summary terms).renewalPayload = .ok renewal) : renewal.IsSentFor terms := by
  unfold renewalPayload at h
  obtain ⟨start, hstart, h⟩ := bind_eq_ok h
  obtain ⟨stop, hstop, h⟩ := bind_eq_ok h
  cases h
  have hstart := isSentAs_of_timestampOption hstart
  have hstop := isSentAs_of_timestampOption hstop
  have hlifetime := Duration.isSentAs_wholeSeconds (summary terms).renewalLifetime
  have hadjust := Duration.isSentAs_wholeSeconds (summary terms).renewalAdjust
  refine ⟨hstart, hstop, hlifetime, hadjust, rfl, fun name => ?_⟩
  have hstart := hstart.isSome_iff.trans <|
    isSome_last_iff_renewalMember (a := "start-date") fun t => by
      cases t <;> simp [renewalStart?, renewalMember?]
  have hstop := hstop.isSome_iff.trans <|
    isSome_last_iff_renewalMember (a := "end-date") fun t => by
      cases t <;> simp [renewalEnd?, renewalMember?]
  have hlifetime := hlifetime.isSome_iff.trans <|
    isSome_last_iff_renewalMember (a := "lifetime") fun t => by
      cases t <;> simp [renewalLifetime?, renewalMember?]
  have hadjust := hadjust.isSome_iff.trans <|
    isSome_last_iff_renewalMember (a := "lifetime-adjust") fun t => by
      cases t <;> simp [renewalAdjust?, renewalMember?]
  have hget : (if (summary terms).renewalGet = true then some true else none).isSome ↔
      ∃ t ∈ terms, t.renewalMember? = some "allow-certificate-get" := by
    have hmember : ∀ t : OrderTerm,
        t.renewalMember? = some "allow-certificate-get" ↔ t.allowsGet = true := fun t => by
      cases t <;> simp [allowsGet, renewalMember?]
    simp [summary, hmember]
  rw [mem_present_renewal]
  dsimp only
  rw [hstart, hstop, hlifetime, hadjust, hget]
  constructor
  · rintro (⟨rfl, h⟩ | ⟨rfl, h⟩ | ⟨rfl, h⟩ | ⟨rfl, h⟩ | ⟨rfl, h⟩) <;> exact h
  · rintro ⟨t, ht, hname⟩
    cases t <;> cases hname
    · exact Or.inl ⟨rfl, _, ht, rfl⟩
    · exact Or.inr (Or.inl ⟨rfl, _, ht, rfl⟩)
    · exact Or.inr (Or.inr (Or.inl ⟨rfl, _, ht, rfl⟩))
    · exact Or.inr (Or.inr (Or.inr (Or.inl ⟨rfl, _, ht, rfl⟩)))
    · exact Or.inr (Or.inr (Or.inr (Or.inr ⟨rfl, _, ht, rfl⟩)))

/-- Automatic renewal is sent exactly if it is asked for. -/
theorem renewalOption_eq_ok {renewal : Option Resource.Renewal}
    (h : r.renewalOption = .ok renewal) : renewal.isSome = r.renews ∧
      ∀ sent, renewal = some sent → r.renewalPayload = .ok sent := by
  unfold renewalOption at h
  split at h
  · rename_i hrenews
    cases hpayload : r.renewalPayload with
    | error e =>
      rw [hpayload] at h
      cases h
    | ok sent =>
      rw [hpayload] at h
      cases h
      exact ⟨hrenews.symm, fun _ heq => congrArg Except.ok (Option.some.inj heq)⟩
  · rename_i hrenews
    cases h
    exact ⟨(Bool.eq_false_of_not_eq_true hrenews).symm, fun _ heq => by cases heq⟩

/-- What is sent carries what is asked for. -/
theorem payload_eq_ok {n : Resource.NewOrder} (h : r.payload = .ok n) :
    n.identifiers = r.identifiers ∧ Date.IsSentAs r.notBefore n.notBefore ∧
    Date.IsSentAs r.notAfter n.notAfter ∧ n.profile = r.profile ∧ n.replaces = r.replaces ∧
    n.renewal.isSome = r.renews ∧
    ∀ renewal, n.renewal = some renewal → r.renewalPayload = .ok renewal := by
  obtain ⟨renewal, hrenewal, h⟩ := bind_eq_ok h
  obtain ⟨start, hstart, h⟩ := bind_eq_ok h
  obtain ⟨stop, hstop, h⟩ := bind_eq_ok h
  cases h
  exact ⟨rfl, isSentAs_of_timestampOption hstart, isSentAs_of_timestampOption hstop, rfl, rfl,
    renewalOption_eq_ok hrenewal⟩

/-- What terms add up to is sent as they ask for it. -/
theorem payload_isSentFor (hsound : ∀ t ∈ terms, t.IsSound) (hapart : ¬Conflicting terms)
    {n : Resource.NewOrder} (h : (summary terms).payload = .ok n) : n.IsSentFor terms := by
  obtain ⟨hidentifiers, hbefore, hafter, hprofile, hreplaces, hrenewal, hpayload⟩ :=
    payload_eq_ok h
  have hrenews : n.renewal.isSome ↔ ∃ t ∈ terms, t.asksForRenewal = true := by
    rw [hrenewal]
    exact renews_summary_iff
  refine ⟨hidentifiers, hbefore, hafter, hprofile, hreplaces, hrenews, fun renewal heq => ?_,
    fun hasks => ?_, fun name => ?_⟩
  · exact renewal_isSentFor (hpayload renewal heq)
  · have hnot := mt isSome_summary_validity_iff.mp fun hset => hapart ⟨hset, hrenews.mp hasks⟩
    rw [← hbefore.isSome_iff, ← hafter.isSome_iff] at hnot
    simpa using hnot
  · have hbefore := hbefore.isSome_iff.trans <|
      isSome_last_iff_member (a := "notBefore") fun t _ => by
        cases t <;> simp [notBefore?, member]
    have hafter := hafter.isSome_iff.trans <|
      isSome_last_iff_member (a := "notAfter") fun t _ => by cases t <;> simp [notAfter?, member]
    have hprofile : n.profile.isSome ↔ ∃ t ∈ terms, t.member = "profile" := by
      rw [hprofile]
      exact isSome_last_iff_member (a := "profile") fun t _ => by
        cases t <;> simp [profile?, member]
    have hreplaces : n.replaces.isSome ↔ ∃ t ∈ terms, t.member = "replaces" := by
      rw [hreplaces]
      refine isSome_last_iff_member (a := "replaces") fun t ht => ?_
      cases t with
      | replacesCertificate certificate =>
        obtain ⟨id, hid⟩ := hsound _ ht
        simp [replaces?, member, hid, Except.toOption]
      | _ => simp [replaces?, member]
    have hrenews : n.renewal.isSome ↔ ∃ t ∈ terms, t.member = "auto-renewal" := by
      rw [hrenews]
      exact exists_congr fun t => and_congr_right fun _ => by
        cases t <;> simp [asksForRenewal, member]
    rw [mem_present_newOrder, hbefore, hafter, hprofile, hreplaces, hrenews]
    constructor
    · rintro (rfl | ⟨rfl, h⟩ | ⟨rfl, h⟩ | ⟨rfl, h⟩ | ⟨rfl, h⟩ | ⟨rfl, h⟩)
      · exact Or.inl rfl
      all_goals exact Or.inr h
    · rintro (rfl | ⟨t, ht, rfl⟩)
      · exact Or.inl rfl
      · cases t with
        | domain | domains | identifier | identifiers => exact Or.inl rfl
        | notBefore => exact Or.inr (Or.inl ⟨rfl, _, ht, rfl⟩)
        | notAfter => exact Or.inr (Or.inr (Or.inl ⟨rfl, _, ht, rfl⟩))
        | replaces | replacesCertificate =>
          exact Or.inr (Or.inr (Or.inr (Or.inr (Or.inl ⟨rfl, _, ht, rfl⟩))))
        | profile => exact Or.inr (Or.inr (Or.inr (Or.inr (Or.inr ⟨rfl, _, ht, rfl⟩))))
        | _ => exact Or.inr (Or.inr (Or.inr (Or.inl ⟨rfl, _, ht, rfl⟩)))

/-- Terms that make a request make it what they ask for: their identifiers without duplicates, and
of everything else what the last of them sets. Dates of validity and automatic renewal exclude each
other, in the request and in what is sent. -/
theorem isMadeOf_of_ofTerms (h : ofTerms terms = .ok r) : r.IsMadeOf terms := by
  obtain ⟨hsound, hapart, rfl⟩ := ofTerms_eq_ok_iff.mp h
  refine ⟨rfl, distinct_firsts _, fun hboth => hapart ⟨isSome_summary_validity_iff.mp hboth.1,
    renews_summary_iff.mp hboth.2⟩, renews_summary_iff, renews_of_setsRenewal, rfl, rfl, rfl, rfl,
    rfl, fun t => ?_, ?_, fun n => payload_isSentFor hsound hapart⟩
  · have hadds := adds_withTerm hapart t
    generalize hrun : (summary terms).withTerm t = x at hadds
    unfold Refuses
    rw [hrun]
    cases hadds with
    | taken _ hapart => simp [hapart]
    | excluded hagainst hfault => exact iff_of_true ⟨_, hfault, rfl⟩ hagainst
    | unsound _ hapart hfault =>
      refine iff_of_false ?_ hapart
      rintro ⟨fault, hexclusion, heq⟩
      cases heq
      rw [hfault] at hexclusion
      cases hexclusion
  · rcases (summary terms).payload_cases with ⟨date, hdate, hpayload⟩ | ⟨hnone, hpayload⟩
    · simp [hpayload, isWritable_iff, hdate]
    · exact iff_of_true hpayload (isWritable_iff.mpr hnone)

/-- An identifier that is added again in another spelling is there once, and the last profile
counts. -/
theorem isMadeOf_of_ofTerms_renewed :
    ({ identifiers := [⟨"dns", "a.example", none⟩, ⟨"dns", "b.example", none⟩]
       renews := true, renewalStart := some { second := 0 }
       renewalLifetime := some (.ofSeconds 3600), renewalGet := true
       profile := some "long", replaces := some "id" } : OrderRequest).IsMadeOf
      [.identifier ⟨"dns", "a.example", none⟩, .profile "short", .renewalGet,
        .identifiers [⟨"dns", "b.example", none⟩, ⟨"dns", "a.example.", none⟩], .profile "long",
        .renewalLifetime (.ofSeconds 3600), .replaces "id", .renewalStart { second := 0 }] :=
  isMadeOf_of_ofTerms (by rfl)

end OrderRequest

end AcmeClient

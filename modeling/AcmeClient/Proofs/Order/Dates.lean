import AcmeClient.Proofs.Order.Payload
import AcmeClient.Proofs.Time.Timestamp

/-!
# The dates of an order

A date can be asked for in four places of an order. It is sent as the timestamp of its instant in
universal time, whatever its offset, and nothing is sent if the year of some date does not have
four digits. A year with a sign is refused; beyond those, a date that is next to the end of the
calendar at its offset breaks off the call.
-/

namespace AcmeClient

open Attempt OrderTerm

namespace Date

/-- Whether a time is that of a date in universal time. -/
def IsAt (d : Date) (t : UniversalTime) : Prop := ¬t.IsLeap ∧ t.seconds = d.second

/-- Whether a date is refused as an argument exactly if its year does not have four digits. -/
def IsRefusedByYear (d : Date) : Prop :=
  ∀ t, d.IsAt t → (OrderRequest.timestamp d = .error d.refusedArgument ↔ ¬t.HasFourDigits)

/-- Whether a date whose year has four digits is written as the timestamp of its instant, which
tells the instant from all others, and what comes of any other date. -/
structure DenotesInstant (d : Date) : Prop where
  isAt : ∃! t, d.IsAt t
  written : ∀ t, d.IsAt t → t.HasFourDigits → ∃ text, OrderRequest.timestamp d = .ok text ∧
    IsTimestamp t d.nanosecond text.toList ∧ Timestamp.second text.toList = d.second ∧
    Timestamp.nanosecond text.toList = d.nanosecond
  /-- A year with a sign is refused. -/
  refused : ∀ t, d.IsAt t → t.HasSignedDigits → ¬t.HasFourDigits →
    OrderRequest.timestamp d = .error d.refusedArgument
  /-- A longer one breaks off the call. -/
  broken : ∀ t, d.IsAt t → ¬t.HasSignedDigits →
    OrderRequest.timestamp d = .error (.panic (.dateOutOfRange d))
  offset : ∀ e : Date, e.second = d.second → e.nanosecond = d.nanosecond →
    e.timestamp? = d.timestamp?
  distinct : ∀ e text, OrderRequest.timestamp d = .ok text → OrderRequest.timestamp e = .ok text →
    e.second = d.second ∧ e.nanosecond = d.nanosecond

variable {d : Date} {t : UniversalTime} {text : String}

/-- The universal time of a date is that of its second. -/
theorem isAt_iff : d.IsAt t ↔ t = UniversalTime.ofSeconds d.second := by
  constructor
  · rintro ⟨hleap, hsecond⟩
    rw [← hsecond, UniversalTime.ofSeconds_seconds hleap]
  · rintro rfl
    exact ⟨UniversalTime.not_isLeap_ofSeconds _, UniversalTime.seconds_ofSeconds _⟩

/-- What holds of the universal time of a date holds of that of its second. -/
theorem forall_isAt_iff {P : UniversalTime → Prop} :
    (∀ t, d.IsAt t → P t) ↔ P (UniversalTime.ofSeconds d.second) := by
  simp only [isAt_iff, forall_eq]

/-- A date is written as a text if it has one. -/
theorem timestamp_eq_ok_iff : OrderRequest.timestamp d = .ok text ↔ d.timestamp? = some text := by
  rw [OrderRequest.timestamp_eq]
  cases d.timestamp? <;> simp

/-- A date that has no text is refused, or breaks off the call. -/
theorem timestamp_eq_error_iff {e : Error} :
    OrderRequest.timestamp d = .error e ↔ ¬d.timestamp?.isSome ∧ e = d.refusal := by
  rw [OrderRequest.timestamp_eq]
  cases d.timestamp? <;> simp [eq_comm]

/-- A date has a text exactly if its year has four digits. -/
theorem isSome_timestamp?_of_isAt (h : d.IsAt t) : d.timestamp?.isSome ↔ t.HasFourDigits := by
  rw [isAt_iff.mp h]
  exact isSome_timestamp?_iff

/-- Dates denote their instants. -/
theorem denotesInstant (d : Date) : d.DenotesInstant where
  isAt := ⟨_, isAt_iff.mpr rfl, fun _ ht => isAt_iff.mp ht⟩
  written t ht hdigits := by
    obtain ⟨text, htext⟩ := Option.isSome_iff_exists.mp ((isSome_timestamp?_of_isAt ht).mpr hdigits)
    have hform := isTimestamp_of_timestamp? htext
    rw [← isAt_iff.mp ht] at hform
    obtain ⟨hsecond, hfraction⟩ := Timestamp.read_of_isTimestamp hform
    exact ⟨text, timestamp_eq_ok_iff.mpr htext, hform, hsecond.trans ht.2, hfraction⟩
  refused t ht hsigned hdigits := by
    rw [timestamp_eq_error_iff, isSome_timestamp?_of_isAt ht]
    rw [isAt_iff.mp ht] at hsigned
    exact ⟨hdigits, (refusal_eq_iff.mpr hsigned).symm⟩
  broken t ht hsigned := by
    rw [timestamp_eq_error_iff, isSome_timestamp?_of_isAt ht]
    refine ⟨mt UniversalTime.HasFourDigits.hasSignedDigits hsigned, ?_⟩
    rw [isAt_iff.mp ht, ← isSome_universal?_iff] at hsigned
    rw [refusal, if_neg hsigned]
  offset _ hsecond hnano := timestamp?_congr hsecond hnano
  distinct _ _ hd he :=
    instant_of_timestamp? (timestamp_eq_ok_iff.mp hd) (timestamp_eq_ok_iff.mp he)

/-- A date is refused exactly if its year does not have four digits, as long as there is such a date
in universal time. -/
theorem isRefusedByYear_iff : d.IsRefusedByYear ↔ ∀ t, d.IsAt t → t.HasSignedDigits := by
  unfold IsRefusedByYear
  rw [forall_isAt_iff, forall_isAt_iff, timestamp_eq_error_iff, isSome_timestamp?_iff,
    eq_comm (a := d.refusedArgument), refusal_eq_iff]
  constructor
  · intro h
    by_contra hsigned
    exact hsigned (h.mpr (mt UniversalTime.HasFourDigits.hasSignedDigits hsigned)).2
  · intro hsigned
    exact ⟨And.left, fun hdigits => ⟨hdigits, hsigned⟩⟩

end Date

/-- A place of an order where a date can be asked for. -/
inductive DateField where
  | notBefore
  | notAfter
  | renewalStart
  | renewalEnd

namespace DateField

/-- The date that a term sets there. -/
def set? : DateField → OrderTerm → Option Date
  | notBefore => notBefore?
  | notAfter => notAfter?
  | renewalStart => renewalStart?
  | renewalEnd => renewalEnd?

/-- The date that is asked for there. -/
def asked (r : OrderRequest) : DateField → Option Date
  | notBefore => r.notBefore
  | notAfter => r.notAfter
  | renewalStart => r.renewalStart
  | renewalEnd => r.renewalEnd

/-- The text that is sent there. -/
def sent (n : Resource.NewOrder) : DateField → Option String
  | notBefore => n.notBefore
  | notAfter => n.notAfter
  | renewalStart => n.renewal.bind (·.startDate)
  | renewalEnd => n.renewal.bind (·.endDate)

variable {f : DateField} {terms : List OrderTerm} {r : OrderRequest} {n : Resource.NewOrder}
  {date : Date}

/-- What is asked for in an order is what the last term that sets it sets. -/
theorem asked_of_ofTerms (h : OrderRequest.ofTerms terms = .ok r) :
    f.asked r = last f.set? terms := by
  obtain ⟨-, -, rfl⟩ := OrderRequest.ofTerms_eq_ok_iff.mp h
  cases f <;> rfl

section Renewal

variable (hrenews : r.SetsRenewal → r.renews = true)

include hrenews

/-- A date that is asked for is among the dates of the order. -/
theorem mem_dates (h : f.asked r = some date) : date ∈ r.dates := by
  unfold OrderRequest.dates
  simp only [List.mem_append, Option.mem_toList]
  cases f with
  | notBefore => exact Or.inl (Or.inr h)
  | notAfter => exact Or.inr h
  | renewalStart =>
    rw [if_pos (hrenews (Or.inl (Option.isSome_of_eq_some h)))]
    exact Or.inl (Or.inl (List.mem_append_left _ (Option.mem_toList.mpr h)))
  | renewalEnd =>
    rw [if_pos (hrenews (Or.inr (Or.inl (Option.isSome_of_eq_some h))))]
    exact Or.inl (Or.inl (List.mem_append_right _ (Option.mem_toList.mpr h)))

/-- What is asked for is sent as it is written. -/
theorem isSentAs_of_payload (h : r.payload = .ok n) : Date.IsSentAs (f.asked r) (f.sent n) := by
  obtain ⟨-, hbefore, hafter, -, -, hsome, hrenewal⟩ := OrderRequest.payload_eq_ok h
  -- without renewal nothing about it is set
  have hunset : n.renewal = none → r.renewalStart = none ∧ r.renewalEnd = none := by
    intro hn
    have hnot : ¬r.SetsRenewal := fun hset => by
      have htrue := hsome.trans (hrenews hset)
      rw [hn] at htrue
      cases htrue
    simp only [OrderRequest.SetsRenewal, not_or, Option.not_isSome_iff_eq_none] at hnot
    exact ⟨hnot.1, hnot.2.1⟩
  have hdates : Date.IsSentAs r.renewalStart (n.renewal.bind (·.startDate)) ∧
      Date.IsSentAs r.renewalEnd (n.renewal.bind (·.endDate)) := by
    cases hn : n.renewal with
    | none =>
      obtain ⟨hstart, hstop⟩ := hunset hn
      rw [hstart, hstop]
      exact ⟨rfl, rfl⟩
    | some renewal =>
      have hpayload := hrenewal renewal hn
      unfold OrderRequest.renewalPayload at hpayload
      obtain ⟨start, hstart, hpayload⟩ := bind_eq_ok hpayload
      obtain ⟨stop, hstop, hpayload⟩ := bind_eq_ok hpayload
      cases hpayload
      exact ⟨OrderRequest.isSentAs_of_timestampOption hstart,
        OrderRequest.isSentAs_of_timestampOption hstop⟩
  cases f with
  | notBefore => exact hbefore
  | notAfter => exact hafter
  | renewalStart => exact hdates.1
  | renewalEnd => exact hdates.2

end Renewal

end DateField

namespace OrderRequest

/-- Whether a date that is asked for somewhere in an order is sent there as the instant that it
is, unless the year of some date of the order does not have four digits. -/
structure SendsInstant (r : OrderRequest) (f : DateField) (date : Date) : Prop where
  denotes : date.DenotesInstant
  sent : ∀ n, r.payload = .ok n → ∃ text, f.sent n = some text ∧ timestamp date = .ok text
  mem_dates : date ∈ r.dates
  isSent : (∃ n, r.payload = .ok n) ↔ ∀ d ∈ r.dates, ∀ t, d.IsAt t → t.HasFourDigits
  failed : (¬∃ n, r.payload = .ok n) → ∃ d ∈ r.dates, (∀ t, d.IsAt t → ¬t.HasFourDigits) ∧
    ∃ e, timestamp d = .error e ∧ r.payload = .error e

variable {r : OrderRequest} {f : DateField} {date : Date} {terms : List OrderTerm}

/-- An order can be sent exactly if the years of all its dates have four digits. -/
theorem isWritable_iff_hasFourDigits :
    r.IsWritable ↔ ∀ d ∈ r.dates, ∀ t, d.IsAt t → t.HasFourDigits := by
  simp only [IsWritable, Date.forall_isAt_iff, Date.isSome_timestamp?_iff]

/-- An order that cannot be sent fails at one of its dates, in the way that this date does. -/
theorem failed_of_not_isWritable (h : ¬∃ n, r.payload = .ok n) :
    ∃ d ∈ r.dates, (∀ t, d.IsAt t → ¬t.HasFourDigits) ∧
      ∃ e, timestamp d = .error e ∧ r.payload = .error e := by
  rcases r.payload_cases with ⟨d, hfind, hpayload⟩ | ⟨-, hpayload⟩
  · have hfound := List.find?_some hfind
    have hnone : ¬d.timestamp?.isSome := by simpa using hfound
    refine ⟨d, List.mem_of_find?_eq_some hfind, fun t ht hdigits => ?_, d.refusal,
      Date.timestamp_eq_error_iff.mpr ⟨hnone, rfl⟩, hpayload⟩
    exact hnone ((Date.isSome_timestamp?_of_isAt ht).mpr hdigits)
  · exact absurd hpayload h

/-- A date that terms ask for denotes the instant that it is: what is sent for it is the timestamp
of that instant in universal time. It is refused exactly if its year does not have four digits, as
long as there is such a date in universal time. -/
theorem sendsInstant_of_ofTerms (h : ofTerms terms = .ok r)
    (hset : last f.set? terms = some date) : r.SendsInstant f date ∧
      (date.IsRefusedByYear ↔ ∀ t, date.IsAt t → t.HasSignedDigits) := by
  have hasked : f.asked r = some date := (DateField.asked_of_ofTerms h).trans hset
  have hrenews : r.SetsRenewal → r.renews = true := by
    obtain ⟨-, -, rfl⟩ := ofTerms_eq_ok_iff.mp h
    exact renews_of_setsRenewal
  refine ⟨⟨date.denotesInstant, fun n hn => ?_, DateField.mem_dates hrenews hasked, ?_,
    failed_of_not_isWritable⟩, Date.isRefusedByYear_iff⟩
  · have hsent := DateField.isSentAs_of_payload (f := f) hrenews hn
    rw [hasked] at hsent
    obtain ⟨text, htext, heq⟩ := Option.map_eq_some_iff.mp hsent
    exact ⟨text, htext, Date.timestamp_eq_ok_iff.mpr heq.symm⟩
  · rw [← isWritable_iff_hasFourDigits]
    rcases r.payload_cases with ⟨d, hfind, hpayload⟩ | ⟨hnone, hpayload⟩
    · simp [hpayload, isWritable_iff, hfind]
    · exact iff_of_true hpayload (isWritable_iff.mpr hnone)

/-- Half a second before 1970, at an offset with minutes and seconds where 1970 has begun. -/
theorem sendsInstant_of_ofTerms_new_year :
    let newYear : Date := { second := -1, nanosecond := 500000000, offset := 3723 }
    ({ identifiers := [⟨"dns", "a.example", none⟩], notBefore := some newYear } :
        OrderRequest).SendsInstant .notBefore newYear ∧
      (newYear.IsRefusedByYear ↔ ∀ t, newYear.IsAt t → t.HasSignedDigits) := by
  intro newYear
  let terms : List OrderTerm :=
    [.notBefore { second := 0 }, .identifier ⟨"dns", "a.example", none⟩, .notBefore newYear]
  have hset : last DateField.notBefore.set? terms = some newYear := by rfl
  exact sendsInstant_of_ofTerms (by rfl) hset

/-- The last hour of the year 9999 at an offset of one hour to the west is after that year in
universal time; it is not refused. -/
theorem not_isRefusedByYear_last_hour :
    let lastHour : Date := { second := 253402300800, offset := -3600 }
    ¬lastHour.IsRefusedByYear ∧
      timestamp lastHour = .error (.panic (.dateOutOfRange lastHour)) := by
  intro lastHour
  have hyear : ¬∀ t, lastHour.IsAt t → t.HasSignedDigits := by
    rw [Date.forall_isAt_iff, Date.hasSignedDigits_iff]
    decide
  exact ⟨mt Date.isRefusedByYear_iff.mp hyear, by rfl⟩

end OrderRequest

end AcmeClient

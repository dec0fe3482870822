import AcmeClient.Order.Basic
import AcmeClient.Proofs.Session.Retry
import AcmeClient.Proofs.Time.Timestamp

/-!
# The gate before an order

An order is sent to the server only if there is something to order, the server offers every feature
that is asked for, and every date can be written. What fails first is the error; nothing but the
directory is asked for then, and the nonce stays. A date that cannot be written is refused as an
argument only as long as there is such a date in universal time at all.
-/

namespace AcmeClient

open Attempt Http

/-- The refusal of a date that cannot be written. -/
def Date.refusedArgument (date : Date) : Error := .invalidArgument (.unwritableDate date)

/-- What comes of a date that cannot be written: it is refused, unless there is no such date in
universal time. -/
def Date.refusal (date : Date) : Error :=
  if date.universal?.isSome then date.refusedArgument else .panic (.dateOutOfRange date)

/-- A date is refused as an argument exactly if there is such a date in universal time. -/
theorem Date.refusal_eq_iff {date : Date} : date.refusal = date.refusedArgument ↔
    (UniversalTime.ofSeconds date.second).HasSignedDigits := by
  rw [← isSome_universal?_iff, refusal]
  split <;> simp_all [refusedArgument]

namespace OrderRequest

/-- Whether a directory offers every feature that is asked for. -/
structure IsOffered (r : OrderRequest) (d : Resource.Directory) : Prop where
  renewal : r.renews = true → d.capabilities.autoRenewal.isSome
  get : r.renewalGet = true →
    ∃ terms, d.capabilities.autoRenewal = some terms ∧ terms.allowCertificateGet = some true
  replacement : r.replaces.isSome → d.renewalInfo.isSome
  profile : ∀ name, r.profile = some name → ∃ profiles, d.capabilities.profiles = some profiles ∧
    profiles.isEmpty = false ∧ profiles.contains name = true
  subdomains : (∃ i ∈ r.identifiers, i.ancestor.isSome) →
    d.capabilities.subdomainAuthAllowed = some true

/-- Whether a feature is the first one asked for that a directory does not offer. -/
def LacksFirst (r : OrderRequest) (d : Resource.Directory) (feature : Feature) : Prop :=
  ∃ before after, r.needs = before ++ feature :: after ∧ (∀ f ∈ before, d.has f = true) ∧
    d.has feature = false

/-- The dates that are asked for, in the order in which they are written. -/
def dates (r : OrderRequest) : List Date :=
  (if r.renews then r.renewalStart.toList ++ r.renewalEnd.toList else []) ++
    r.notBefore.toList ++ r.notAfter.toList

/-- The first date that cannot be written. -/
def unwritable? (r : OrderRequest) : Option Date := r.dates.find? (·.timestamp?.isNone)

/-- Whether every date can be written. -/
def IsWritable (r : OrderRequest) : Prop := ∀ date ∈ r.dates, date.timestamp?.isSome

variable {r : OrderRequest} {d : Resource.Directory}

/-- Certificates can be fetched without authentication if the terms of renewal say so. -/
theorem has_autoRenewalGet_iff : d.has .autoRenewalGet = true ↔
    ∃ terms, d.capabilities.autoRenewal = some terms ∧ terms.allowCertificateGet = some true := by
  simp [Resource.Directory.has, Resource.Capabilities.offersRenewalGet, Option.getD_eq_iff,
    Option.bind_eq_some_iff]

/-- A profile is offered if it is listed. -/
theorem has_profile_iff (name : String) :
    (d.has .profiles = true ∧ d.has (.profile name) = true) ↔
      ∃ profiles, d.capabilities.profiles = some profiles ∧ profiles.isEmpty = false ∧
        profiles.contains name = true := by
  simp only [Resource.Directory.has, Resource.Capabilities.offersProfiles,
    Resource.Capabilities.offersProfile]
  cases d.capabilities.profiles <;> simp

/-- Domains can be authorized through ancestors if the server says so. -/
theorem has_subdomains_iff :
    d.has .subdomains = true ↔ d.capabilities.subdomainAuthAllowed = some true := by
  simp [Resource.Directory.has, Resource.Capabilities.offersSubdomains, Option.getD_eq_iff]

/-- The features that are needed are those of the terms. -/
theorem mem_needs_iff {feature : Feature} : feature ∈ r.needs ↔
    (feature = .autoRenewal ∧ r.renews = true) ∨
    (feature = .autoRenewalGet ∧ r.renewalGet = true) ∨
    (feature = .renewalInformation ∧ r.replaces.isSome) ∨
    (∃ name, r.profile = some name ∧ (feature = .profiles ∨ feature = .profile name)) ∨
    (feature = .subdomains ∧ ∃ i ∈ r.identifiers, i.ancestor.isSome) := by
  have hancestors : r.hasAncestors = true ↔ ∃ i ∈ r.identifiers, i.ancestor.isSome := by
    simp [hasAncestors]
  simp only [needs, List.mem_append, ← hancestors, or_assoc]
  cases r.profile <;> simp [and_comm]

/-- A directory offers what is asked for if it has every feature that is needed. -/
theorem isOffered_iff : r.IsOffered d ↔ ∀ feature ∈ r.needs, d.has feature = true := by
  constructor
  · intro h feature hneeds
    rcases mem_needs_iff.mp hneeds with
      ⟨rfl, hr⟩ | ⟨rfl, hr⟩ | ⟨rfl, hr⟩ | ⟨name, hr, hf⟩ | ⟨rfl, hr⟩
    · exact h.renewal hr
    · exact has_autoRenewalGet_iff.mpr (h.get hr)
    · exact h.replacement hr
    · obtain ⟨hprofiles, hprofile⟩ := (has_profile_iff name).mpr (h.profile name hr)
      rcases hf with rfl | rfl
      · exact hprofiles
      · exact hprofile
    · exact has_subdomains_iff.mpr (h.subdomains hr)
  · intro h
    have hneeds (feature : Feature) := fun hf => h feature (mem_needs_iff.mpr hf)
    refine ⟨fun hr => ?_, fun hr => ?_, fun hr => ?_, fun name hr => ?_, fun hr => ?_⟩
    · exact hneeds .autoRenewal (by simp [hr])
    · exact has_autoRenewalGet_iff.mp (hneeds .autoRenewalGet (by simp [hr]))
    · exact hneeds .renewalInformation (by simp [hr])
    · exact (has_profile_iff name).mp
        ⟨hneeds .profiles (by simp [hr]), hneeds (.profile name) (by simp [hr])⟩
    · exact has_subdomains_iff.mp (hneeds .subdomains (by simpa using hr))

/-- No feature is found missing if all are offered. -/
theorem missing?_eq_none_iff : r.missing? d = none ↔ r.IsOffered d := by
  rw [isOffered_iff, missing?, List.find?_eq_none]
  simp

/-- The feature that is found missing is the first one. -/
theorem missing?_eq_some_iff {feature : Feature} :
    r.missing? d = some feature ↔ r.LacksFirst d feature := by
  unfold missing? LacksFirst
  rw [List.find?_eq_some_iff_append]
  simp only [Bool.not_eq_true', Bool.not_not]
  constructor
  · rintro ⟨hlacks, before, after, hneeds, hbefore⟩
    exact ⟨before, after, hneeds, hbefore, hlacks⟩
  · rintro ⟨before, after, hneeds, hbefore, hlacks⟩
    exact ⟨hlacks, before, after, hneeds, hbefore⟩

/-- A date is written unless it cannot be. -/
theorem timestamp_eq (date : Date) : timestamp date =
    match date.timestamp? with
    | some text => .ok text
    | none => .error date.refusal := by
  unfold timestamp Date.timestamp? Date.refusal
  cases date.universal? with
  | none => rfl
  | some u =>
    dsimp only [Option.bind_some]
    cases u.written? <;> rfl

/-- A date is written, if there is one, unless it cannot be. -/
theorem timestampOption_eq (o : Option Date) :
    timestampOption o = match o.toList.find? (·.timestamp?.isNone) with
      | some date => .error date.refusal
      | none => .ok (o.bind (·.timestamp?)) := by
  cases o with
  | none => rfl
  | some date =>
    simp only [timestampOption, Option.toList_some, List.find?_singleton, Option.bind_some,
      timestamp_eq]
    cases date.timestamp? <;> rfl

/-- All dates can be written if none is found that cannot. -/
theorem isWritable_iff : r.IsWritable ↔ r.unwritable? = none := by
  rw [unwritable?, List.find?_eq_none]
  simp [IsWritable, Option.isSome_iff_ne_none]

/-- What is sent fails at the first date that cannot be written, and at nothing else. -/
theorem payload_cases (r : OrderRequest) :
    (∃ date, r.unwritable? = some date ∧ r.payload = .error date.refusal) ∨
    r.unwritable? = none ∧ ∃ content, r.payload = .ok content := by
  unfold payload renewalOption renewalPayload unwritable? dates
  simp only [List.find?_append, timestampOption_eq]
  cases r.renews with
  | false =>
    cases r.notBefore.toList.find? (·.timestamp?.isNone) with
    | some date => exact Or.inl ⟨date, rfl, rfl⟩
    | none =>
      cases r.notAfter.toList.find? (·.timestamp?.isNone) with
      | some date => exact Or.inl ⟨date, rfl, rfl⟩
      | none => exact Or.inr ⟨rfl, _, rfl⟩
  | true =>
    simp only [if_true, List.find?_append]
    cases r.renewalStart.toList.find? (·.timestamp?.isNone) with
    | some date => exact Or.inl ⟨date, rfl, rfl⟩
    | none =>
      cases r.renewalEnd.toList.find? (·.timestamp?.isNone) with
      | some date => exact Or.inl ⟨date, rfl, rfl⟩
      | none =>
        cases r.notBefore.toList.find? (·.timestamp?.isNone) with
        | some date => exact Or.inl ⟨date, rfl, rfl⟩
        | none =>
          cases r.notAfter.toList.find? (·.timestamp?.isNone) with
          | some date => exact Or.inl ⟨date, rfl, rfl⟩
          | none => exact Or.inr ⟨rfl, _, rfl⟩

/-- What is done for an order once it may be sent. -/
def submit (r : OrderRequest) (owner : Credentials) (d : Resource.Directory)
    (content : Resource.NewOrder) : Action Order := do
  let response ←
    Session.send d.newOrder (some (Resource.NewOrder.codec.write content)) owner.signer
  let location ← response.location
  let answer ← response.decode Resource.Order.codec
  let blank : Resource.Order := { identifiers := r.identifiers }
  return { owner, location, content := ← blank.refreshed answer }

/-- Once the directory is there, an order is submitted unless something stops it. -/
theorem run_create {owner : Credentials} {s : Session} (hne : r.identifiers ≠ []) :
    (r.create owner).run s = match Session.currentDirectory.run s with
      | (.error e, t) => (.error e, t)
      | (.ok d, t) => match r.missing? d.content, r.payload with
        | some feature, _ => (.error (.unsupported feature), t)
        | none, .error e => (.error e, t)
        | none, .ok content => (r.submit owner d.content content).run t := by
  unfold create submit
  rw [if_neg (by simpa using hne), run_bind]
  rcases Session.currentDirectory.run s with ⟨e | d, t⟩
  · rfl
  · dsimp only
    cases r.missing? d.content with
    | some feature => rfl
    | none =>
      dsimp only
      rw [run_bind, run_lift]
      cases r.payload <;> rfl

/-- What comes after the message leaves the session alone. -/
theorem session_submit (r : OrderRequest) (owner : Credentials) (d : Resource.Directory)
    (content : Resource.NewOrder) (s : Session) : ((r.submit owner d content).run s).2 =
      ((Session.send d.newOrder (some (Resource.NewOrder.codec.write content))
        owner.signer).run s).2 := by
  unfold submit
  rw [run_bind]
  rcases (Session.send d.newOrder (some (Resource.NewOrder.codec.write content))
    owner.signer).run s with ⟨e | response, t⟩
  · rfl
  · have hE : Effect (fun s t : Session => t = s) := ⟨fun _ => rfl, fun h h' => h'.trans h⟩
    exact Keeps.bind hE (.lift hE _) (fun _ => .bind hE (.lift hE _) fun _ =>
      .bind hE (.lift hE _) fun _ => .pure hE _) t

end OrderRequest

namespace Session

/-- What looking up the directory does: nothing if it is at hand, else at most one request. -/
structure LooksUp (s t : Session) : Prop where
  known : s.directory.isSome → t = s
  nonce : t.nonce = s.nonce
  exchanges : ∃ sent, t.wire.exchanges = s.wire.exchanges ++ sent ∧ sent.length ≤ 1 ∧
    ∀ e ∈ sent, e.request.method = .get ∧ e.request.message = none

/-- Looking up the directory. -/
theorem looksUp_currentDirectory (s : Session) : s.LooksUp (currentDirectory.run s).2 := by
  cases hs : s.directory with
  | some d =>
    rw [run_currentDirectory s hs]
    exact ⟨fun _ => rfl, rfl, [], (List.append_nil _).symm, by simp, by simp⟩
  | none =>
    have h := refreshed_refreshDirectory s
    have hrun : currentDirectory.run s = refreshDirectory.run s := by
      unfold currentDirectory
      rw [run_bind, run_get]
      simp only [hs]
    rw [hrun]
    exact ⟨fun hsome => by simp [hs] at hsome, h.nonce_eq, h.exchanges_eq⟩

end Session

namespace OrderRequest

/-- What is promised of the gate that an order passes once the directory is there, if dates that
cannot be written are refused in some way. -/
structure Gate (refusal : Date → Error) (r : OrderRequest) (owner : Credentials)
    (d : CachedDirectory) (s : Session) (ending : Except Error Order × Session) : Prop where
  known : s.directory = some d
  /-- The first feature that is missing stops the order. -/
  unsupported : ∀ feature, r.LacksFirst d.content feature →
    ending = (.error (.unsupported feature), s)
  /-- If none is missing, the first date that cannot be written does. -/
  unwritable : r.IsOffered d.content → ∀ date,
    r.unwritable? = some date → ending = (.error (refusal date), s)
  /-- An order that is stopped changes nothing. -/
  stopped : ¬(r.IsOffered d.content ∧ r.IsWritable) → ending.2 = s
  /-- Any other order is sent in a signed message, if there is a connector for it. -/
  started : r.IsOffered d.content → r.IsWritable → ∃ content, r.payload = .ok content ∧
    ((∃ e, (Session.connect.run s).1 = .error e ∧ ending.1 = .error e ∧
        ending.2.wire = s.wire ∧ ending.2.nonce = s.nonce) ∨
      ∃ c first second, (Session.connect.run s).1 = .ok c ∧
        Delivery c d.content.newNonce d.content.newOrder
          (some (Resource.NewOrder.codec.write content)) owner.signer s.nonce
          s.wire.isConnected first second ∧
        ending.2.wire.exchanges =
          s.wire.exchanges ++ (first.exchanges ++ second.exchanges))
  /-- So something is sent exactly if nothing stops the order, where it can be sent at all. -/
  started_iff : ∀ c, (Session.connect.run s).1 = .ok c → s.wire.isConnected = true →
    (address? d.content.newNonce).isSome → (address? d.content.newOrder).isSome →
    (ending.2.wire.exchanges ≠ s.wire.exchanges ↔ r.IsOffered d.content ∧ r.IsWritable)

variable {refusal : Date → Error} {r : OrderRequest} {owner : Credentials} {s : Session}
  {d : CachedDirectory}

/-- The gate stops an order with an error. -/
theorem gate_of_stopped {e : Error} (hd : s.directory = some d)
    (hstop : ¬(r.IsOffered d.content ∧ r.IsWritable))
    (hunsupported : ∀ feature, r.LacksFirst d.content feature → e = .unsupported feature)
    (hunwritable : r.IsOffered d.content → ∀ date, r.unwritable? = some date →
      e = refusal date) : r.Gate refusal owner d s (.error e, s) where
  known := hd
  unsupported feature hlacks := by rw [hunsupported feature hlacks]
  unwritable hoffered date hdate := by rw [hunwritable hoffered date hdate]
  stopped _ := rfl
  started hoffered hwritable := absurd ⟨hoffered, hwritable⟩ hstop
  started_iff _ _ _ _ _ := iff_of_false (fun hne => hne rfl) hstop

/-- The gate lets an order through that is then submitted. -/
theorem gate_of_submit {content : Resource.NewOrder} (hd : s.directory = some d)
    (hoffered : r.IsOffered d.content) (hwritable : r.IsWritable)
    (hcontent : r.payload = .ok content) :
    r.Gate refusal owner d s ((r.submit owner d.content content).run s) := by
  have hsession := session_submit r owner d.content content s
  have hcases := Session.run_send_cases d.content.newOrder
    (some (Resource.NewOrder.codec.write content)) owner.signer s hd
  have hnone : r.missing? d.content = none := missing?_eq_none_iff.mpr hoffered
  refine ⟨hd, ?_, ?_, fun hstop => absurd ⟨hoffered, hwritable⟩ hstop, ?_, ?_⟩
  · intro feature hlacks
    rw [missing?_eq_some_iff.mpr hlacks] at hnone
    cases hnone
  · intro _ date hdate
    rw [isWritable_iff.mp hwritable] at hdate
    cases hdate
  · intro _ _
    refine ⟨content, hcontent, ?_⟩
    rw [hsession]
    rcases hcases with ⟨e, connectors, shared, he, hrun⟩ | hsent
    · refine Or.inl ⟨e, he, ?_, by rw [hrun]; rfl, by rw [hrun]; rfl⟩
      unfold submit
      rw [run_bind, hrun]
    · exact Or.inr hsent
  · intro c hc hconnected hnonce hurl
    refine iff_of_true ?_ ⟨hoffered, hwritable⟩
    rw [hsession]
    rcases hcases with ⟨e, _, _, he, _⟩ | ⟨c, first, second, _, hdelivery, hexchanges⟩
    · rw [hc] at he
      cases he
    · have hfirst := hdelivery.first_sends
      rw [hconnected] at hfirst
      have hne := hfirst.exchanges_ne_nil hnonce hurl
      rw [hexchanges]
      simp [hne]

/-- Once the directory is there, the gate lets an order through or stops it. -/
theorem gate_of_currentDirectory {t : Session} (owner : Credentials) (hne : r.identifiers ≠ [])
    (h : Session.currentDirectory.run s = (.ok d, t)) :
    r.Gate Date.refusal owner d t ((r.create owner).run s) := by
  have hd := Session.currentDirectory_eq_ok h
  rw [run_create hne, h]
  dsimp only
  cases hmissing : r.missing? d.content with
  | some feature =>
    have hnot : ¬r.IsOffered d.content := by
      rw [← missing?_eq_none_iff, hmissing]
      simp
    refine gate_of_stopped hd (fun hpass => hnot hpass.1) (fun feature' hlacks => ?_)
      fun hoffered => absurd hoffered hnot
    rw [missing?_eq_some_iff.mpr hlacks] at hmissing
    obtain rfl := Option.some.inj hmissing
    rfl
  | none =>
    have hoffered := missing?_eq_none_iff.mp hmissing
    rcases r.payload_cases with ⟨date, hdate, hpayload⟩ | ⟨hnone, content, hpayload⟩
    · rw [hpayload]
      refine gate_of_stopped hd (fun hpass => ?_) (fun feature hlacks => ?_)
        fun _ date' hdate' => ?_
      · rw [isWritable_iff.mp hpass.2] at hdate
        cases hdate
      · rw [missing?_eq_some_iff.mpr hlacks] at hmissing
        cases hmissing
      · rw [hdate] at hdate'
        obtain rfl := Option.some.inj hdate'
        rfl
    · rw [hpayload]
      exact gate_of_submit hd hoffered (isWritable_iff.mpr hnone) hpayload

/-- Dates that cannot be written are all refused as arguments exactly if there is such a date in
universal time as the first of them, or if there is none. -/
theorem Gate.refusedArgument_iff {ending : Except Error Order × Session}
    (h : r.Gate Date.refusal owner d s ending) : r.Gate Date.refusedArgument owner d s ending ↔
      (r.IsOffered d.content → ∀ date, r.unwritable? = some date →
        (UniversalTime.ofSeconds date.second).HasSignedDigits) := by
  constructor
  · intro hclaimed hoffered date hdate
    have heq := (h.unwritable hoffered date hdate).symm.trans
      (hclaimed.unwritable hoffered date hdate)
    exact Date.refusal_eq_iff.mp (Except.error.inj (Prod.mk.inj heq).1)
  · intro hyears
    refine ⟨h.known, h.unsupported, fun hoffered date hdate => ?_, h.stopped, h.started,
      h.started_iff⟩
    rw [← Date.refusal_eq_iff.mpr (hyears hoffered date hdate)]
    exact h.unwritable hoffered date hdate

/-- Without identifiers nothing is done. Otherwise the directory is looked up; once it is there, the
gate lets the order through or stops it. It refuses as an argument what it stops for a date exactly
if the year of that date in universal time has at most four digits. -/
theorem create_gated (r : OrderRequest) (owner : Credentials) (s : Session) :
    (r.identifiers = [] →
      (r.create owner).run s = (.error (.invalidArgument .noIdentifiers), s)) ∧
    (r.identifiers ≠ [] → s.LooksUp (Session.currentDirectory.run s).2 ∧
      match Session.currentDirectory.run s with
      | (.error e, t) => (r.create owner).run s = (.error e, t)
      | (.ok d, t) => r.Gate Date.refusal owner d t ((r.create owner).run s) ∧
        (r.Gate Date.refusedArgument owner d t ((r.create owner).run s) ↔
          (r.IsOffered d.content → ∀ date, r.unwritable? = some date →
            (UniversalTime.ofSeconds date.second).HasSignedDigits))) := by
  constructor
  · intro hnil
    unfold create
    rw [hnil]
    rfl
  · intro hne
    refine ⟨Session.looksUp_currentDirectory s, ?_⟩
    rcases h : Session.currentDirectory.run s with ⟨e | d, t⟩
    · rw [run_create hne, h]
    · have hgate := gate_of_currentDirectory owner hne h
      exact ⟨hgate, hgate.refusedArgument_iff⟩

/-- An order that begins in the last hour of the year 9999 at an offset of one hour to the west,
which is after that year in universal time, is not refused for its date. -/
theorem not_gated_last_hour :
    let lastHour : Date := { second := 253402300800, offset := -3600 }
    let r : OrderRequest := {
      identifiers := [⟨"dns", "a.example", none⟩], notBefore := some lastHour }
    let owner : Credentials := ⟨⟨1, by decide, by decide⟩, "https://localhost/account"⟩
    let d : CachedDirectory := {
      content := { newNonce := "https://localhost/nonce", newAccount := "https://localhost/account",
                   newOrder := "https://localhost/order" }
      validators := {}
      number := 0 }
    let s : Session := {
      uri := { scheme := "https", hasAuthority := true, host := some (.domain "localhost") }
      provider := .generic, directory := some d }
    (r.create owner).run s = (.error (.panic (.dateOutOfRange lastHour)), s) ∧
      ¬r.Gate Date.refusedArgument owner d s ((r.create owner).run s) := by
  intro lastHour r owner d s
  have hcurrent : Session.currentDirectory.run s = (.ok d, s) := Session.run_currentDirectory s rfl
  have hne : r.identifiers ≠ [] := List.cons_ne_nil _ _
  have hgate := gate_of_currentDirectory owner hne hcurrent
  have hoffered : r.IsOffered d.content := missing?_eq_none_iff.mp (by rfl)
  have hdate : r.unwritable? = some lastHour := by rfl
  have hrefusal : lastHour.refusal = .panic (.dateOutOfRange lastHour) := by rfl
  have hrun := hgate.unwritable hoffered lastHour hdate
  rw [hrefusal] at hrun
  refine ⟨hrun, fun hclaimed => ?_⟩
  have hargument := hclaimed.unwritable hoffered lastHour hdate
  rw [hrun] at hargument
  cases hargument

end OrderRequest

end AcmeClient

import AcmeClient.Proofs.Challenge.RecordValue
import AcmeClient.Proofs.DomainName.Final

/-!
# Issuers that a challenge offers

A challenge lists the issuers that a record may name. They are offered in ASCII and in their order.
A record takes an offered name as it is unless the name ends in a full stop: of several full stops
at the end only one is cut off, and none that becomes one in ASCII only.
-/

namespace AcmeClient.PersistentProof

open DomainName (toAscii withoutDots splitDot)

variable {c : Challenge} {issuer name name' account : String} {names : List String}
  {policy : Option String} {until? : Option Int}

/-- Whether no full stop remains at the end of an issuer's name, blanks aside: at most one is
written as such, and what comes before it does not end in one in ASCII. -/
structure EndsOnce (issuer : String) : Prop where
  written : ¬['.', '.'] <:+ Text.trimChars issuer.toList
  ascii : ∀ ascii, toAscii (.ofList (withoutDots (Text.trimChars issuer.toList))) = .ok ascii →
    ascii.toList.getLast? ≠ some '.'

/-- Whether all records for the account of a challenge can be made out to a name, and begin with
just this name. -/
def IsTakenAsIs (c : Challenge) (name : String) : Prop :=
  ∀ policy until?, ∃ value, record c name policy until? = .ok value ∧
    (name ++ "; accounturi=").toList <+: value.toList

/-- The issuers are the names that the challenge lists, one by one. -/
theorem issuers_eq_ok (h : issuers c = .ok names) :
    List.Forall₂ (fun issuer name => issuerName issuer = .ok name)
      (c.content.issuerDomainNames.getD []) names :=
  (mapM_eq_ok_iff.mp h).imp fun _ _ => mapError_eq_ok_iff.mp

/-- The name of an issuer is what is left without blanks and a full stop, in ASCII. -/
theorem issuerName_eq_ok (h : issuerName issuer = .ok name) :
    toAscii (.ofList (splitDot (Text.trimChars issuer.toList)).1) = .ok name := by
  unfold issuerName at h
  dsimp only at h
  split at h
  · cases h
  · exact h

/-- A domain in ASCII is its own name as an issuer if it does not end in a full stop. -/
theorem issuerName_of_toAscii (h : toAscii issuer = .ok name)
    (hlast : name.toList.getLast? ≠ some '.') : issuerName name = .ok name := by
  have htrim := DomainName.trimChars_of_isHostChar (DomainName.isHostChar_of_toAscii h)
  have hdot := DomainName.splitDot_of_getLast?_ne hlast
  have hne := DomainName.ne_nil_of_toAscii h
  rw [issuerName, htrim, hdot]
  dsimp only
  rw [if_neg hne, String.ofList_toList]
  exact DomainName.toAscii_of_toAscii h hlast

/-- A domain in ASCII that ends in a full stop has at most the rest as its name as an issuer. -/
theorem toList_issuerName_of_getLast? (h : toAscii issuer = .ok name)
    (hlast : name.toList.getLast? = some '.') (hname : issuerName name = .ok name') :
    name.toList = name'.toList ++ ['.'] := by
  have hchars := DomainName.isHostChar_of_toAscii h
  obtain ⟨rest, hrest⟩ := List.getLast?_eq_some_iff.mp hlast
  have hok := issuerName_eq_ok hname
  rw [DomainName.trimChars_of_isHostChar hchars, hrest, DomainName.splitDot_concat] at hok
  have hrestchars : ∀ c ∈ (String.ofList rest).toList, Idna.isHostChar c = true := by
    intro c hc
    rw [String.toList_ofList] at hc
    exact hchars c (hrest ▸ List.mem_append_left _ hc)
  rw [hrest, DomainName.toAscii_eq_self hrestchars hok, String.toList_ofList]

/-- The value of a record begins with the name of its issuer and the account. -/
theorem prefix_recordValue (hname : issuerName issuer = .ok name) :
    ∃ value, recordValue issuer account policy until? = .ok value ∧
      (name ++ "; accounturi=").toList <+: value.toList := by
  refine ⟨_, recordValue_eq hname, ?_⟩
  have hfirst (sep field : List Char) (more : List (List Char)) :
      field <+: sep.intercalate (field :: more) := by
    cases more with
    | nil => simp
    | cons next more =>
      rw [List.intercalate_cons_of_ne_nil (List.cons_ne_nil _ _), List.append_assoc]
      exact List.prefix_append _ _
  have hopening : "; accounturi=".toList = "; ".toList ++ "accounturi=".toList := rfl
  have haccount : "accounturi=".toList <+: ("accounturi=" ++ account).toList := by
    rw [String.toList_append]
    exact List.prefix_append _ _
  rw [String.toList_intercalate, fields]
  simp only [List.cons_append, List.nil_append, List.map_cons]
  rw [List.intercalate_cons_of_ne_nil (List.cons_ne_nil _ _), String.toList_append, hopening,
    List.append_assoc, List.prefix_append_right_inj, List.prefix_append_right_inj]
  exact haccount.trans (hfirst _ _ _)

/-- A name in ASCII is taken as it is exactly if it does not end in a full stop. -/
theorem isTakenAsIs_iff (h : toAscii issuer = .ok name) :
    IsTakenAsIs c name ↔ name.toList.getLast? ≠ some '.' := by
  constructor
  · intro htaken hlast
    obtain ⟨value, hvalue, hstart⟩ := htaken none none
    obtain ⟨name', hname, _⟩ := bind_eq_ok hvalue
    obtain ⟨value', hvalue', hstart'⟩ : ∃ value', record c name none none = .ok value' ∧
      (name' ++ "; accounturi=").toList <+: value'.toList := prefix_recordValue hname
    obtain rfl : value = value' := Except.ok.inj (hvalue.symm.trans hvalue')
    -- a full stop and a semicolon stand at the same place
    obtain ⟨rest, hrest⟩ := hstart
    obtain ⟨rest', hrest'⟩ := hstart'
    have hboth := hrest.trans hrest'.symm
    rw [String.toList_append, String.toList_append, toList_issuerName_of_getLast? h hlast hname]
      at hboth
    simp at hboth
  · intro hlast policy until?
    exact prefix_recordValue (issuerName_of_toAscii h hlast)

/-- A name ends in no full stop exactly if the issuer's name ends in at most one. -/
theorem endsOnce_iff (h : issuerName issuer = .ok name) :
    EndsOnce issuer ↔ name.toList.getLast? ≠ some '.' := by
  have hok := issuerName_eq_ok h
  by_cases htwo : ['.', '.'] <:+ Text.trimChars issuer.toList
  · obtain ⟨front, hfront⟩ := htwo
    have hcut : splitDot (Text.trimChars issuer.toList) = (front ++ ['.'], ['.']) := by
      rw [← hfront, ← DomainName.splitDot_concat, List.append_assoc]
      rfl
    rw [hcut] at hok
    refine iff_of_false (fun hends => hends.written ⟨front, hfront⟩) ?_
    exact not_not_intro (DomainName.getLast?_toAscii_concat hok)
  · have hcut : (splitDot (Text.trimChars issuer.toList)).1 =
        withoutDots (Text.trimChars issuer.toList) := by
      by_cases hlast : (Text.trimChars issuer.toList).getLast? = some '.'
      · obtain ⟨front, hfront⟩ := List.getLast?_eq_some_iff.mp hlast
        have hsingle : front.getLast? ≠ some '.' := by
          intro hstop
          obtain ⟨rest, rfl⟩ := List.getLast?_eq_some_iff.mp hstop
          exact htwo ⟨rest, by simp [hfront]⟩
        rw [hfront, DomainName.splitDot_concat]
        exact ((DomainName.withoutDots_append_replicate front 1).trans
          (DomainName.withoutDots_eq_self_iff.mpr hsingle)).symm
      · rw [DomainName.splitDot_of_getLast?_ne hlast,
          DomainName.withoutDots_eq_self_iff.mpr hlast]
    rw [hcut] at hok
    constructor
    · intro hends
      exact hends.ascii name hok
    · intro hlast
      refine ⟨htwo, fun ascii hascii => ?_⟩
      rwa [← Except.ok.inj (hok.symm.trans hascii)]

/-- The issuers are as many as the challenge lists, in the same order, and each is the name of the
one listed there. Records take a name as it is, exactly if the name does not end in a full stop,
exactly if the listed one ends in at most one. -/
theorem issuers_usable_iff (h : issuers c = .ok names) :
    names.length = (c.content.issuerDomainNames.getD []).length ∧
      List.Forall₂ (fun issuer name => issuerName issuer = .ok name ∧
        (name.toList.getLast? ≠ some '.' ↔ EndsOnce issuer) ∧
        (IsTakenAsIs c name ↔ EndsOnce issuer)) (c.content.issuerDomainNames.getD []) names := by
  have hnames := issuers_eq_ok h
  refine ⟨hnames.length_eq.symm, hnames.imp fun issuer name hname => ?_⟩
  have hends := endsOnce_iff hname
  exact ⟨hname, hends.symm, (isTakenAsIs_iff (issuerName_eq_ok hname)).trans hends.symm⟩

/-- A challenge that lists issuers. -/
def offering (listed : List String) : Challenge :=
  { owner := ⟨⟨1, by decide, by decide⟩, "https://ca.example.com/acct/1"⟩
    location := "https://ca.example.com/chall/1"
    content := { type := "dns-persist-01", url := "https://ca.example.com/chall/1",
                 issuerDomainNames := some listed } }

/-- Two issuers, written with capital letters and with a full stop at the end, are offered in
lowercase and can be used. -/
theorem issuers_usable_capitals :
    issuers (offering ["CA.Example.com.", " ca.example.org"]) =
        .ok ["ca.example.com", "ca.example.org"] ∧
      EndsOnce "CA.Example.com." ∧
      IsTakenAsIs (offering ["CA.Example.com.", " ca.example.org"])
        "ca.example.com" := by
  have hok : issuers (offering ["CA.Example.com.", " ca.example.org"]) =
      .ok ["ca.example.com", "ca.example.org"] := by decide +kernel
  obtain ⟨_, hall⟩ := issuers_usable_iff hok
  cases hall with
  | cons hfirst _ =>
    have hends := hfirst.2.1.mp (by decide)
    exact ⟨hok, hends, hfirst.2.2.mpr hends⟩

/-- Of two full stops one remains, so that the record is made out to another name than the one that
was offered. -/
theorem not_isTakenAsIs_of_two_stops :
    issuers (offering ["ca.example.com.."]) = .ok ["ca.example.com."] ∧
      record (offering ["ca.example.com.."]) "ca.example.com." =
        .ok "ca.example.com; accounturi=https://ca.example.com/acct/1" ∧
      ¬IsTakenAsIs (offering ["ca.example.com.."]) "ca.example.com." := by
  have hrecord : record (offering ["ca.example.com.."]) "ca.example.com." =
      .ok "ca.example.com; accounturi=https://ca.example.com/acct/1" := by decide +kernel
  refine ⟨by decide +kernel, hrecord, fun htaken => ?_⟩
  obtain ⟨value, hvalue, hstart⟩ := htaken none none
  obtain rfl := Except.ok.inj (hrecord.symm.trans hvalue)
  exact absurd hstart (by decide)

end AcmeClient.PersistentProof

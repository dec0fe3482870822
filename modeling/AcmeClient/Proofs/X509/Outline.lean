import AcmeClient.Proofs.X509.Validity

/-!
# Certificates as elements

The serial number of a certificate, the value of an extension and the identifier in it can be found
without reading the certificate as such: they are the contents of certain elements. What is read of
a certificate agrees with that.
-/

namespace AcmeClient.X509

open Der Der.Reader

/-- The fields of the signed part of a certificate. -/
def fields? (der : Bytes) : Option (List Element) := do
  match ← inner? der with
  | signed :: _ => elements? signed.content
  | [] => none

/-- The content of the serial number of a certificate, its first integer. -/
def serialContent? (der : Bytes) : Option Bytes := do
  ((← fields? der).find? (·.tag = 0x02)).map (·.content)

/-- The value of an extension if it has an identifier: the content of its last element. -/
def extensionValue? (oid : Bytes) (extension : Element) : Option Bytes :=
  match elements? extension.content with
  | some (first :: rest) =>
    if first = ⟨0x06, oid⟩ then rest.getLast?.map (·.content) else none
  | _ => none

/-- The value of the first extension of a certificate with an identifier. -/
def firstValue? (oid der : Bytes) : Option Bytes := do
  let extensions ← (← fields? der).find? (·.tag = 0xA3)
  (← inner? extensions.content).findSome? (extensionValue? oid)

/-- The content of the key identifier in the value of an extension for the key of an authority, its
first field. -/
def keyIdentifierContent? (value : Bytes) : Option Bytes := do
  let first ← (← inner? value).head?
  if first.tag = 0x80 then some first.content else none

variable {s t der value : Bytes} {e : Element} {es : List Element} {c : Certificate}

/-- The elements inside of a single element. -/
theorem inner?_of_passes (h : Passes s [e] []) (hinner : Passes e.content es []) :
    inner? s = some es := by
  rw [inner?, h.elements?_eq_some]
  exact hinner.elements?_eq_some

/-- An object identifier takes an element. -/
theorem takes_oid : Takes oid fun e x => e = ⟨0x06, x⟩ := by
  refine (takes_content 0x06).bind fun e c s x t he h => ?_
  split at h
  · cases h
    exact ⟨rfl, he⟩
  · cases h

/-- A serial number takes an element. -/
theorem takes_serial (tag : UInt8) : Takes (serial tag) fun e x => e = ⟨tag, x⟩ := by
  refine (takes_content tag).bind fun e c s x t he h => ?_
  split at h
  · cases h
    exact ⟨rfl, he⟩
  · cases h

/-- A bit string takes an element with the tag. -/
theorem takes_bitString (tag : UInt8) : Takes (bitString tag) fun e _ => e.tag = tag := by
  refine (takes_content tag).bind fun e c s x t he h => ?_
  subst he
  cases hbits : bits c with
  | none =>
    rw [hbits] at h
    cases h
  | some y =>
    rw [hbits] at h
    cases h
    exact ⟨rfl, rfl⟩

/-- A truth value takes an element, or nothing if it is missing. -/
theorem exists_of_boolOrFalse {x : Bool} (h : boolOrFalse s = some (x, t)) :
    ∃ flag, Passes s flag t := by
  obtain ⟨tag, u, hpeek, hread⟩ := exists_of_bind_eq_some h
  cases hpeek
  by_cases htag : s.head? = some 0x01
  · rw [if_pos htag] at hread
    obtain ⟨content, v, hcontent, hvalue⟩ := exists_of_bind_eq_some hread
    obtain ⟨e, he, _⟩ := takes_content 0x01 _ _ _ hcontent
    suffices t = v by
      rw [this]
      exact ⟨[e], .single he⟩
    split at hvalue
    · cases hvalue
      rfl
    · cases hvalue
      rfl
    · cases hvalue
  · rw [if_neg htag] at hread
    cases hread
    exact ⟨[], .none _⟩

/-- An extension has its identifier first and its value last. -/
theorem takes_extension : Takes Extension.read fun e x =>
    ∃ flag, elements? e.content = some (⟨0x06, x.oid⟩ :: flag ++ [⟨0x04, x.value⟩]) := by
  refine (takes_within 0x30 _).imp fun e x ⟨_, hread⟩ => ?_
  obtain ⟨oid, u, hoid, hread⟩ := exists_of_bind_eq_some hread
  obtain ⟨critical, v, hcritical, hread⟩ := exists_of_bind_eq_some hread
  obtain ⟨value, w, hvalue, hpair⟩ := exists_of_bind_eq_some hread
  cases hpair
  obtain ⟨_, hfirst, rfl⟩ := takes_oid _ _ _ hoid
  obtain ⟨flag, hflag⟩ := exists_of_boolOrFalse hcritical
  obtain ⟨_, hlast, rfl⟩ := takes_content 0x04 _ _ _ hvalue
  exact ⟨flag, ((Passes.more hfirst hflag).trans (.single hlast)).elements?_eq_some⟩

/-- The number of a field is in its tag. -/
theorem isLower_of_tag {number tag : UInt8} (he : e.tag = tag)
    (h : tag &&& 0xC0 = 0x80 ∧ tag &&& 0x1F < number) : IsLower number e := by
  rwa [IsLower, he]

/-- Optional fields with numbers below that of the extensions have such numbers. -/
theorem exists_of_takesField {α : Type} {P : Element → α → Prop} {number : UInt8} {x : Option α}
    (h : TakesField number P s x t) (hnumber : number ≤ 3) (hP : ∀ e x, P e x → IsLower 3 e) :
    ∃ es, Passes s es t ∧ ∀ e ∈ es, IsLower 3 e := by
  obtain ⟨lower, hlower, hend⟩ := h
  have hall : ∀ e ∈ lower, IsLower 3 e := fun e he =>
    ⟨(hlower e he).1, UInt8.lt_of_lt_of_le (hlower e he).2 hnumber⟩
  cases x with
  | none => exact ⟨lower, hend.1, hall⟩
  | some x =>
    obtain ⟨e, hpasses, he⟩ := hend
    refine ⟨_, hpasses, fun e' he' => ?_⟩
    rcases List.mem_append.mp he' with he' | he'
    · exact hall e' he'
    · rw [List.mem_singleton.mp he']
      exact hP e x he

/-- Fields with numbers below that of the extensions are no integers and do not have its tag. -/
theorem tag_ne_of_isLower (h : IsLower 3 e) : e.tag ≠ 0x02 ∧ e.tag ≠ 0xA3 := by
  constructor
  · intro htag
    rw [IsLower, htag] at h
    exact absurd h (by decide)
  · intro htag
    rw [IsLower, htag] at h
    exact absurd h (by decide)

/-- Whether elements are those of extensions: each has the identifier first and the value last. -/
def AreExtensions (es : List Element) (extensions : List Extension) : Prop :=
  List.Forall₂ (fun e x => ∃ flag,
    elements? e.content = some (⟨0x06, x.oid⟩ :: flag ++ [⟨0x04, x.value⟩])) es extensions

/-- Whether fields are those of a certificate: a version may stand before the serial number,
sequences and the identifiers of issuer and subject behind it, and the extensions at the end. -/
def AreFields (fields : List Element) (c : Certificate) : Prop :=
  ∃ before middle, (∀ e ∈ before, IsLower 3 e) ∧ (∀ e ∈ middle, IsLower 3 e ∨ e.tag = 0x30) ∧
    ((fields = before ++ ⟨0x02, c.serial⟩ :: middle ∧ c.extensions = []) ∨
      ∃ field es, fields = before ++ ⟨0x02, c.serial⟩ :: (middle ++ [field]) ∧ field.tag = 0xA3 ∧
        inner? field.content = some es ∧ AreExtensions es c.extensions)

/-- Whether the third of the fields behind the serial number of a certificate is its validity. -/
def HaveValidity (fields : List Element) (c : Certificate) : Prop :=
  ∃ before algorithm issuer validity more,
    fields = before ++ ⟨0x02, c.serial⟩ :: algorithm :: issuer :: validity :: more ∧
      (∀ e ∈ before, IsLower 3 e) ∧ EndsAt validity c.notAfter

/-- The signed part of a certificate is read field by field. -/
theorem takes_signedPart : Takes signedPart fun e c =>
    ∃ fields, elements? e.content = some fields ∧ AreFields fields c ∧ HaveValidity fields c := by
  refine (takes_within 0x30 _).imp fun e c ⟨_, hread⟩ => ?_
  obtain ⟨version, s₁, hversion, hread⟩ := exists_of_bind_eq_some hread
  by_cases hnewer : 2 < version.getD 0
  · simp only [if_pos hnewer] at hread
    cases hread
  simp only [if_neg hnewer] at hread
  obtain ⟨number, s₂, hserial, hread⟩ := exists_of_bind_eq_some hread
  obtain ⟨_, s₃, halgorithm, hread⟩ := exists_of_bind_eq_some hread
  obtain ⟨_, s₄, hissuer, hread⟩ := exists_of_bind_eq_some hread
  obtain ⟨notAfter, s₅, hvalidity, hread⟩ := exists_of_bind_eq_some hread
  obtain ⟨_, s₆, hsubject, hread⟩ := exists_of_bind_eq_some hread
  obtain ⟨_, s₇, hkey, hread⟩ := exists_of_bind_eq_some hread
  obtain ⟨_, s₈, hissuerId, hread⟩ := exists_of_bind_eq_some hread
  obtain ⟨_, s₉, hsubjectId, hread⟩ := exists_of_bind_eq_some hread
  obtain ⟨extensions, s₁₀, hextensions, hpair⟩ := exists_of_bind_eq_some hread
  cases hpair
  obtain ⟨before, hbefore, hbeforeLower⟩ := exists_of_takesField
    (takesField_of_tagged (takes_within 0xA0 _) hversion) (by decide)
    fun e x he => isLower_of_tag he.1 (by decide)
  obtain ⟨_, hserial, rfl⟩ := takes_serial 0x02 _ _ _ hserial
  obtain ⟨e₃, halgorithm, htag₃, _⟩ := takes_within 0x30 _ _ _ _ halgorithm
  obtain ⟨e₄, hissuer, htag₄, _⟩ := takes_within 0x30 _ _ _ _ hissuer
  obtain ⟨e₅, hvalidity, htag₅, hends⟩ := takes_validity _ _ _ hvalidity
  obtain ⟨e₆, hsubject, htag₆, _⟩ := takes_within 0x30 _ _ _ _ hsubject
  obtain ⟨e₇, hkey, htag₇, _⟩ := takes_within 0x30 _ _ _ _ hkey
  obtain ⟨ids, hissuerId, hidsLower⟩ := exists_of_takesField
    (takesField_of_tagged (takes_bitString 0x81) hissuerId) (by decide)
    fun e x he => isLower_of_tag he (by decide)
  obtain ⟨ids', hsubjectId, hidsLower'⟩ := exists_of_takesField
    (takesField_of_tagged (takes_bitString 0x82) hsubjectId) (by decide)
    fun e x he => isLower_of_tag he (by decide)
  obtain ⟨lower, hlower, hend⟩ := takesField_of_tagged (takes_within 0xA3 _) hextensions
  have hserials : Passes e.content (before ++ [⟨0x02, number⟩]) s₂ :=
    hbefore.trans (.single hserial)
  have hmiddle : Passes s₂ ([e₃, e₄, e₅, e₆, e₇] ++ ids ++ ids') s₉ :=
    ((Passes.more halgorithm (.more hissuer (.more hvalidity (.more hsubject
      (.single hkey))))).trans hissuerId).trans hsubjectId
  have hsequences : ∀ e ∈ [e₃, e₄, e₅, e₆, e₇] ++ ids ++ ids' ++ lower,
      IsLower 3 e ∨ e.tag = 0x30 := by
    have hall : ∀ e ∈ [e₃, e₄, e₅, e₆, e₇], e.tag = 0x30 := by
      simp [htag₃, htag₄, htag₅, htag₆, htag₇]
    intro e he
    simp only [List.append_assoc, List.mem_append] at he
    rcases he with he | he | he | he
    · exact .inr (hall e he)
    · exact .inl (hidsLower e he)
    · exact .inl (hidsLower' e he)
    · exact .inl (hlower e he)
  cases extensions with
  | none =>
    refine ⟨_, ((hserials.trans hmiddle).trans hend.1).elements?_eq_some,
      ⟨before, _, hbeforeLower, hsequences, .inl ⟨?_, rfl⟩⟩,
      before, e₃, e₄, e₅, e₆ :: e₇ :: (ids ++ ids' ++ lower), ?_, hbeforeLower, hends⟩ <;> simp
  | some extensions =>
    obtain ⟨field, hpasses, htag, hread⟩ := hend
    obtain ⟨sequence, hsequence, _, es, hes, hall⟩ := takes_list takes_extension _ _ _ hread
    refine ⟨_, ((hserials.trans hmiddle).trans hpasses).elements?_eq_some,
      ⟨before, _, hbeforeLower, hsequences,
        .inr ⟨field, es, ?_, htag, inner?_of_passes (.single hsequence) hes, hall⟩⟩,
      before, e₃, e₄, e₅, e₆ :: e₇ :: (ids ++ ids' ++ lower ++ [field]), ?_, hbeforeLower,
      hends⟩ <;> simp

/-- A certificate that can be read has the fields of its signed part first. -/
theorem fields?_of_decode? (h : Certificate.decode? der = some c) :
    ∃ fields, fields? der = some fields ∧ AreFields fields c ∧ HaveValidity fields c := by
  obtain ⟨whole, hwhole, _, hread⟩ := takes_within 0x30 _ _ _ _ (whole_eq_some_iff.mp h)
  obtain ⟨found, s₁, hsigned, hread⟩ := exists_of_bind_eq_some hread
  obtain ⟨_, s₂, halgorithm, hread⟩ := exists_of_bind_eq_some hread
  obtain ⟨_, s₃, hsignature, hpair⟩ := exists_of_bind_eq_some hread
  cases hpair
  obtain ⟨signed, hsigned, fields, hfields, hform⟩ := takes_signedPart _ _ _ hsigned
  obtain ⟨e, halgorithm, _⟩ := takes_within 0x30 _ _ _ _ halgorithm
  obtain ⟨e', hsignature, _⟩ := takes_bitString 0x03 _ _ _ hsignature
  have hinner := inner?_of_passes (.single hwhole)
    (.more hsigned (.more halgorithm (.single hsignature)))
  refine ⟨fields, ?_, hform⟩
  rw [fields?, hinner]
  exact hfields

/-- The serial number that is read is the content of the first integer. -/
theorem serialContent?_of_decode? (h : Certificate.decode? der = some c) :
    serialContent? der = some c.serial := by
  obtain ⟨fields, hfields, ⟨before, middle, hbefore, _, hform⟩, -⟩ := fields?_of_decode? h
  have hnone : before.find? (·.tag = 0x02) = none := by
    simp only [List.find?_eq_none, decide_eq_true_eq]
    exact fun e he => (tag_ne_of_isLower (hbefore e he)).1
  have hinteger (more : List Element) : (before ++ ⟨0x02, c.serial⟩ :: more).find? (·.tag = 0x02) =
      some ⟨0x02, c.serial⟩ := by
    simp [hnone]
  rw [serialContent?, hfields]
  rcases hform with ⟨rfl, _⟩ | ⟨field, es, rfl, _⟩
  · change ((before ++ _ :: middle).find? _).map _ = _
    rw [hinteger, Option.map_some]
  · change ((before ++ _ :: (middle ++ [field])).find? _).map _ = _
    rw [hinteger, Option.map_some]

/-- An element of an extension has the value of the extension, if the identifier is the one asked
for. -/
theorem extensionValue?_eq {oid : Bytes} {x : Extension} {flag : List Element}
    (h : elements? e.content = some (⟨0x06, x.oid⟩ :: flag ++ [⟨0x04, x.value⟩])) :
    extensionValue? oid e = if x.oid = oid then some x.value else none := by
  unfold extensionValue?
  rw [h]
  simp

/-- The first extension with an identifier is found among the elements. -/
theorem AreExtensions.findSome?_eq {oid : Bytes} {extensions : List Extension}
    (h : AreExtensions es extensions) : es.findSome? (extensionValue? oid) =
      (extensions.find? (·.oid = oid)).map (·.value) := by
  induction h with
  | nil => rfl
  | cons hfirst _ ih =>
    obtain ⟨flag, hflag⟩ := hfirst
    rw [List.findSome?_cons, List.find?_cons, extensionValue?_eq hflag, ih]
    split <;> simp_all

/-- The value that is read of the first extension with an identifier is that of the first element.
-/
theorem firstValue?_of_decode? (h : Certificate.decode? der = some c) (oid : Bytes) :
    firstValue? oid der = (c.extensions.find? (·.oid = oid)).map (·.value) := by
  obtain ⟨fields, hfields, ⟨before, middle, hbefore, hmiddle, hform⟩, -⟩ := fields?_of_decode? h
  have hnone : (before ++ ⟨0x02, c.serial⟩ :: middle).find? (·.tag = 0xA3) = none := by
    simp only [List.find?_eq_none, decide_eq_true_eq, List.forall_mem_append, List.forall_mem_cons]
    refine ⟨fun e he => (tag_ne_of_isLower (hbefore e he)).2, by decide, fun e he => ?_⟩
    rcases hmiddle e he with hlower | htag
    · exact (tag_ne_of_isLower hlower).2
    · rw [htag]
      decide
  rw [firstValue?, hfields]
  rcases hform with ⟨rfl, hempty⟩ | ⟨field, es, rfl, htag, hinner, hall⟩
  · rw [hempty]
    change (List.find? _ _).bind _ = _
    rw [hnone]
    rfl
  · change (List.find? _ _).bind _ = _
    rw [← List.cons_append, ← List.append_assoc, List.find?_append, hnone, Option.none_or,
      List.find?_singleton, htag]
    change (inner? field.content).bind _ = _
    rw [hinner]
    exact hall.findSome?_eq

/-- The key identifier that is read is the content of the first field. -/
theorem keyIdentifierContent?_of_decode? {a : AuthorityKey}
    (h : AuthorityKey.decode? value = some a) :
    keyIdentifierContent? value = a.keyIdentifier := by
  obtain ⟨whole, hwhole, _, hread⟩ := takes_within 0x30 _ _ _ _ (whole_eq_some_iff.mp h)
  obtain ⟨found, s₁, hfound, hread⟩ := exists_of_bind_eq_some hread
  obtain ⟨_, s₂, hissuer, hread⟩ := exists_of_bind_eq_some hread
  obtain ⟨_, s₃, hserial, hpair⟩ := exists_of_bind_eq_some hread
  cases hpair
  obtain ⟨first, hissuer, _⟩ := exists_of_takesField
    (takesField_of_tagged (takes_within 0xA1 _) hissuer) (by decide)
    fun e x he => isLower_of_tag he.1 (by decide)
  obtain ⟨second, hserial, _⟩ := exists_of_takesField
    (takesField_of_tagged (takes_serial 0x82) hserial) (by decide)
    fun e x he => isLower_of_tag (show e.tag = 0x82 by rw [he]) (by decide)
  obtain ⟨lower, hnone, hend⟩ := takesField_of_tagged (takes_content 0x80) hfound
  -- there is no lower number than zero
  obtain rfl : lower = [] := List.eq_nil_iff_forall_not_mem.mpr fun e he =>
    absurd (hnone e he).2 (UInt8.not_lt_zero)
  unfold keyIdentifierContent?
  cases found with
  | none =>
    obtain ⟨hstart, hfirst⟩ := hend
    have hfields := (hstart.trans hissuer).trans hserial
    rw [inner?_of_passes (.single hwhole) hfields]
    cases hes : [] ++ first ++ second with
    | nil => rfl
    | cons e es =>
      -- the first field has another tag, as it would have been read otherwise
      have htag : e.tag ≠ 0x80 := by
        intro htag
        rw [hes] at hfields
        cases hstart
        have hother := hfirst e.tag (Option.mem_def.mpr hfields.head?_eq)
        rw [htag] at hother
        exact absurd hother (by decide)
      exact if_neg htag
  | some k =>
    obtain ⟨_, hkey, rfl⟩ := hend
    rw [inner?_of_passes (.single hwhole) ((hkey.trans hissuer).trans hserial)]
    rfl

/-- A certificate for a day, with neither names nor a key, that nobody has signed. -/
def skeleton (serial : Bytes) (extensions : List Extension) : Bytes :=
  let algorithm := write 0x30 (write 0x06 Oid.ecdsaWithSha256)
  let date := write 0x17 (Utf8.encode "700102000000Z")
  let signed := write 0xA0 (writeNatural 2) ++ write 0x02 serial ++ algorithm ++ write 0x30 [] ++
    write 0x30 (date ++ date) ++ write 0x30 [] ++ write 0x30 (algorithm ++ write 0x03 [0]) ++
    write 0xA3 (write 0x30 (extensions.flatMap Extension.write))
  write 0x30 (write 0x30 signed ++ algorithm ++ write 0x03 [0])

end AcmeClient.X509

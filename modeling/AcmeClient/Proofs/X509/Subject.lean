import AcmeClient.Proofs.Der.Elements
import AcmeClient.Proofs.X509.Request

/-!
# Subjects of requests

The subject of a request is read from a text that the first domain is pasted into. Commas and plus
signs separate there, a backslash takes the meaning from the character after it, and a number sign
in front is a value in hexadecimal digits. So the subject is the domain and nothing else exactly if
the domain has no such characters.
-/

namespace AcmeClient.X509

open Der.Reader

namespace Attribute

variable {mark x y : UInt8} {text piece value : Bytes}

/-- A text without marks is a single piece. -/
theorem splitUnescaped_of_not_mem (h : mark ∉ text) : splitUnescaped mark x y text = [text] := by
  induction text generalizing x y with
  | nil => rfl
  | cons b text ih =>
    rw [List.mem_cons, not_or] at h
    rw [splitUnescaped, if_neg fun hb => h.1 hb.1.symm, ih h.2]

/-- There is at least one piece. -/
theorem splitUnescaped_ne_nil (mark x y : UInt8) (text : Bytes) :
    splitUnescaped mark x y text ≠ [] := by
  cases text with
  | nil => exact List.cons_ne_nil _ _
  | cons b text =>
    rw [splitUnescaped]
    split
    · exact List.cons_ne_nil _ _
    · split <;> exact List.cons_ne_nil _ _

/-- A single piece is the whole text, in which a backslash precedes each mark. -/
theorem eq_of_splitUnescaped (h : splitUnescaped mark x y text = [piece]) :
    piece = text ∧ (mark ∈ text → y = 0x5C ∨ 0x5C ∈ text) := by
  induction text generalizing x y piece with
  | nil =>
    cases h
    exact ⟨rfl, nofun⟩
  | cons b text ih =>
    rw [splitUnescaped] at h
    split at h
    · exact absurd (List.cons.inj h).2 (splitUnescaped_ne_nil _ _ _ _)
    · rename_i hmark
      split at h
      · rename_i hnil
        exact absurd hnil (splitUnescaped_ne_nil _ _ _ _)
      · rename_i first more hpieces
        obtain ⟨rfl, rfl⟩ := List.cons.inj h
        obtain ⟨rfl, hrest⟩ := ih hpieces
        refine ⟨rfl, fun hmem => ?_⟩
        rcases List.mem_cons.mp hmem with rfl | hmem
        · refine .inl (Decidable.byContradiction fun hy => hmark ⟨rfl, .inl hy⟩)
        · rcases hrest hmem with rfl | hslash
          · exact .inr List.mem_cons_self
          · exact .inr (List.mem_cons_of_mem _ hslash)

/-- A value without backslashes stands for itself. -/
theorem unescape?_of_not_mem (h : 0x5C ∉ text) : unescape? text = some text := by
  induction text with
  | nil => rfl
  | cons b text ih =>
    rw [List.mem_cons, not_or] at h
    have hb : ¬b = 0x5C := Ne.symm h.1
    have hrest := ih h.2
    match text, hrest with
    | [], _ => exact if_neg hb
    | [c], hrest => rw [unescape?, if_neg hb, hrest, Option.map_some]
    | c :: d :: rest, hrest => rw [unescape?, if_neg hb, hrest, Option.map_some]

/-- Backslashes make a value shorter. -/
theorem length_of_unescape? (h : unescape? text = some value) :
    value.length ≤ text.length ∧ (0x5C ∈ text → value.length < text.length) := by
  fun_induction unescape? text generalizing value with
  | case1 =>
    cases h
    exact ⟨Nat.le_refl _, nofun⟩
  | case2 =>
    cases h
    exact ⟨Nat.zero_le _, fun _ => Nat.zero_lt_one⟩
  | case3 b hb =>
    cases h
    exact ⟨Nat.le_refl _, fun hmem => absurd (List.mem_singleton.mp hmem).symm hb⟩
  | case4 c =>
    cases h
    exact ⟨by simp, fun _ => by simp⟩
  | case5 c =>
    obtain ⟨_, _, rfl⟩ := Option.map_eq_some_iff.mp h
    exact ⟨Nat.zero_le _, fun _ => Nat.zero_lt_succ _⟩
  | case6 b c hb ih =>
    obtain ⟨more, hmore, rfl⟩ := Option.map_eq_some_iff.mp h
    obtain ⟨hle, hlt⟩ := ih hmore
    refine ⟨Nat.succ_le_succ hle, fun hmem => Nat.succ_lt_succ (hlt ?_)⟩
    exact (List.mem_cons.mp hmem).resolve_left fun h => hb h.symm
  | case7 c d rest hc ih =>
    obtain ⟨more, hmore, rfl⟩ := Option.map_eq_some_iff.mp h
    have hle := (ih hmore).1
    simp only [List.length_cons] at hle ⊢
    exact ⟨by omega, fun _ => by omega⟩
  | case8 c d rest hc ih =>
    obtain ⟨_, _, h⟩ := Option.bind_eq_some_iff.mp h
    obtain ⟨_, _, h⟩ := Option.bind_eq_some_iff.mp h
    obtain ⟨more, hmore, h⟩ := Option.bind_eq_some_iff.mp h
    cases h
    have hle := (ih hmore).1
    simp only [List.length_cons] at hle ⊢
    exact ⟨by omega, fun _ => by omega⟩
  | case9 b c d rest hb ih =>
    obtain ⟨more, hmore, rfl⟩ := Option.map_eq_some_iff.mp h
    obtain ⟨hle, hlt⟩ := ih hmore
    refine ⟨Nat.succ_le_succ hle, fun hmem => Nat.succ_lt_succ (hlt ?_)⟩
    exact (List.mem_cons.mp hmem).resolve_left fun h => hb h.symm

/-- Octets are half as many as their digits. -/
theorem length_of_hexOctets? {digits octets : Bytes} (h : hexOctets? digits = some octets) :
    digits.length = 2 * octets.length := by
  fun_induction hexOctets? digits generalizing octets with
  | case1 =>
    cases h
    rfl
  | case2 => cases h
  | case3 a b rest ih =>
    obtain ⟨_, _, h⟩ := Option.bind_eq_some_iff.mp h
    obtain ⟨_, _, h⟩ := Option.bind_eq_some_iff.mp h
    obtain ⟨more, hmore, h⟩ := Option.bind_eq_some_iff.mp h
    cases h
    rw [List.length_cons, List.length_cons, List.length_cons, ih hmore]
    omega

/-- What follows the name of the type is the value of a common name. -/
theorem ofText?_commonName (value : Bytes) : ofText? (Utf8.encode "CN=" ++ value) =
    match value with
    | 0x23 :: digits => do
      let octets ← hexOctets? digits
      return ⟨Oid.commonName, ← Der.Reader.whole Der.Reader.element octets⟩
    | value => do return ⟨Oid.commonName, ⟨0x0C, ← unescape? value⟩⟩ := by
  have htype : typeOf? [0x43, 0x4E] = some Oid.commonName := by decide
  have hkey : (Utf8.encode "CN=" ++ value).takeWhile (· ≠ 0x3D) = [0x43, 0x4E] := rfl
  unfold ofText?
  rw [hkey]
  change (typeOf? [0x43, 0x4E]).bind _ = _
  rw [htype]
  rfl

/-- A common name has a value as it stands exactly if the value has no number sign in front and no
backslash. -/
theorem exists_ofText?_iff (value : Bytes) :
    (∃ tag, ofText? (Utf8.encode "CN=" ++ value) = some ⟨Oid.commonName, ⟨tag, value⟩⟩) ↔
      value.head? ≠ some 0x23 ∧ 0x5C ∉ value := by
  rw [ofText?_commonName]
  split
  · rename_i digits
    refine iff_of_false ?_ fun h => h.1 rfl
    -- the element is shorter than its octets, which are fewer than their digits
    rintro ⟨tag, h⟩
    obtain ⟨octets, hoctets, h⟩ := Option.bind_eq_some_iff.mp h
    obtain ⟨e, he, h⟩ := Option.bind_eq_some_iff.mp h
    have hcontent : e = ⟨tag, 0x23 :: digits⟩ := (Attribute.mk.inj (Option.some.inj h)).2
    have hlength := length_of_hexOctets? hoctets
    have hlt := length_lt_of_element (whole_eq_some_iff.mp he)
    rw [hcontent, List.length_cons, List.length_nil] at hlt
    omega
  · rename_i hplain
    have hhead : value.head? ≠ some 0x23 := by
      cases value with
      | nil => exact nofun
      | cons b value =>
        rintro ⟨⟩
        exact hplain value rfl
    rw [and_iff_right hhead]
    constructor
    · rintro ⟨tag, h⟩ hslash
      obtain ⟨found, hfound, h⟩ := Option.bind_eq_some_iff.mp h
      have hcontent : found = value :=
        (Der.Element.mk.inj (Attribute.mk.inj (Option.some.inj h)).2).2
      exact Nat.lt_irrefl _ (hcontent ▸ (length_of_unescape? hfound).2 hslash)
    · intro hslash
      refine ⟨0x0C, ?_⟩
      rw [unescape?_of_not_mem hslash]
      rfl

end Attribute

namespace Name

variable {name : Name} {s : String} {a : Attribute}

/-- A text is that of a set with a single attribute if it is the text of the attribute, and has plus
signs only if it has backslashes. -/
theorem ofText?_of_setOfText? {text : Bytes} (h : setOfText? text = some [a]) :
    Attribute.ofText? text = some a ∧ (0x2B ∈ text → 0x5C ∈ text) := by
  obtain ⟨set, hset, h⟩ := Option.bind_eq_some_iff.mp h
  split at h
  · cases h
    obtain ⟨piece, hpieces, hpiece⟩ := mapM_eq_singleton_iff.mp hset
    obtain ⟨rfl, hplus⟩ := Attribute.eq_of_splitUnescaped hpieces
    exact ⟨hpiece, fun hmem => (hplus hmem).resolve_left (by decide)⟩
  · cases h

/-- A text is that of a single attribute if it is the text of the attribute, and has commas and plus
signs only if it has backslashes. -/
theorem ofText?_of_singleton (h : ofText? s = some [[a]]) :
    Attribute.ofText? (Utf8.encode s) = some a ∧
      (0x2C ∈ Utf8.encode s ∨ 0x2B ∈ Utf8.encode s → 0x5C ∈ Utf8.encode s) := by
  obtain ⟨sets, hsets, h⟩ := Option.bind_eq_some_iff.mp h
  obtain rfl : sets = [[a]] := by
    rw [← List.reverse_reverse sets, Option.some.inj h]
    rfl
  obtain ⟨piece, hpieces, hpiece⟩ := mapM_eq_singleton_iff.mp hsets
  obtain ⟨rfl, hcomma⟩ := Attribute.eq_of_splitUnescaped hpieces
  obtain ⟨htext, hplus⟩ := ofText?_of_setOfText? hpiece
  exact ⟨htext, fun hmem => hmem.elim (fun h => (hcomma h).resolve_left (by decide)) hplus⟩

/-- A text without commas and plus signs is that of a single attribute. -/
theorem ofText?_eq_singleton (hcomma : 0x2C ∉ Utf8.encode s) (hplus : 0x2B ∉ Utf8.encode s)
    (h : Attribute.ofText? (Utf8.encode s) = some a) : ofText? s = some [[a]] := by
  have hset : setOfText? (Utf8.encode s) = some [a] := by
    rw [setOfText?, Attribute.splitUnescaped_of_not_mem hplus,
      mapM_eq_singleton_iff.mpr ⟨_, rfl, h⟩]
    rfl
  rw [ofText?, Attribute.splitUnescaped_of_not_mem hcomma, mapM_eq_singleton_iff.mpr ⟨_, rfl, hset⟩]
  rfl

/-- A set in order is a single attribute if it is one. -/
theorem sortedSet_eq_singleton_iff {set : List Attribute} : sortedSet set = [a] ↔ set = [a] := by
  have hperm : (sortedSet set).Perm set := List.mergeSort_perm _ _
  constructor
  · intro h
    rw [h] at hperm
    exact (List.singleton_perm.mp hperm).symm
  · rintro rfl
    exact List.mergeSort_singleton _

/-- A name in order is a single attribute if it is one. -/
theorem sorted_eq_singleton_iff : sorted name = [[a]] ↔ name = [[a]] := by
  rw [sorted, List.map_eq_singleton_iff]
  simp only [sortedSet_eq_singleton_iff]
  constructor
  · rintro ⟨set, rfl, rfl⟩
    rfl
  · rintro rfl
    exact ⟨_, rfl, rfl⟩

/-- Whether a name is a single common name with a value, and nothing else. -/
def IsCommonName (name : Name) (value : String) : Prop :=
  ∃ tag, name = [[⟨Oid.commonName, ⟨tag, Utf8.encode value⟩⟩]]

/-- Whether a value stands for itself in the text of a name: there is no number sign in front, and
nowhere a comma, a plus sign or a backslash. -/
def IsPlainText (value : String) : Prop :=
  value.toList.head? ≠ some '#' ∧ ',' ∉ value.toList ∧ '+' ∉ value.toList ∧ '\\' ∉ value.toList

instance (value : String) : Decidable (IsPlainText value) := inferInstanceAs (Decidable (_ ∧ _))

/-- A value in ASCII stands for itself if it has none of the octets with a meaning. -/
theorem isPlainText_iff {value : String} (h : ∀ c ∈ value.toList, c.toNat < 0x80) :
    IsPlainText value ↔ (Utf8.encode value).head? ≠ some 0x23 ∧ 0x2C ∉ Utf8.encode value ∧
      0x2B ∉ Utf8.encode value ∧ 0x5C ∉ Utf8.encode value := by
  have hmem (c : Char) (hc : c.toNat < 0x80) := Utf8.mem_encode_iff h hc
  have hhead := Utf8.head?_encode_eq_iff h (show '#'.toNat < 0x80 by decide)
  unfold IsPlainText
  rw [Ne, ← hhead, ← hmem ',' (by decide), ← hmem '+' (by decide), ← hmem '\\' (by decide)]
  rfl

/-- The name with a value pasted into its text is the common name exactly if the value stands for
itself. -/
theorem isCommonName_iff {value : String} (hascii : ∀ c ∈ value.toList, c.toNat < 0x80)
    (h : ofText? ("CN=" ++ value) = some name) : IsCommonName name value ↔ IsPlainText value := by
  have htext : Utf8.encode ("CN=" ++ value) = Utf8.encode "CN=" ++ Utf8.encode value :=
    Utf8.encode_append _ _
  have hvalue {b : UInt8} (hb : b ∉ Utf8.encode "CN=") :
      b ∈ Utf8.encode ("CN=" ++ value) ↔ b ∈ Utf8.encode value := by
    rw [htext, List.mem_append, or_iff_right hb]
  have hcomma := hvalue (b := 0x2C) (by decide)
  have hplus := hvalue (b := 0x2B) (by decide)
  have hslash := hvalue (b := 0x5C) (by decide)
  rw [isPlainText_iff hascii]
  constructor
  · rintro ⟨tag, rfl⟩
    obtain ⟨hattribute, hmarks⟩ := ofText?_of_singleton h
    rw [hcomma, hplus, hslash] at hmarks
    rw [htext] at hattribute
    obtain ⟨hhead, hnone⟩ := (Attribute.exists_ofText?_iff _).mp ⟨tag, hattribute⟩
    exact ⟨hhead, fun hmem => hnone (hmarks (.inl hmem)), fun hmem => hnone (hmarks (.inr hmem)),
      hnone⟩
  · rintro ⟨hhead, hnoComma, hnoPlus, hnoSlash⟩
    obtain ⟨tag, hattribute⟩ := (Attribute.exists_ofText?_iff _).mpr ⟨hhead, hnoSlash⟩
    rw [← htext] at hattribute
    have hname := ofText?_eq_singleton (hcomma.not.mpr hnoComma) (hplus.not.mpr hnoPlus) hattribute
    exact ⟨tag, Option.some.inj (h.symm.trans hname)⟩

end Name

namespace Request

open Name

/-- A request that is made can be read, and has the subject for its identifiers in order. -/
theorem exists_subject_of_make {key : SigningKey} {identifiers : List Identifier} {der : Bytes}
    (h : make key identifiers = .ok der) : ∃ r found, create key identifiers = .ok r ∧
      decode? der = some found ∧ found.subject = sorted r.subject := by
  obtain ⟨r, hr, rfl, hlength⟩ := make_eq_ok_iff.mp h
  obtain ⟨-, hsubject, -, hnames⟩ := create_eq_ok_iff.mp hr
  have hplain : ∀ g ∈ r.altNames, g.IsPlain := by
    intro g hg
    obtain ⟨i, -, hi, hnamed⟩ := exists_of_mem_right hnames hg
    exact isPlain_of_isNamed hi hnamed
  exact ⟨r, _, hr, decode?_sign (isReadable_of_subjectFor hsubject) hplain hlength, rfl⟩

/-- The subject for identifiers is read from the text of the first domain. -/
theorem ofText?_of_subjectFor {identifiers : List Identifier} {i : Identifier} {subject : Name}
    (hi : identifiers.find? (·.isDns) = some i) (h : subjectFor identifiers = .ok subject) :
    ofText? ("CN=" ++ i.value) = some subject := by
  rw [subjectFor, hi] at h
  dsimp only at h
  split at h
  · rename_i hname
    rw [hname, Except.ok.inj h]
  · cases h

/-- Every request that is made can be read, and has no subject if there is no domain among the
identifiers. Else its subject is the common name with the first domain as its value, and nothing
else, exactly if the domain stands for itself in the text of a name. -/
theorem make_names_first_domain (key : SigningKey) (identifiers : List Identifier) (der : Bytes)
    (h : make key identifiers = .ok der) : ∃ found, decode? der = some found ∧
      (identifiers.find? (·.isDns) = none → found.subject = []) ∧
      ∀ i, identifiers.find? (·.isDns) = some i →
        (IsCommonName found.subject i.value ↔ IsPlainText i.value) := by
  obtain ⟨r, found, hr, hfound, hsorted⟩ := exists_subject_of_make h
  obtain ⟨-, hsubject, -, hnames⟩ := create_eq_ok_iff.mp hr
  refine ⟨found, hfound, ?_, ?_⟩
  · intro hnone
    rw [subjectFor, hnone] at hsubject
    rw [hsorted, ← Except.ok.inj hsubject]
    rfl
  · intro i hi
    have hascii : ∀ c ∈ i.value.toList, c.toNat < 0x80 := by
      obtain ⟨g, -, hrequestable, -⟩ := exists_of_mem_left hnames (List.mem_of_find?_eq_some hi)
      rcases hrequestable with ⟨-, hchars⟩ | ⟨hip, -⟩
      · exact hchars
      · have hdns := List.find?_some hi
        rw [Identifier.isDns_of_isIp hip] at hdns
        cases hdns
    rw [← isCommonName_iff hascii (ofText?_of_subjectFor hi hsubject), hsorted]
    exact exists_congr fun tag => sorted_eq_singleton_iff

/-- A request can be made for a domain in ASCII if there is a subject for it. -/
theorem exists_make_of_ofText? (value : String) {subject : Name}
    (hascii : value.toList.all (·.toNat < 0x80) = true)
    (hsubject : ofText? ("CN=" ++ value) = some subject)
    (hlength : (writeInfo ⟨subject, SigningKey.smallest.publicPoint.octets,
      [.dns (Utf8.encode value)]⟩).length + 200 ≤ Der.longest) :
    ∃ der, make SigningKey.smallest [{ type := "dns", value }] = .ok der := by
  refine exists_make_of_create (create_eq_ok_iff.mpr ⟨List.cons_ne_nil _ _, ?_, rfl, ?_⟩) hlength
  · have hdns : Identifier.isDns { type := "dns", value } = true := rfl
    simp only [subjectFor, List.find?_cons_of_pos hdns, hsubject]
  · have hlow : ∀ c ∈ value.toList, c.toNat < 0x80 :=
      fun c hc => of_decide_eq_true (List.all_eq_true.mp hascii c hc)
    exact .cons ⟨.inl ⟨rfl, hlow⟩, (Identifier.isNamed_iff_of_isDns rfl).mpr rfl⟩ .nil

/-- A domain of the usual form is the subject. -/
theorem make_names_first_domain_usual :
    ∃ der found, make SigningKey.smallest [{ type := "dns", value := "a.example" }] = .ok der ∧
      decode? der = some found ∧ IsCommonName found.subject "a.example" := by
  have hsubject : ofText? ("CN=" ++ "a.example") =
      some [[⟨Oid.commonName, ⟨0x0C, Utf8.encode "a.example"⟩⟩]] := by decide +kernel
  obtain ⟨der, hder⟩ := exists_make_of_ofText? "a.example" (by decide) hsubject (by decide +kernel)
  obtain ⟨found, hfound, -, hname⟩ := make_names_first_domain _ _ _ hder
  exact ⟨der, found, hder, hfound, (hname _ rfl).mpr (by decide)⟩

/-- What follows a comma in a domain is another part of the subject. -/
theorem make_adds_organization : ∃ i der found,
    Identifier.dns "a.example,O=b" = .ok i ∧ make SigningKey.smallest [i] = .ok der ∧
      decode? der = some found ∧ ¬IsCommonName found.subject i.value ∧
      found.subject = [[⟨[0x55, 0x04, 0x0A], ⟨0x0C, Utf8.encode "b"⟩⟩],
        [⟨Oid.commonName, ⟨0x0C, Utf8.encode "a.example"⟩⟩]] := by
  have hsubject : ofText? ("CN=" ++ "a.example,o=b") =
      some [[⟨[0x55, 0x04, 0x0A], ⟨0x0C, Utf8.encode "b"⟩⟩],
        [⟨Oid.commonName, ⟨0x0C, Utf8.encode "a.example"⟩⟩]] := by decide +kernel
  obtain ⟨der, hder⟩ :=
    exists_make_of_ofText? "a.example,o=b" (by decide) hsubject (by decide +kernel)
  obtain ⟨r, found, hr, hfound, hsorted⟩ := exists_subject_of_make hder
  have htext := ofText?_of_subjectFor rfl (create_eq_ok_iff.mp hr).2.1
  have hsubject' := Option.some.inj (hsubject.symm.trans htext)
  rw [← hsubject'] at hsorted
  refine ⟨_, der, found, by decide +kernel, hder, hfound, ?_, ?_⟩
  · rw [hsorted]
    rintro ⟨tag, h⟩
    cases congrArg List.length h
  · rw [hsorted]
    decide +kernel

end Request

end AcmeClient.X509

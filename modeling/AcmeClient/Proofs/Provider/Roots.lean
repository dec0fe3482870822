import AcmeClient.Proofs.X509.StoredChains
import AcmeClient.Provider.Transport

/-!
# Root certificates of Pebble

The candidates for root certificates are tried in their order, but only for blocks: the first file
with whole sections and at least one block is taken. Whether its blocks are certificates is found
out when no other file is tried any more. So a damaged certificate is not passed over, as any other
unusable file is, but leaves no transport at all.
-/

namespace AcmeClient.Provider

/-- Whether a file can be read and has whole sections, which hold blocks of octets. -/
structure HasBlocks (files : Files) (path : String) (blocks : List Bytes) : Prop where
  sections : ∃ octets, files path = some octets ∧ Pem.certificatesIn? octets = some blocks
  ne_nil : blocks ≠ []

/-- Whether a file holds root certificates and nothing else in its blocks. -/
structure HoldsRoots (files : Files) (acceptsRoot : Bytes → Bool) (path : String)
    (roots : List Bytes) : Prop extends HasBlocks files path roots where
  accepted : ∀ der ∈ roots, acceptsRoot der = true

/-- Whether something is found in the first candidate in which anything is found. -/
def IsFirst (finds : String → List Bytes → Prop) (candidates : List String) (found : List Bytes) :
    Prop :=
  ∃ before path after, candidates = before ++ path :: after ∧ finds path found ∧
    ∀ other ∈ before, ∀ l, ¬finds other l

/-- Whether the root certificates of the first candidate that holds some are trusted, and the
configuration is refused exactly if no candidate does. -/
structure TrustsFirstUsable (files : Files) (acceptsRoot : Bytes → Bool)
    (settings : NetworkSettings) (candidates : List String) : Prop where
  trusted : ∀ roots, IsFirst (HoldsRoots files acceptsRoot) candidates roots →
    (pebble candidates).transport files acceptsRoot settings = .ok (some roots)
  refused : (∃ fault, (pebble candidates).transport files acceptsRoot settings =
      .error (.invalidConfiguration fault)) ↔
    ∀ path ∈ candidates, ∀ roots, ¬HoldsRoots files acceptsRoot path roots

section First

variable {finds : String → List Bytes → Prop} {candidates : List String} {path : String}
  {found other : List Bytes}

/-- Something is found first in the first candidate, or behind it if nothing is found there. -/
theorem isFirst_cons_iff : IsFirst finds (path :: candidates) found ↔
    finds path found ∨ (∀ l, ¬finds path l) ∧ IsFirst finds candidates found := by
  constructor
  · rintro ⟨before, first, after, hsplit, hfinds, hbefore⟩
    cases before with
    | nil =>
      obtain ⟨rfl, -⟩ := List.cons.inj hsplit
      exact .inl hfinds
    | cons skipped before =>
      obtain ⟨rfl, rfl⟩ := List.cons.inj hsplit
      obtain ⟨hskipped, hbefore⟩ := List.forall_mem_cons.mp hbefore
      exact .inr ⟨hskipped, before, first, after, rfl, hfinds, hbefore⟩
  · rintro (hfinds | ⟨hnone, before, first, after, rfl, hfinds, hbefore⟩)
    · exact ⟨[], path, candidates, rfl, hfinds, by simp⟩
    · exact ⟨path :: before, first, after, rfl, hfinds,
        List.forall_mem_cons.mpr ⟨hnone, hbefore⟩⟩

/-- Something is found first, or nothing is found in any candidate. -/
theorem exists_isFirst_or_forall_not (finds : String → List Bytes → Prop)
    (candidates : List String) :
    (∃ found, IsFirst finds candidates found) ∨ ∀ path ∈ candidates, ∀ l, ¬finds path l := by
  induction candidates with
  | nil => exact .inr (by simp)
  | cons path candidates ih =>
    by_cases hpath : ∃ l, finds path l
    · obtain ⟨l, hl⟩ := hpath
      exact .inl ⟨l, isFirst_cons_iff.mpr (.inl hl)⟩
    · rw [not_exists] at hpath
      rcases ih with ⟨found, hfound⟩ | hnone
      · exact .inl ⟨found, isFirst_cons_iff.mpr (.inr ⟨hpath, hfound⟩)⟩
      · exact .inr (List.forall_mem_cons.mpr ⟨hpath, hnone⟩)

/-- What is found first is found in one of the candidates. -/
theorem IsFirst.exists_mem (h : IsFirst finds candidates found) :
    ∃ path ∈ candidates, finds path found := by
  obtain ⟨before, path, after, rfl, hfinds, -⟩ := h
  exact ⟨path, by simp, hfinds⟩

/-- Only one thing is found first if only one is found in each candidate. -/
theorem IsFirst.unique (hone : ∀ path l l', finds path l → finds path l' → l = l')
    (h : IsFirst finds candidates found) (h' : IsFirst finds candidates other) :
    found = other := by
  induction candidates with
  | nil =>
    obtain ⟨path, hpath, -⟩ := h.exists_mem
    cases hpath
  | cons path candidates ih =>
    rcases isFirst_cons_iff.mp h with hl | ⟨hnone, hrest⟩ <;>
      rcases isFirst_cons_iff.mp h' with hl' | ⟨hnone', hrest'⟩
    · exact hone path found other hl hl'
    · exact absurd hl (hnone' found)
    · exact absurd hl' (hnone other)
    · exact ih hrest hrest'

end First

variable {files : Files} {acceptsRoot : Bytes → Bool} {settings : NetworkSettings}
  {candidates : List String} {path : String} {blocks roots : List Bytes}

/-- The blocks of a file are found if it has some. -/
theorem rootsIn?_eq_some_iff : rootsIn? files path = some blocks ↔ HasBlocks files path blocks := by
  have hsections : (files path).bind Pem.certificatesIn? = some blocks ↔
      ∃ octets, files path = some octets ∧ Pem.certificatesIn? octets = some blocks :=
    Option.bind_eq_some_iff
  unfold rootsIn?
  constructor
  · intro h
    split at h
    · cases h
    · cases h
    · rename_i found hnonempty hfound
      obtain rfl := Option.some.inj h
      refine ⟨hsections.mp hfound, ?_⟩
      rintro rfl
      exact hnonempty rfl
  · rintro ⟨h, hne⟩
    rw [hsections.mpr h]
    cases blocks with
    | nil => exact absurd rfl hne
    | cons block rest => rfl

/-- A file has at most one list of blocks. -/
theorem HasBlocks.unique (h : HasBlocks files path blocks) (h' : HasBlocks files path roots) :
    blocks = roots := by
  rw [← rootsIn?_eq_some_iff] at h h'
  rw [h] at h'
  exact Option.some.inj h'

/-- The blocks that are loaded are those of the first candidate that has some. -/
theorem loadRoots_eq_ok_iff :
    loadRoots files candidates = .ok blocks ↔ IsFirst (HasBlocks files) candidates blocks := by
  have hnone (path : String) : rootsIn? files path = none ↔ ∀ l, ¬HasBlocks files path l := by
    simp only [← rootsIn?_eq_some_iff, Option.eq_none_iff_forall_ne_some, ne_eq]
  have hfirst : candidates.findSome? (rootsIn? files) = some blocks ↔
      IsFirst (HasBlocks files) candidates blocks := by
    simp only [List.findSome?_eq_some_iff, hnone, rootsIn?_eq_some_iff, IsFirst]
  rw [← hfirst, loadRoots]
  cases candidates.findSome? (rootsIn? files) <;> simp

/-- Without blocks in any candidate, none are loaded. -/
theorem loadRoots_eq_error (h : ∀ path ∈ candidates, ∀ blocks, ¬HasBlocks files path blocks) :
    loadRoots files candidates = .error (.invalidConfiguration (.noTrustAnchor candidates)) := by
  have hnone : candidates.findSome? (rootsIn? files) = none := by
    apply List.findSome?_eq_none_iff.mpr
    intro path hpath
    apply Option.eq_none_iff_forall_ne_some.mpr
    intro blocks hblocks
    exact h path hpath blocks (rootsIn?_eq_some_iff.mp hblocks)
  rw [loadRoots, hnone]

/-- The first blocks are trusted if all of them are certificates, and else nothing is. -/
theorem transport_of_isFirst (hsettings : settings.isUsable = true)
    (h : IsFirst (HasBlocks files) candidates blocks) :
    (pebble candidates).transport files acceptsRoot settings =
      if ∀ der ∈ blocks, acceptsRoot der = true then .ok (some blocks)
      else .error .network := by
  have hload : loadRoots files candidates = .ok blocks := loadRoots_eq_ok_iff.mpr h
  have hall : blocks.all acceptsRoot = true ↔ ∀ der ∈ blocks, acceptsRoot der = true :=
    List.all_eq_true
  have htransport : (pebble candidates).transport files acceptsRoot settings =
      if blocks.all acceptsRoot = true then .ok (some blocks)
      else .error .network := by
    simp only [transport, hsettings, hload]
    rfl
  rw [htransport]
  simp only [hall]

/-- Without blocks in any candidate the configuration is refused. -/
theorem transport_of_forall_not (hsettings : settings.isUsable = true)
    (h : ∀ path ∈ candidates, ∀ blocks, ¬HasBlocks files path blocks) :
    (pebble candidates).transport files acceptsRoot settings =
      .error (.invalidConfiguration (.noTrustAnchor candidates)) := by
  simp only [transport, hsettings, loadRoots_eq_error h]
  rfl

/-- If the first blocks are certificates, the right ones are trusted. -/
theorem trustsFirstUsable_of_accepted (hsettings : settings.isUsable = true)
    (h : IsFirst (HasBlocks files) candidates blocks)
    (haccepted : ∀ der ∈ blocks, acceptsRoot der = true) :
    TrustsFirstUsable files acceptsRoot settings candidates := by
  have htransport : (pebble candidates).transport files acceptsRoot settings = .ok (some blocks) := by
    rw [transport_of_isFirst hsettings h, if_pos haccepted]
  obtain ⟨before, path, after, hsplit, hblocks, hbefore⟩ := h
  have husable : IsFirst (HoldsRoots files acceptsRoot) candidates blocks :=
    ⟨before, path, after, hsplit, ⟨hblocks, haccepted⟩,
      fun other hother l hroots => hbefore other hother l hroots.toHasBlocks⟩
  constructor
  · intro roots hroots
    have hsame : blocks = roots :=
      husable.unique (fun _ _ _ hl hl' => hl.toHasBlocks.unique hl'.toHasBlocks) hroots
    rw [htransport, hsame]
  · rw [htransport]
    refine iff_of_false (by simp) ?_
    intro hnone
    obtain ⟨path, hpath, hroots⟩ := husable.exists_mem
    exact hnone path hpath blocks hroots

/-- If the first blocks are not all certificates, either a candidate behind them is missed or the
blame is put elsewhere. -/
theorem not_trustsFirstUsable_of_damaged (hsettings : settings.isUsable = true)
    (h : IsFirst (HasBlocks files) candidates blocks)
    (hdamaged : ¬∀ der ∈ blocks, acceptsRoot der = true) :
    ¬TrustsFirstUsable files acceptsRoot settings candidates := by
  intro htrusts
  have htransport : (pebble candidates).transport files acceptsRoot settings = .error .network := by
    rw [transport_of_isFirst hsettings h, if_neg hdamaged]
  rcases exists_isFirst_or_forall_not (HoldsRoots files acceptsRoot) candidates with ⟨roots, hroots⟩ | hnone
  · have hok := htrusts.trusted roots hroots
    rw [htransport] at hok
    cases hok
  · obtain ⟨fault, hfault⟩ := htrusts.refused.mpr hnone
    rw [htransport] at hfault
    cases hfault

/-- The root certificates of the first candidate that holds some are trusted, and the configuration
is refused if none does, exactly if the first blocks in any candidate are accepted as roots. If they
are not, there is no transport, whatever the candidates behind them hold, and it is not the
configuration that is refused. -/
theorem trustsFirstUsable_iff (hsettings : settings.isUsable = true) :
    (TrustsFirstUsable files acceptsRoot settings candidates ↔
      ∀ blocks, IsFirst (HasBlocks files) candidates blocks →
        ∀ der ∈ blocks, acceptsRoot der = true) ∧
    (∀ blocks, IsFirst (HasBlocks files) candidates blocks →
      (pebble candidates).transport files acceptsRoot settings =
        if ∀ der ∈ blocks, acceptsRoot der = true then .ok (some blocks)
        else .error .network) ∧
    ((∀ path ∈ candidates, ∀ blocks, ¬HasBlocks files path blocks) →
      (pebble candidates).transport files acceptsRoot settings =
        .error (.invalidConfiguration (.noTrustAnchor candidates))) := by
  refine ⟨?_, fun blocks => transport_of_isFirst hsettings, transport_of_forall_not hsettings⟩
  constructor
  · intro h blocks hfirst
    by_contra hdamaged
    exact not_trustsFirstUsable_of_damaged hsettings hfirst hdamaged h
  · intro h
    rcases exists_isFirst_or_forall_not (HasBlocks files) candidates with ⟨blocks, hfirst⟩ | hnone
    · exact trustsFirstUsable_of_accepted hsettings hfirst (h blocks hfirst)
    · have hroots : ∀ path ∈ candidates, ∀ roots, ¬HoldsRoots files acceptsRoot path roots :=
        fun path hpath roots hholds => hnone path hpath roots hholds.toHasBlocks
      refine ⟨fun roots hfirst => ?_, ?_⟩
      · obtain ⟨path, hpath, hholds⟩ := hfirst.exists_mem
        exact absurd hholds (hroots path hpath roots)
      · exact iff_of_true ⟨_, transport_of_forall_not hsettings hnone⟩ hroots

open CertificateBundle (chainText smallest isIssued_replicate)

/-- The blocks of a chain are found in a file that consists of it. -/
theorem hasBlocks_chainText {chain : List Pem.Block} (h : Pem.IsChain chain)
    (hfile : files path = some (Utf8.encode (chainText chain))) :
    HasBlocks files path (chain.map (·.octets)) := by
  refine ⟨⟨Utf8.encode (chainText chain), hfile, ?_⟩, ?_⟩
  · rw [chainText, Pem.certificatesIn?_chainChars h.2]
  · simpa using h.1

/-- Accepts each certificate that can be read. -/
def acceptsReadable (der : Bytes) : Bool := (X509.Certificate.decode? der).isSome

/-- A file that is missing and one without blocks are passed over. -/
theorem trustsFirstUsable_iff_third :
    ({} : NetworkSettings).isUsable = true ∧
    TrustsFirstUsable (fun path => if path = "notes.txt" then some (Utf8.encode "not a certificate")
      else if path = "root.pem" then some (Utf8.encode (chainText [smallest])) else none)
      acceptsReadable {} ["missing.pem", "notes.txt", "root.pem"] := by
  refine ⟨rfl, (trustsFirstUsable_iff rfl).1.mpr ?_⟩
  generalize hfiles : (fun path => if path = "notes.txt" then
      some (Utf8.encode "not a certificate")
    else if path = "root.pem" then some (Utf8.encode (chainText [smallest])) else none : Files) =
      files
  have hroot : files "root.pem" = some (Utf8.encode (chainText [smallest])) := by
    subst hfiles
    rfl
  have hblocks : HasBlocks files "root.pem" [smallest.octets] :=
    hasBlocks_chainText (isIssued_replicate 0).chain hroot
  have hmissing : ∀ l, ¬HasBlocks files "missing.pem" l := by
    subst hfiles
    rintro l ⟨⟨octets, hoctets, -⟩, -⟩
    cases hoctets
  have hnotes : ∀ l, ¬HasBlocks files "notes.txt" l := by
    subst hfiles
    rintro l ⟨⟨octets, hoctets, hsections⟩, hne⟩
    obtain rfl := Option.some.inj hoctets
    have hnone : Pem.certificates? "not a certificate" = some [] := by decide
    rw [Pem.certificatesIn?_encode (by simp), hnone] at hsections
    exact hne (Option.some.inj hsections).symm
  have hfirst : IsFirst (HasBlocks files) ["missing.pem", "notes.txt", "root.pem"]
      [smallest.octets] :=
    ⟨["missing.pem", "notes.txt"], "root.pem", [], rfl, hblocks, by simp [hmissing, hnotes]⟩
  intro blocks hother
  obtain rfl := hfirst.unique (fun _ _ _ hl hl' => hl.unique hl') hother
  intro der hder
  obtain rfl := List.mem_singleton.mp hder
  exact (isIssued_replicate 0).certificates smallest List.mem_cons_self

/-- Octets that are no certificate, as they are written in a file. -/
def damaged : Pem.Block := .ofOctets [0, 0, 0] (List.cons_ne_nil _ _)

/-- A damaged certificate keeps the file behind it from being trusted. -/
theorem not_trustsFirstUsable_damaged : ¬∀ (files : Files) (settings : NetworkSettings)
    (candidates : List String), settings.isUsable = true →
      TrustsFirstUsable files acceptsReadable settings candidates := by
  intro h
  have hchain : Pem.IsChain [damaged] := ⟨List.cons_ne_nil _ _, by simp⟩
  have hblocks : HasBlocks (fun path => if path = "damaged.pem" then
      some (Utf8.encode (chainText [damaged]))
    else some (Utf8.encode (chainText [smallest]))) "damaged.pem" [damaged.octets] :=
    hasBlocks_chainText hchain rfl
  have hfirst : IsFirst (HasBlocks _) ["damaged.pem", "root.pem"] [damaged.octets] :=
    ⟨[], "damaged.pem", ["root.pem"], rfl, hblocks, by simp⟩
  have hsettings : ({} : NetworkSettings).isUsable = true := rfl
  refine not_trustsFirstUsable_of_damaged hsettings hfirst ?_ (h _ _ _ hsettings)
  intro hall
  have hnone : X509.Certificate.decode? damaged.octets = none := by decide
  have hsome := hall damaged.octets List.mem_cons_self
  rw [acceptsReadable, hnone] at hsome
  cases hsome

end AcmeClient.Provider

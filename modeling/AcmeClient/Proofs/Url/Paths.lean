import AcmeClient.Proofs.Results
import AcmeClient.Url.Parser

/-!
# The characters of a path

The path behind an authority has only characters that a path is written with: all others are
encoded, and following dots removes segments or leaves empty ones.
-/

namespace AcmeClient.Url

variable {scheme : String} {u : Url}

/-- Whether a path is written with a character. -/
def isPathChar (c : Char) : Bool := 0x20 ≤ c.toNat && c.toNat < 0x7F && !pathSet.contains c

/-- A path is written without blanks and controls. -/
theorem lt_of_isPathChar {c : Char} (h : isPathChar c = true) : 0x20 < c.toNat := by
  have hspace : c ≠ ' ' := by
    rintro rfl
    exact absurd h (by decide)
  have hne : c.toNat ≠ 0x20 := fun heq => hspace (Char.toNat_inj.mp heq)
  simp only [isPathChar, Bool.and_eq_true, decide_eq_true_eq] at h
  omega

/-- An encoded octet has characters that a path is written with. -/
theorem isPathChar_percentOctet (b : UInt8) : ∀ c ∈ percentOctet b, isPathChar c = true := by
  have hdigit : ∀ n : Fin 16, isPathChar (capitalDigit n) = true := by decide
  have hlt : b.toNat / 16 < 16 := by
    have := b.toNat_lt
    omega
  simp only [percentOctet, List.forall_mem_cons]
  exact ⟨by decide, hdigit ⟨_, hlt⟩, hdigit ⟨_, Nat.mod_lt _ (by decide)⟩, by simp⟩

/-- An encoded text has characters that a path is written with. -/
theorem isPathChar_percentEncode (cs : List Char) :
    ∀ c ∈ percentEncode pathSet cs, isPathChar c = true := by
  intro c hc
  obtain ⟨d, -, hc⟩ := List.mem_flatMap.mp hc
  unfold encodeChar at hc
  split at hc
  · obtain ⟨b, -, hc⟩ := List.mem_flatMap.mp hc
    exact isPathChar_percentOctet b c hc
  · rename_i hplain
    obtain rfl := List.mem_singleton.mp hc
    simp only [not_or, Nat.not_lt, Nat.not_le] at hplain
    simp [isPathChar, hplain]

/-- Following dots leaves segments that were there and empty ones. -/
theorem mem_walk {done rest : List (List Char)} {s : List Char} (h : s ∈ walk false done rest) :
    s = [] ∨ s ∈ done ∨ s ∈ rest := by
  induction rest generalizing done with
  | nil => exact .inr (.inl (List.mem_reverse.mp h))
  | cons t rest ih =>
    have hparent : ∀ x ∈ (if isDoubleDot t then parent false done else done), x ∈ done := by
      intro x hx
      split at hx
      · unfold parent at hx
        split at hx
        · exact hx
        · simp at hx
        · exact List.mem_cons_of_mem _ hx
      · exact hx
    rw [walk] at h
    dsimp only at h
    split at h
    · split at h
      · rcases List.mem_cons.mp (List.mem_reverse.mp h) with hs | hs
        · exact .inl hs
        · exact .inr (.inl (hparent s hs))
      · rcases ih h with hs | hs | hs
        · exact .inl hs
        · exact .inr (.inl (hparent s hs))
        · exact .inr (.inr (List.mem_cons_of_mem _ hs))
    · rcases ih h with hs | hs | hs
      · exact .inl hs
      · rcases List.mem_cons.mp hs with hs | hs
        · exact .inr (.inr (by simp [hs]))
        · exact .inr (.inl (hparent s hs))
      · exact .inr (.inr (List.mem_cons_of_mem _ hs))

/-- The path behind an authority has characters that a path is written with. -/
theorem isPathChar_pathAfterAuthority (hfile : scheme ≠ "file") (cs : List Char) :
    ∀ c ∈ (pathAfterAuthority scheme cs).chars, isPathChar c = true := by
  have hfrom (cs : List Char) : ∀ c ∈ (pathFrom scheme [] cs).chars, isPathChar c = true := by
    intro c hc
    simp only [pathFrom, beq_eq_false_iff_ne.mpr hfile, Path.chars, Bool.false_eq_true, if_false,
      List.reverse_nil, List.mem_flatMap] at hc
    obtain ⟨s, hs, hc⟩ := hc
    rcases List.mem_cons.mp hc with rfl | hc
    · decide
    · rcases mem_walk hs with rfl | hs | hs
      · cases hc
      · cases hs
      · obtain ⟨t, -, rfl⟩ := List.mem_map.mp hs
        exact isPathChar_percentEncode t c hc
  unfold pathAfterAuthority
  split
  · split
    · intro c hc
      obtain rfl : c = '/' := by simpa [Path.chars] using hc
      decide
    · simp [Path.chars]
  · split
    · exact hfrom _
    · exact hfrom _

/-- What follows the scheme of a file gives a file. -/
theorem scheme_of_fileFrom {cs : List Char} (h : fileFrom none cs = .ok u) : u.scheme = "file" := by
  have hrelative (cs : List Char) : (fileFrom.relative none cs).scheme = "file" := rfl
  have hrooted (cs : List Char) : (fileFrom.rooted none cs).scheme = "file" := rfl
  have hhost {cs : List Char} (h : fileWithHost cs = .ok u) : u.scheme = "file" := by
    unfold fileWithHost at h
    dsimp only at h
    split at h
    · cases h
      rfl
    · split at h
      all_goals
        obtain ⟨host, -, h⟩ := bind_eq_ok h
        cases h
        rfl
  unfold fileFrom at h
  dsimp only at h
  split at h
  · split at h
    · exact hhost h
    · split at h
      all_goals
        cases h
        simp only [hrelative, hrooted]
  · split at h
    all_goals
      cases h
      simp only [hrelative, hrooted]
  · cases h
    exact hrelative []

/-- What follows two slashes gives a URL with the path behind the authority. -/
theorem exists_path_of_afterSlashes {cs : List Char} (h : afterSlashes scheme cs = .ok u) :
    u.scheme = scheme ∧ ∃ rest, u.path = pathAfterAuthority scheme rest := by
  unfold afterSlashes at h
  dsimp only at h
  split at h
  · cases h
  split at h
  · cases h
  split at h
  all_goals
    obtain ⟨host, -, h⟩ := bind_eq_ok h
    generalize (if host = .domain "" then none else some host) = named at h
    split at h
    · cases h
    obtain ⟨port, -, h⟩ := bind_eq_ok h
    split at h
    · cases h
    cases h
    exact ⟨rfl, _, rfl⟩

/-- A URL with a host that is no file has a path behind an authority. -/
theorem exists_path_of_parse {s : String} (h : parse s = .ok u) (hhost : u.host ≠ none)
    (hfile : u.scheme ≠ "file") : ∃ rest, u.path = pathAfterAuthority u.scheme rest := by
  have hauthority {scheme : String} {cs : List Char} (h : afterSlashes scheme cs = .ok u) :
      ∃ rest, u.path = pathAfterAuthority u.scheme rest := by
    obtain ⟨hscheme, hpath⟩ := exists_path_of_afterSlashes h
    rwa [hscheme]
  unfold parse parseWith at h
  dsimp only at h
  split at h
  · unfold withScheme at h
    split at h
    · exact absurd (scheme_of_fileFrom h) hfile
    · split at h
      · exact hauthority h
      · split at h
        · exact hauthority h
        · cases h
          exact absurd rfl hhost
  · cases h

/-- The path of a URL with a host that is no file has characters that a path is written with. -/
theorem isPathChar_of_parse {s : String} (h : parse s = .ok u) (hhost : u.host ≠ none)
    (hfile : u.scheme ≠ "file") : ∀ c ∈ u.path.chars, isPathChar c = true := by
  obtain ⟨rest, hpath⟩ := exists_path_of_parse h hhost hfile
  rw [hpath]
  exact isPathChar_pathAfterAuthority hfile rest

end AcmeClient.Url

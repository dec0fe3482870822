import AcmeClient.Proofs.Idna.HostName

/-!
# Blanks in host names

A blank outside ASCII is either refused in a host name or mapped to the blank of ASCII, which a host
cannot hold. So a name with a blank cannot be brought into ASCII, whichever blank it is.
-/

namespace AcmeClient.Idna

open Unicode

variable {c : Char} {name : List Char}

/-- The code points of blanks outside ASCII. -/
def outerBlanks : List Nat :=
  [0x85, 0xA0, 0x1680, 0x2000, 0x2001, 0x2002, 0x2003, 0x2004, 0x2005, 0x2006, 0x2007, 0x2008,
    0x2009, 0x200A, 0x2028, 0x2029, 0x202F, 0x205F, 0x3000]

/-- Blanks outside ASCII are among these. -/
theorem mem_outerBlanks (h : Text.isBlank c = true) (hc : ¬c.toNat < 0x80) :
    c.toNat ∈ outerBlanks := by
  simp only [Text.isBlank, Bool.or_eq_true, Bool.and_eq_true, beq_iff_eq, decide_eq_true_eq] at h
  simp only [outerBlanks, List.mem_cons, List.not_mem_nil, or_false]
  omega

/-- Whether a run refuses its characters or maps them to the blank of ASCII. -/
def mapsToBlank (r : Run) : Bool := r.kind == 'X' || r.kind == 'C' && r.numbers == [0x20]

/-- Whether a run that ends where another one begins holds no blank outside ASCII, or else refuses
its characters or maps them to the blank of ASCII. -/
def sparesBlanks (r : Run) (next : Option Run) : Bool :=
  0x3000 < r.start || mapsToBlank r ||
    outerBlanks.all fun n => n < r.start || next.any (·.start ≤ n)

set_option maxRecDepth 1000000 in
/-- The run that holds a blank outside ASCII refuses its characters or maps them to the blank of
ASCII. -/
theorem mapsToBlank_of_find? {r : Run} (hr : hostRuns.find? c = some r)
    (hc : c.toNat ∈ outerBlanks) : mapsToBlank r = true := by
  have hspares : ∃ next, sparesBlanks r next = true ∧ r.start ≤ c.toNat ∧
      ∀ f ∈ next, c.toNat < f.start := by
    refine Runs.exists_of_find?_ofText ⟨?_, ?text, ?first, ?runs⟩ hr
    case text => rfl
    case first => decide +kernel
    case runs => decide +kernel
  obtain ⟨next, hspares, hle, hnext⟩ := hspares
  have hlarge : ∀ n ∈ outerBlanks, n ≤ 0x3000 := by decide
  rw [sparesBlanks, Bool.or_eq_true, Bool.or_eq_true] at hspares
  rcases hspares with (hbehind | hmaps) | hnone
  · exact absurd (of_decide_eq_true hbehind) (Nat.not_lt.mpr (Nat.le_trans hle (hlarge _ hc)))
  · exact hmaps
  · have hn := List.all_eq_true.mp hnone _ hc
    rw [Bool.or_eq_true, decide_eq_true_eq, Option.any_eq_true] at hn
    rcases hn with hlt | ⟨f, hf, hstart⟩
    · exact absurd hlt (Nat.not_lt.mpr hle)
    · exact absurd (of_decide_eq_true hstart) (Nat.not_le.mpr (hnext f hf))

/-- What holds of being refused and of what the run that is found does holds of the mapping. -/
theorem hostMapping_ind {P : HostMapping → Prop} (refused : P .refused)
    (found : ∀ r, hostRuns.find? c = some r → P (r.hostMapping c)) : P (hostMapping c) := by
  rw [hostMapping]
  cases hr : hostRuns.find? c with
  | none => exact refused
  | some r => exact found r hr

/-- A blank outside ASCII is refused or mapped to the blank of ASCII. -/
theorem hostMapping_of_mem_outerBlanks (hc : c.toNat ∈ outerBlanks) :
    hostMapping c = .refused ∨ hostMapping c = .replaced [' '] := by
  refine hostMapping_ind (P := fun m => m = .refused ∨ m = .replaced [' ']) (.inl rfl)
    fun r hr => ?_
  have hmaps := mapsToBlank_of_find? hr hc
  rw [mapsToBlank, Bool.or_eq_true, Bool.and_eq_true, beq_iff_eq, beq_iff_eq, beq_iff_eq] at hmaps
  rw [Run.hostMapping]
  rcases hmaps with hkind | ⟨hkind, hnumbers⟩
  · left
    rw [hkind]
    rfl
  · right
    rw [hkind, hnumbers]
    rfl

/-- Blanks are mapped amiss. -/
theorem isMappedAmiss_of_isBlank (h : Text.isBlank c = true) : IsMappedAmiss c := by
  by_cases hc : c.toNat < 0x80
  · have hall : ∀ n : Fin 128, Text.isBlank (Char.ofNat n) = true →
        isForbidden (Char.ofNat n) = true ∧ Char.ofNat n ∉ ['<', '>'] := by decide
    obtain ⟨hforbidden, hangle⟩ : isForbidden c = true ∧ c ∉ ['<', '>'] := by
      simpa only [Char.ofNat_toNat] using hall ⟨c.toNat, hc⟩ (by simpa using h)
    exact isMappedAmiss_of_isForbidden hforbidden hangle
  · intro text htext
    rw [mapChar?, if_neg hc] at htext
    rcases hostMapping_of_mem_outerBlanks (mem_outerBlanks h hc) with hmap | hmap
    · rw [hmap] at htext
      cases htext
    · rw [hmap] at htext
      cases htext
      exact ⟨' ', List.mem_singleton_self _, by decide, by decide⟩

end AcmeClient.Idna

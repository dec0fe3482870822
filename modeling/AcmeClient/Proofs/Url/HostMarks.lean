import AcmeClient.Proofs.Url.HostText

/-!
# Marks in the text of a host

Outside brackets a host is written with none of the characters that it cannot hold, and what stands
between brackets has colons. A text without colons is therefore no host if it has another mark of an
authority, and one with colons is a host only if it ends in a bracket.
-/

namespace AcmeClient.Url.Host

variable {text : List Char} {host : Host}

/-- There is at most one group in a text without colons, and nothing is left behind one. -/
theorem ipv6Groups_of_not_mem {room : Nat} {cs rest : List Char} {groups : List UInt16}
    (h : ':' ∉ cs) (hread : ipv6Groups (room + 1) cs = some (groups, rest)) :
    (groups = [] ∧ rest = cs) ∨ (groups.length = 1 ∧ rest = []) := by
  unfold ipv6Groups at hread
  cases hgroup : Ipv6.readGroup (cs.take 4) with
  | none =>
    simp only [hgroup, Option.some.injEq, Prod.mk.injEq] at hread
    exact .inl ⟨hread.1.symm, hread.2.symm⟩
  | some group =>
    obtain ⟨g, left⟩ := group
    have hleft : left ⊆ cs.take 4 := by
      unfold Ipv6.readGroup at hgroup
      dsimp only at hgroup
      split at hgroup
      · cases hgroup
      · cases hgroup
        exact List.dropWhile_subset _
    have hcolon : ':' ∉ left ++ cs.drop 4 := by
      intro hmem
      rcases List.mem_append.mp hmem with hmem | hmem
      · exact h (List.take_subset 4 cs (hleft hmem))
      · exact h (List.drop_subset 4 cs hmem)
    simp only [hgroup] at hread
    split at hread
    case h_1 =>
      simp only [Option.some.injEq, Prod.mk.injEq] at hread
      exact .inl ⟨hread.1.symm, hread.2.symm⟩
    case h_2 =>
      simp only [Option.some.injEq, Prod.mk.injEq] at hread
      exact .inr ⟨hread.1 ▸ rfl, hread.2.symm⟩
    case h_3 => cases hread
    case h_4 after hrest => exact absurd (hrest ▸ List.mem_cons_self) hcolon
    case h_5 after _ hrest => exact absurd (hrest ▸ List.mem_cons_self) hcolon
    case h_6 => cases hread

/-- An address of version 6 has a colon. -/
theorem colon_mem_of_ipv6? {cs : List Char} {x : Ipv6} (h : ipv6? cs = some x) : ':' ∈ cs := by
  by_contra hcolon
  unfold ipv6? at h
  simp only [Option.bind_eq_bind] at h
  split at h
  · simp at hcolon
  · simp at hcolon
  · obtain ⟨⟨groups, rest⟩, hread, hgroups⟩ := Option.bind_eq_some_iff.mp h
    rcases ipv6Groups_of_not_mem hcolon hread with ⟨rfl, rfl⟩ | ⟨hlength, rfl⟩
    · -- no group was read, which is neither eight groups nor six
      dsimp only at hgroups
      split at hgroups
      · simp at hgroups
      · exact hcolon List.mem_cons_self
      · simp at hgroups
    · simp [hlength] at hgroups

/-- What stands between brackets has a colon, and the second bracket is at the end. -/
theorem colon_mem_of_ofBracketed (h : ofBracketed text = .ok host) :
    ':' ∈ text ∧ text.getLast? = some ']' := by
  unfold ofBracketed at h
  split at h
  · rename_i hlast
    split at h
    · cases h
    · rename_i x hx
      exact ⟨List.drop_subset 1 text (List.dropLast_subset _ (colon_mem_of_ipv6? hx)), hlast⟩
  · cases h

/-- A text outside brackets with a character that a host cannot hold is no host. -/
theorem not_mem_of_ofName {c : Char} (h : ofName text = .ok host)
    (hforbidden : Idna.isForbidden c = true) (hsafe : c ∉ ['%', '<', '>']) : c ∉ text := by
  intro hc
  unfold ofName at h
  rw [← ascii?, ascii?_of_isForbidden hforbidden hsafe hc] at h
  cases h

/-- A host that is written without colons is written without any character that it cannot hold. -/
theorem not_mem_of_ofChars {c : Char} (h : ofChars text = .ok host) (hcolon : ':' ∉ text)
    (hforbidden : Idna.isForbidden c = true) (hsafe : c ∉ ['%', '<', '>']) : c ∉ text := by
  unfold ofChars at h
  split at h
  · exact absurd (colon_mem_of_ofBracketed h).1 hcolon
  · exact not_mem_of_ofName h hforbidden hsafe

/-- A host that is written with colons ends in a bracket. -/
theorem getLast?_of_ofChars (h : ofChars text = .ok host) (hcolon : ':' ∈ text) :
    text.getLast? = some ']' := by
  unfold ofChars at h
  split at h
  · exact (colon_mem_of_ofBracketed h).2
  · exact absurd hcolon (not_mem_of_ofName h (by decide) (by decide))

end AcmeClient.Url.Host

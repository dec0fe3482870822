import AcmeClient.Idna.Domain
import AcmeClient.Proofs.Results
import AcmeClient.Proofs.Text.Cutting
import AcmeClient.Proofs.Unicode.Normalization
import AcmeClient.Proofs.Unicode.Runs

/-!
# Host names in ASCII are final

Bringing a host name into ASCII gives an acceptable name, and an acceptable name stays as it is. A
full stop at the end makes one more label, an empty one. A character that a host cannot hold makes
the name unacceptable wherever it stands, unless a mark behind it makes another character of it:
that happens to the two angle brackets only.
-/

namespace AcmeClient.Idna

open Unicode

variable {name ascii : List Char} {c : Char}

section Chars

variable (h : isHostChar c = true)

include h

/-- Host names have characters of ASCII only. -/
theorem toNat_lt_of_isHostChar : c.toNat < 0x80 := by
  simp only [isHostChar, Bool.and_eq_true, decide_eq_true_eq] at h
  exact h.1.1

/-- Host names have no capital letters. -/
theorem toLower_of_isHostChar : c.toLower = c := by
  simp only [isHostChar, Bool.and_eq_true, Bool.not_eq_true'] at h
  exact dif_neg (of_decide_eq_false h.2)

/-- Host names have no blanks. -/
theorem isBlank_of_isHostChar : Text.isBlank c = false := by
  have hascii := toNat_lt_of_isHostChar h
  simp only [isHostChar, isForbidden, Bool.and_eq_true, Bool.not_eq_true', Bool.or_eq_false_iff,
    decide_eq_false_iff_not] at h
  simp only [Text.isBlank, Bool.or_eq_false_iff, Bool.and_eq_false_iff, beq_eq_false_iff_ne,
    decide_eq_false_iff_not]
  omega

/-- Host names have no character that a host cannot hold. -/
theorem ne_of_isHostChar {d : Char} (hd : isForbidden d = true) : c ≠ d := by
  rintro rfl
  simp [isHostChar, hd] at h

end Chars

/-- A label in ASCII stands for itself. -/
theorem encode?_of_forall_lt (h : ∀ c ∈ name, c.toNat < 0x80) : Label.encode? name = some name :=
  if_pos (List.all_eq_true.mpr fun c hc => decide_eq_true (h c hc))

/-- The characters of an acceptable name. -/
theorem isHostChar_of_isAcceptable (h : isAcceptable name = true) :
    ∀ c ∈ name, isHostChar c = true := by
  rw [isAcceptable, Bool.and_eq_true] at h
  exact List.all_eq_true.mp h.1

/-- What is brought into ASCII is acceptable. -/
theorem isAcceptable_of_toAscii? (h : toAscii? name = some ascii) : isAcceptable ascii = true := by
  simp only [toAscii?, Option.bind_eq_bind, Option.bind_eq_some_iff] at h
  obtain ⟨mapped, _, labels, _, h⟩ := h
  split at h
  · cases h
    assumption
  · cases h

/-- A name that is in ASCII already stays as it is, if it is acceptable. -/
theorem toAscii?_of_isHostChar (h : ∀ c ∈ name, isHostChar c = true) :
    toAscii? name = if isAcceptable name then some name else none := by
  have hlt : ∀ c ∈ name, c.toNat < 0x80 := fun c hc => toNat_lt_of_isHostChar (h c hc)
  have hmapped : name.mapM mapChar? = some (name.map ([·])) := by
    refine mapM_eq_some_map fun c hc => ?_
    rw [mapChar?, if_pos (hlt c hc), toLower_of_isHostChar (h c hc)]
  have hlabels : (Text.splitOn '.' name).mapM Label.encode? = some (Text.splitOn '.' name) := by
    conv_rhs => rw [← List.map_id (Text.splitOn '.' name)]
    refine mapM_eq_some_map fun label hlabel => encode?_of_forall_lt fun c hc => ?_
    exact hlt c (Text.subset_of_mem_splitOn '.' hlabel hc)
  have hflat : (name.map ([·])).flatten = name := List.flatMap_singleton' name
  simp only [toAscii?, hmapped, hflat, normalize_of_forall_lt hlt, hlabels, Option.bind_eq_bind,
    Option.bind_some, Text.join_splitOn]

section Forbidden

/-- Characters that a host cannot hold are in ASCII. -/
theorem toNat_lt_of_isForbidden (h : isForbidden c = true) : c.toNat < 0x80 := by
  simp only [isForbidden, Bool.or_eq_true, decide_eq_true_eq, beq_iff_eq,
    List.contains_iff_mem] at h
  rcases h with (h | h) | h
  · omega
  · omega
  · have hall : ['%', '#', '/', ':', '<', '>', '?', '@', '[', '\\', ']', '^', '|'].all
        (·.toNat < 0x80) = true := by decide
    exact of_decide_eq_true (List.all_eq_true.mp hall c h)

/-- Characters of ASCII in a label stay in it when the label is brought into ASCII. -/
theorem mem_of_encode?_eq_some {label : List Char} (hascii : c.toNat < 0x80) (hc : c ∈ label)
    (h : Label.encode? label = some ascii) : c ∈ ascii := by
  unfold Label.encode? at h
  split at h
  · cases h
    exact hc
  · split at h
    · cases h
    · cases h
      have hbasic : c ∈ label.filter (·.toNat < 0x80) :=
        List.mem_filter.mpr ⟨hc, decide_eq_true hascii⟩
      refine List.mem_append_right _ (List.mem_append_left _ ?_)
      rw [if_neg (List.ne_nil_of_mem hbasic)]
      exact List.mem_append_left _ hbasic

/-- Characters that a host cannot hold are no letters of ASCII. -/
theorem mapChar?_of_isForbidden (h : isForbidden c = true) : mapChar? c = some [c] := by
  have hall : ∀ n : Fin 128, isForbidden (Char.ofNat n) = true →
      (Char.ofNat n).toLower = Char.ofNat n := by decide
  have hlt := toNat_lt_of_isForbidden h
  have hlower : c.toLower = c := by simpa using hall ⟨c.toNat, hlt⟩ (by simpa using h)
  rw [mapChar?, if_pos hlt, hlower]

/-- Whether a run of decompositions is no composite that begins with a character that a host cannot
hold, save the two angle brackets. -/
def beginsAllowed (r : Run) : Bool :=
  r.kind != 'P' || r.numbers.head?.all fun n =>
    !isForbidden (Char.ofNat n) || ['<', '>'].contains (Char.ofNat n)

set_option maxRecDepth 1000000 in
/-- No composite begins with a character that a host cannot hold, save the two angle brackets. -/
theorem beginsAllowed_of_mem : ∀ r ∈ decompositionRuns, beginsAllowed r = true := by
  refine Runs.forall_ofText ⟨?_, ?text, ?runs⟩
  case text => rfl
  case runs => decide +kernel

/-- Characters that a host cannot hold, save the two angle brackets, compose with nothing behind
them. -/
theorem composePair?_of_isForbidden (h : isForbidden c = true) (hangle : c ∉ ['<', '>']) (d : Char) :
    composePair? c d = none := by
  have hlow := toNat_lt_of_isForbidden h
  have hfind : Array.find? (fun r => r.kind == 'P' && r.numbers == [c.toNat, d.toNat])
      decompositionRuns = none := by
    refine Array.find?_eq_none.mpr fun r hr hpair => ?_
    obtain ⟨hkind, hnumbers⟩ : r.kind = 'P' ∧ r.numbers = [c.toNat, d.toNat] := by
      simpa using hpair
    have hbegins := beginsAllowed_of_mem r hr
    simp only [beginsAllowed, hkind, hnumbers, List.head?_cons, Option.all_some, Char.ofNat_toNat,
      h, bne_self_eq_false, Bool.false_or, Bool.not_true, List.contains_iff_mem] at hbegins
    exact hangle hbegins
  unfold composePair?
  dsimp only
  rw [if_neg (by omega : ¬(0x1100 ≤ c.toNat ∧ _)), if_neg (by omega : ¬(0xAC00 ≤ c.toNat ∧ _)),
    hfind]
  split <;> rfl

/-- Whether a character is refused, or mapped to a text with a character that a host cannot hold,
save the two angle brackets. -/
def IsMappedAmiss (c : Char) : Prop :=
  ∀ text, mapChar? c = some text → ∃ d ∈ text, isForbidden d = true ∧ d ∉ ['<', '>']

/-- Characters that a host cannot hold are mapped to themselves. -/
theorem isMappedAmiss_of_isForbidden (h : isForbidden c = true) (hangle : c ∉ ['<', '>']) :
    IsMappedAmiss c := by
  intro text htext
  rw [mapChar?_of_isForbidden h] at htext
  cases htext
  exact ⟨c, List.mem_singleton_self c, h, hangle⟩

/-- A name with a character that is mapped amiss cannot be brought into ASCII. -/
theorem toAscii?_of_mem (h : IsMappedAmiss c) (hc : c ∈ name) : toAscii? name = none := by
  refine Option.eq_none_iff_forall_ne_some.mpr fun ascii hascii => ?_
  have hchars := isHostChar_of_isAcceptable (isAcceptable_of_toAscii? hascii)
  simp only [toAscii?, Option.bind_eq_bind, Option.bind_eq_some_iff] at hascii
  obtain ⟨mapped, hmapped, labels, hlabels, hascii⟩ := hascii
  obtain ⟨text, htext, hmap⟩ := exists_of_mem_left (mapM_eq_some_iff.mp hmapped) hc
  obtain ⟨d, hd, hforbidden, hangle⟩ := h text hmap
  have hlt := toNat_lt_of_isForbidden hforbidden
  have hmem : d ∈ Unicode.normalize mapped.flatten :=
    mem_normalize (Nat.lt_trans hlt (by decide)) (composePair?_of_isForbidden hforbidden hangle)
      (List.mem_flatten_of_mem htext hd)
  split at hascii
  · cases hascii
    -- the character is in a label, so that it is in the name
    have hstop : d ≠ '.' := by
      rintro rfl
      exact absurd hforbidden (by decide)
    obtain ⟨label, hlabel, hd⟩ := Text.exists_mem_splitOn '.' hmem hstop
    obtain ⟨encoded, hencoded, hlabel⟩ := exists_of_mem_left (mapM_eq_some_iff.mp hlabels) hlabel
    have hjoin : d ∈ Text.join ['.'] labels :=
      Text.subset_join hencoded (mem_of_encode?_eq_some hlt hd hlabel)
    exact ne_of_isHostChar (hchars d hjoin) hforbidden rfl
  · cases hascii

end Forbidden

section FullStop

/-- A full stop at the end does not matter for the rule for mixed directions. -/
theorem directionsFit_concat_nil (labels : List (List Char)) :
    directionsFit (labels ++ [[]]) = directionsFit labels := by
  simp [directionsFit, followsBidiRule]

/-- A full stop at the end does not matter for whether a name is acceptable. -/
theorem isAcceptable_concat (name : List Char) :
    isAcceptable (name ++ ['.']) = isAcceptable name := by
  have hchar : isHostChar '.' = true := by decide
  have hlabel : Label.decode? [] = some [] := rfl
  have hlabels : (Text.splitOn '.' (name ++ ['.'])).mapM Label.decode? =
      ((Text.splitOn '.' name).mapM Label.decode?).map (· ++ [[]]) := by
    rw [Text.splitOn_append_cons, List.mapM_append]
    cases (Text.splitOn '.' name).mapM Label.decode? <;> rfl
  rw [isAcceptable, isAcceptable, hlabels, List.all_append, List.all_cons, hchar]
  cases (Text.splitOn '.' name).mapM Label.decode? with
  | none => simp
  | some labels => simp [directionsFit_concat_nil]

/-- What follows a full stop in an acceptable name is acceptable. -/
theorem isAcceptable_of_append {front rest : List Char}
    (h : isAcceptable (front ++ '.' :: rest) = true) : isAcceptable rest = true := by
  rw [isAcceptable, Text.splitOn_append_cons, List.mapM_append, Bool.and_eq_true] at h
  obtain ⟨hchars, hlabels⟩ := h
  have hrest : rest.all isHostChar = true := by
    rw [List.all_append, List.all_cons, Bool.and_eq_true, Bool.and_eq_true] at hchars
    exact hchars.2.2
  rw [isAcceptable, hrest, Bool.true_and]
  cases hfront : (Text.splitOn '.' front).mapM Label.decode? with
  | none => simp [hfront] at hlabels
  | some xs =>
    cases hdecoded : (Text.splitOn '.' rest).mapM Label.decode? with
    | none => simp [hfront, hdecoded] at hlabels
    | some ys =>
      have hfits : directionsFit (xs ++ ys) = true := by simpa [hfront, hdecoded] using hlabels
      simp only [directionsFit, List.any_append, List.all_append, Bool.or_eq_true,
        Bool.not_eq_true', Bool.or_eq_false_iff, Bool.and_eq_true] at hfits ⊢
      exact hfits.imp And.right And.right

/-- A full stop at the end of a name stays there when the name is brought into ASCII. -/
theorem toAscii?_concat (name : List Char) :
    toAscii? (name ++ ['.']) = (toAscii? name).map (· ++ ['.']) := by
  have hstop : '.'.toNat < 0xC0 := by decide
  have hmapped : (name ++ ['.']).mapM mapChar? = (name.mapM mapChar?).map (· ++ [['.']]) := by
    rw [List.mapM_append]
    cases name.mapM mapChar? <;> rfl
  have hlabels (cs : List Char) : (Text.splitOn '.' (cs ++ ['.'])).mapM Label.encode? =
      ((Text.splitOn '.' cs).mapM Label.encode?).map (· ++ [[]]) := by
    rw [Text.splitOn_append_cons, List.mapM_append]
    cases (Text.splitOn '.' cs).mapM Label.encode? <;> rfl
  unfold toAscii?
  rw [hmapped]
  cases name.mapM mapChar? with
  | none => rfl
  | some mapped =>
    simp only [Option.map_some, Option.bind_eq_bind, Option.bind_some, List.flatten_append,
      List.flatten_singleton, normalize_concat hstop, hlabels]
    cases hencoded : (Text.splitOn '.' (normalize mapped.flatten)).mapM Label.encode? with
    | none => rfl
    | some labels =>
      have hne : labels ≠ [] := by
        rintro rfl
        exact Text.splitOn_ne_nil '.' _
          (List.forall₂_nil_right_iff.mp (mapM_eq_some_iff.mp hencoded))
      simp only [Option.map_some, Option.bind_some, Text.join_concat_nil _ hne,
        isAcceptable_concat]
      split <;> rfl

end FullStop

end AcmeClient.Idna

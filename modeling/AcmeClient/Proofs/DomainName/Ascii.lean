import AcmeClient.DomainName
import AcmeClient.Proofs.Url.HostText

/-!
# Domain names in ASCII are final

A domain name in ASCII has the characters of host names only and stays as it is. Full stops at the
end of a name are carried over one by one.
-/

namespace AcmeClient.DomainName

open Url (Host)

variable {s ascii : String} {cs : List Char} {c : Char}

section FullStops

/-- What remains without full stops does not end in one. -/
theorem getLast?_withoutDots_ne (cs : List Char) : (withoutDots cs).getLast? ≠ some '.' :=
  fun h => absurd (Text.getLast?_dropEndWhile (· = '.') cs '.' h) (by simp)

/-- The full stops that are cut off make up the name with the rest. -/
theorem exists_eq_withoutDots_append (cs : List Char) :
    ∃ n, cs = withoutDots cs ++ List.replicate n '.' := by
  obtain ⟨cut, hcut, hdots⟩ := Text.exists_dropEndWhile_append (· = '.') cs
  refine ⟨cut.length, ?_⟩
  rw [← List.eq_replicate_of_mem fun c hc => of_decide_eq_true (hdots c hc)]
  exact hcut

/-- Full stops at the end are cut off however many there are. -/
theorem withoutDots_append_replicate (cs : List Char) (n : Nat) :
    withoutDots (cs ++ List.replicate n '.') = withoutDots cs :=
  Text.dropEndWhile_append fun _ hc => decide_eq_true (List.eq_of_mem_replicate hc)

/-- Nothing is cut off a name that does not end in a full stop. -/
theorem withoutDots_eq_self_iff : withoutDots cs = cs ↔ cs.getLast? ≠ some '.' := by
  constructor
  · intro h hlast
    rw [← h] at hlast
    exact getLast?_withoutDots_ne cs hlast
  · intro h
    refine Text.dropEndWhile_of_getLast? fun c hc => decide_eq_false ?_
    rintro rfl
    exact h hc

end FullStops

/-- A name is split behind the wildcard label, or does not begin with it and is left whole. -/
theorem splitWildcard_cases (cs : List Char) :
    (∃ rest, cs = wildcard ++ rest ∧ splitWildcard cs = (wildcard, rest)) ∨
      ¬wildcard <+: cs ∧ splitWildcard cs = ([], cs) := by
  unfold splitWildcard
  split
  · rename_i rest hrest
    exact .inl ⟨rest, Text.after?_eq_some_iff.mp hrest, rfl⟩
  · rename_i hnone
    refine .inr ⟨?_, rfl⟩
    rintro ⟨rest, hrest⟩
    rw [Text.after?_eq_some_iff.mpr hrest.symm] at hnone
    cases hnone

/-- A name is split before a full stop at its end, or does not end in one and is left whole. -/
theorem splitDot_cases (cs : List Char) :
    (∃ rest, cs = rest ++ ['.'] ∧ splitDot cs = (rest, ['.'])) ∨
      cs.getLast? ≠ some '.' ∧ splitDot cs = (cs, []) := by
  unfold splitDot
  split
  · rename_i rest hrest
    exact .inl ⟨rest, Text.beforeLast?_eq_some_iff.mp hrest, rfl⟩
  · rename_i hnone
    refine .inr ⟨fun hlast => ?_, rfl⟩
    obtain ⟨rest, hrest⟩ := List.getLast?_eq_some_iff.mp hlast
    rw [Text.beforeLast?_eq_some_iff.mpr hrest] at hnone
    cases hnone

/-- The wildcard label and the rest make up the name. -/
theorem splitWildcard_append (cs : List Char) :
    (splitWildcard cs).1 ++ (splitWildcard cs).2 = cs := by
  rcases splitWildcard_cases cs with ⟨rest, hcs, h⟩ | ⟨_, h⟩
  · rw [h, ← hcs]
  · rw [h, List.nil_append]

/-- The full stop at the end and the rest make up the name. -/
theorem splitDot_append (cs : List Char) : (splitDot cs).1 ++ (splitDot cs).2 = cs := by
  rcases splitDot_cases cs with ⟨rest, hcs, h⟩ | ⟨_, h⟩
  · rw [h, ← hcs]
  · rw [h, List.append_nil]

/-- Only the wildcard label is set aside in front. -/
theorem splitWildcard_fst (cs : List Char) :
    (splitWildcard cs).1 = [] ∨ (splitWildcard cs).1 = wildcard := by
  rcases splitWildcard_cases cs with ⟨rest, _, h⟩ | ⟨_, h⟩
  · exact .inr (by rw [h])
  · exact .inl (by rw [h])

/-- Only a full stop is set aside at the end. -/
theorem splitDot_snd (cs : List Char) : (splitDot cs).2 = [] ∨ (splitDot cs).2 = ['.'] := by
  rcases splitDot_cases cs with ⟨rest, _, h⟩ | ⟨_, h⟩
  · exact .inr (by rw [h])
  · exact .inl (by rw [h])

/-- A name that starts with the wildcard label is set apart there. -/
theorem splitWildcard_append_left (rest : List Char) :
    splitWildcard (wildcard ++ rest) = (wildcard, rest) := by
  rcases splitWildcard_cases (wildcard ++ rest) with ⟨rest', hrest, h⟩ | ⟨hnot, _⟩
  · rw [h, List.append_cancel_left hrest]
  · exact absurd (List.prefix_append wildcard rest) hnot

/-- A name without the wildcard label in front is left whole. -/
theorem splitWildcard_of_unmarked (hnot : ¬wildcard <+: cs) : splitWildcard cs = ([], cs) := by
  rcases splitWildcard_cases cs with ⟨rest, hcs, _⟩ | ⟨_, h⟩
  · exact absurd ⟨rest, hcs.symm⟩ hnot
  · exact h

/-- A wildcard label stays in front when a full stop is put at the end, unless that full stop
makes the label. -/
theorem splitWildcard_concat (hstar : cs ≠ ['*']) :
    splitWildcard (cs ++ ['.']) = ((splitWildcard cs).1, (splitWildcard cs).2 ++ ['.']) := by
  rcases splitWildcard_cases cs with ⟨rest, rfl, h⟩ | ⟨hnot, h⟩
  · rw [h, List.append_assoc, splitWildcard_append_left]
  · have hnot' : ¬wildcard <+: cs ++ ['.'] := by
      intro hprefix
      rcases List.prefix_concat_iff.mp hprefix with hlabel | hprefix
      · have hlabel : cs ++ ['.'] = ['*'] ++ ['.'] := hlabel.symm
        exact hstar (List.append_cancel_right hlabel)
      · exact hnot hprefix
    rw [h, splitWildcard_of_unmarked hnot']

/-- A full stop at the end is set aside. -/
theorem splitDot_concat (cs : List Char) : splitDot (cs ++ ['.']) = (cs, ['.']) := by
  rcases splitDot_cases (cs ++ ['.']) with ⟨rest, hrest, h⟩ | ⟨hnot, _⟩
  · rw [h, List.append_cancel_right hrest]
  · exact absurd List.getLast?_concat hnot

/-- Nothing is set aside if there is no full stop at the end. -/
theorem splitDot_of_getLast?_ne (hnot : cs.getLast? ≠ some '.') : splitDot cs = (cs, []) := by
  rcases splitDot_cases cs with ⟨rest, hcs, _⟩ | ⟨_, h⟩
  · exact absurd (hcs ▸ List.getLast?_concat) hnot
  · exact h

/-- The part of a name that must stand for a domain. -/
def stem (cs : List Char) : List Char := (splitDot (splitWildcard cs).2).1

/-- A name is brought into ASCII by bringing its stem into ASCII. -/
theorem toAscii_eq_ok_iff : toAscii s = .ok ascii ↔ ∃ domain,
    Host.ofChars (stem (Text.trimChars s.toList)) = .ok (.domain domain) ∧
      ascii.toList = (splitWildcard (Text.trimChars s.toList)).1 ++ domain.toList ++
        (splitDot (splitWildcard (Text.trimChars s.toList)).2).2 := by
  unfold toAscii stem
  dsimp only
  constructor
  · intro h
    split at h
    · exact ⟨_, ‹_›, by rw [← Except.ok.inj h, String.toList_ofList]⟩
    · cases h
    · cases h
  · rintro ⟨domain, hdomain, hascii⟩
    rw [hdomain]
    dsimp only
    rw [← hascii, String.ofList_toList]

/-- A domain name in ASCII has the characters of host names only. -/
theorem isHostChar_of_toAscii (h : toAscii s = .ok ascii) :
    ∀ c ∈ ascii.toList, Idna.isHostChar c = true := by
  rw [toAscii_eq_ok_iff] at h
  obtain ⟨domain, hdomain, hascii⟩ := h
  rw [hascii]
  have hlabel : ∀ c ∈ wildcard, Idna.isHostChar c = true := List.all_eq_true.mp (by decide)
  have hstop : ∀ c ∈ ['.'], Idna.isHostChar c = true := List.all_eq_true.mp (by decide)
  intro c hc
  rcases List.mem_append.mp hc with hc | hc
  · rcases List.mem_append.mp hc with hc | hc
    · rcases splitWildcard_fst (Text.trimChars s.toList) with hfront | hfront <;> rw [hfront] at hc
      · cases hc
      · exact hlabel c hc
    · exact Url.Host.isHostChar_of_ofChars hdomain c hc
  · rcases splitDot_snd (splitWildcard (Text.trimChars s.toList)).2 with hdot | hdot <;>
      rw [hdot] at hc
    · cases hc
    · exact hstop c hc

/-- A domain name in ASCII is not empty. -/
theorem ne_nil_of_toAscii (h : toAscii s = .ok ascii) : ascii.toList ≠ [] := by
  rw [toAscii_eq_ok_iff] at h
  obtain ⟨domain, hdomain, hascii⟩ := h
  rw [Host.ofChars_eq_domain_iff] at hdomain
  have hne := hdomain.2.2.1
  simp [hascii, hne]

/-- A name of the characters of host names stays as it is when it stands for a domain. -/
theorem toList_eq_trimChars_of_toAscii
    (h : ∀ c ∈ Text.trimChars s.toList, Idna.isHostChar c = true) (hok : toAscii s = .ok ascii) :
    ascii.toList = Text.trimChars s.toList := by
  rw [toAscii_eq_ok_iff] at hok
  obtain ⟨domain, hdomain, hascii⟩ := hok
  have hstem : ∀ c ∈ stem (Text.trimChars s.toList), Idna.isHostChar c = true := by
    intro c hc
    refine h c ?_
    rw [← splitWildcard_append (Text.trimChars s.toList)]
    refine List.mem_append_right _ ?_
    rw [← splitDot_append (splitWildcard _).2]
    exact List.mem_append_left _ hc
  rw [hascii, Url.Host.toList_eq_of_ofChars hstem hdomain, stem, List.append_assoc,
    splitDot_append, splitWildcard_append]

/-- Nothing is trimmed off a name of the characters of host names. -/
theorem trimChars_of_isHostChar (h : ∀ c ∈ cs, Idna.isHostChar c = true) :
    Text.trimChars cs = cs :=
  Text.trimChars_eq_self
    (fun c hc => Idna.isBlank_of_isHostChar (h c (List.mem_of_mem_head? hc)))
    (fun c hc => Idna.isBlank_of_isHostChar (h c (List.mem_of_mem_getLast? hc)))

/-- A domain name in ASCII stays as it is. -/
theorem toAscii_eq_self (h : ∀ c ∈ s.toList, Idna.isHostChar c = true)
    (hok : toAscii s = .ok ascii) : ascii = s := by
  have htrim := trimChars_of_isHostChar h
  rw [← htrim] at h
  rw [← String.toList_inj, toList_eq_trimChars_of_toAscii h hok, htrim]

/-- Only the beginning of a name with a full stop at its end is trimmed. -/
theorem trimChars_concat_eq (cs : List Char) :
    Text.trimChars (cs ++ ['.']) = cs.dropWhile Text.isBlank ++ ['.'] := by
  have hstop : Text.isBlank '.' = false := by decide
  rw [Text.trimChars_of_getLast? (by simp [hstop]), List.dropWhile_append]
  split
  · rename_i hnil
    simp [List.isEmpty_iff.mp hnil, hstop]
  · rfl

/-- A full stop behind a name that does not end in a blank is not trimmed off. -/
theorem trimChars_concat (hlast : ∀ c ∈ cs.getLast?, Text.isBlank c = false) :
    Text.trimChars (cs ++ ['.']) = Text.trimChars cs ++ ['.'] := by
  rw [trimChars_concat_eq, Text.trimChars_of_getLast? hlast]

/-- Full stops behind a name that does not end in a blank are not trimmed off. -/
theorem trimChars_append_replicate (hlast : ∀ c ∈ cs.getLast?, Text.isBlank c = false) (n : Nat) :
    Text.trimChars (cs ++ List.replicate n '.') = Text.trimChars cs ++ List.replicate n '.' := by
  have hstop : Text.isBlank '.' = false := by decide
  induction n with
  | zero => simp
  | succ n ih =>
    have hlast' : ∀ c ∈ (cs ++ List.replicate n '.').getLast?, Text.isBlank c = false := by
      cases n with
      | zero => simpa using hlast
      | succ n => simp [List.getLast?_append, List.getLast?_replicate, hstop]
    rw [List.replicate_succ', ← List.append_assoc, trimChars_concat hlast', ih, List.append_assoc]

/-- A full stop at the end of a name is one at its end in ASCII. -/
theorem getLast?_toAscii_concat (h : toAscii (.ofList (cs ++ ['.'])) = .ok ascii) :
    ascii.toList.getLast? = some '.' := by
  rw [toAscii_eq_ok_iff] at h
  obtain ⟨domain, hdomain, hascii⟩ := h
  rw [String.toList_ofList, trimChars_concat_eq] at hdomain hascii
  by_cases hstar : cs.dropWhile Text.isBlank = ['*']
  · -- the full stop makes the wildcard label, and nothing is left
    rw [hstar] at hdomain
    exact nomatch hdomain
  · rw [splitWildcard_concat hstar, splitDot_concat] at hascii
    rw [hascii, List.getLast?_concat]

/-- A full stop at the end of a name is carried over. -/
theorem toAscii_concat (hlast : ∀ c ∈ cs.getLast?, Text.isBlank c = false)
    (hstar : Text.trimChars cs ≠ ['*']) (h : toAscii (.ofList cs) = .ok ascii) :
    toAscii (.ofList (cs ++ ['.'])) = .ok (.ofList (ascii.toList ++ ['.'])) := by
  have htrim := trimChars_concat hlast
  rw [toAscii_eq_ok_iff] at h
  obtain ⟨domain, hdomain, hascii⟩ := h
  rw [String.toList_ofList] at hdomain hascii
  rw [toAscii_eq_ok_iff, String.toList_ofList, String.toList_ofList, htrim, stem,
    splitWildcard_concat hstar, splitDot_concat]
  dsimp only
  rw [hascii]
  rw [stem] at hdomain
  by_cases hstop : (splitWildcard (Text.trimChars cs)).2.getLast? = some '.'
  · obtain ⟨rest, hrest⟩ := List.getLast?_eq_some_iff.mp hstop
    rw [hrest, splitDot_concat] at hdomain ⊢
    exact ⟨_, Url.Host.ofChars_concat hdomain, by simp⟩
  · rw [splitDot_of_getLast?_ne hstop] at hdomain ⊢
    exact ⟨domain, hdomain, by simp⟩

/-- Full stops at the end of a name are carried over if it stands for a domain without them. -/
theorem toAscii_append_replicate (hlast : ∀ c ∈ cs.getLast?, Text.isBlank c = false)
    (hstar : Text.trimChars cs ≠ ['*']) (h : toAscii (.ofList cs) = .ok ascii) (n : Nat) :
    toAscii (.ofList (cs ++ List.replicate n '.')) =
      .ok (.ofList (ascii.toList ++ List.replicate n '.')) := by
  have hstop : Text.isBlank '.' = false := by decide
  induction n generalizing cs ascii with
  | zero => simpa using h
  | succ n ih =>
    have hnot : Text.trimChars (cs ++ ['.']) ≠ ['*'] := by
      intro heq
      rw [trimChars_concat hlast] at heq
      simpa using congrArg List.getLast? heq
    have hnext := ih (by simp [hstop]) hnot (toAscii_concat hlast hstar h)
    simpa [List.replicate_succ] using hnext

/-- What follows a character that the wildcard label does not have is not taken for the label. -/
theorem exists_splitWildcard_append_cons (hstar : c ≠ '*') (hdot : c ≠ '.') (cs rest : List Char) :
    ∃ before, (splitWildcard (cs ++ c :: rest)).2 = before ++ c :: rest := by
  rcases splitWildcard_cases (cs ++ c :: rest) with ⟨found, hfound, h⟩ | ⟨_, h⟩
  · rw [h]
    match cs with
    | [] => exact absurd (List.cons.inj hfound).1 hstar
    | [_] => exact absurd (List.cons.inj (List.cons.inj hfound).2).1 hdot
    | _ :: _ :: cs => exact ⟨cs, (List.cons.inj (List.cons.inj hfound).2).2.symm⟩
  · exact ⟨cs, by rw [h]⟩

/-- A name with a blank before the full stops at its end stands for no domain, unless there are only
blanks before them. -/
theorem toAscii_ne_ok_of_isBlank (hblank : Text.isBlank c = true)
    (hne : cs.dropWhile Text.isBlank ≠ []) (n : Nat) :
    toAscii (.ofList (cs ++ [c] ++ List.replicate (n + 1) '.')) ≠ .ok ascii := by
  intro h
  rw [toAscii_eq_ok_iff] at h
  obtain ⟨domain, hdomain, _⟩ := h
  have hstop : Text.isBlank '.' = false := by decide
  have hne_of {d : Char} (hd : Text.isBlank d = false) : c ≠ d := by
    rintro rfl
    simp [hblank] at hd
  have hlast : (cs ++ [c] ++ List.replicate (n + 1) '.').getLast? = some '.' := by
    rw [List.replicate_succ', ← List.append_assoc, List.getLast?_concat]
  have htrim : Text.trimChars (cs ++ [c] ++ List.replicate (n + 1) '.') =
      cs.dropWhile Text.isBlank ++ c :: List.replicate (n + 1) '.' := by
    rw [Text.trimChars_of_getLast? fun d hd => Option.some.inj (hlast.symm.trans hd) ▸ hstop,
      List.append_assoc, List.dropWhile_append, if_neg (by simpa using hne)]
    rfl
  obtain ⟨before, hbefore⟩ := exists_splitWildcard_append_cons (hne_of (d := '*') (by decide))
    (hne_of hstop) (cs.dropWhile Text.isBlank) (List.replicate (n + 1) '.')
  have hstem : stem (cs.dropWhile Text.isBlank ++ c :: List.replicate (n + 1) '.') =
      before ++ [c] ++ List.replicate n '.' := by
    rw [stem, hbefore, List.replicate_succ', ← List.singleton_append, ← List.append_assoc,
      ← List.append_assoc, splitDot_concat]
  rw [String.toList_ofList, htrim, hstem] at hdomain
  rw [Host.ofChars_eq_domain_iff] at hdomain
  have hascii := hdomain.2.1
  rw [Host.ascii?_of_isBlank hblank (by simp)] at hascii
  cases hascii

/-- A name that stands for a domain with the full stops at its end and without them has no blank
before them. -/
theorem isBlank_getLast?_of_toAscii {whole : String} {n : Nat}
    (h : toAscii (.ofList cs) = .ok ascii)
    (hwhole : toAscii (.ofList (cs ++ List.replicate (n + 1) '.')) = .ok whole)
    (hlast : cs.getLast? = some c) : Text.isBlank c = false := by
  refine Bool.eq_false_iff.mpr fun hblank => ?_
  obtain ⟨front, rfl⟩ := List.getLast?_eq_some_iff.mp hlast
  refine toAscii_ne_ok_of_isBlank hblank (fun hnil => ?_) n hwhole
  -- nothing is left of blanks only
  have htrim : Text.trimChars (front ++ [c]) = [] := by
    rw [Text.trimChars, List.dropWhile_append, hnil]
    simp [hblank, Text.dropEndWhile]
  rw [toAscii_eq_ok_iff] at h
  obtain ⟨domain, hdomain, _⟩ := h
  rw [String.toList_ofList, htrim] at hdomain
  cases hdomain

/-- A name that stands for a domain with and without the full stops at its end stands for the same
one up to them. -/
theorem toList_eq_append_replicate {whole : String} {n : Nat}
    (h : toAscii (.ofList cs) = .ok ascii)
    (hwhole : toAscii (.ofList (cs ++ List.replicate n '.')) = .ok whole) :
    whole.toList = ascii.toList ++ List.replicate n '.' := by
  cases n with
  | zero =>
    rw [List.replicate_zero, List.append_nil] at hwhole ⊢
    rw [Except.ok.inj (h.symm.trans hwhole)]
  | succ n =>
    have hblank : ∀ c ∈ cs.getLast?, Text.isBlank c = false :=
      fun c hc => isBlank_getLast?_of_toAscii h hwhole hc
    by_cases hstar : Text.trimChars cs = ['*']
    · -- a full stop makes the wildcard label here, but all characters stay as they are
      have htrim := trimChars_append_replicate hblank (n + 1)
      rw [hstar] at htrim
      have hchars : ∀ c ∈ ['*'] ++ List.replicate (n + 1) '.', Idna.isHostChar c = true := by
        intro c hc
        rcases List.mem_append.mp hc with hc | hc
        · rw [List.mem_singleton.mp hc]
          decide
        · rw [List.eq_of_mem_replicate hc]
          decide
      have hleft := toList_eq_trimChars_of_toAscii (s := .ofList cs)
        (by rw [String.toList_ofList, hstar]; exact List.all_eq_true.mp (by decide)) h
      have hright := toList_eq_trimChars_of_toAscii
        (s := .ofList (cs ++ List.replicate (n + 1) '.'))
        (by rw [String.toList_ofList, htrim]; exact hchars) hwhole
      rw [hright, hleft, String.toList_ofList, String.toList_ofList, htrim, hstar]
    · rw [toAscii_append_replicate hblank hstar h] at hwhole
      rw [← Except.ok.inj hwhole, String.toList_ofList]

end AcmeClient.DomainName

import AcmeClient.Net.IpAddress
import AcmeClient.Proofs.Json.Digits
import Mathlib.Data.Nat.Digits.Defs

/-!
# Texts of Internet addresses give the addresses back

Numbers are read up to the full stop or colon that follows them. What a version 6 address leaves out
is a row of zeros, whose length the reader finds from the number of groups that there are.
-/

namespace AcmeClient

namespace Ipv4

variable {cs rest : List Char}

/-- The digits of an octet are read back, unless another digit follows. -/
theorem readOctet_toDigits (a : UInt8) (h : ∀ c ∈ rest.head?, c.isDigit = false) :
    readOctet (Nat.toDigits 10 a.toNat ++ rest) = some (a, rest) := by
  have hlt := a.toNat_lt
  have hdigits : ∀ c ∈ Nat.toDigits 10 a.toNat, c.isDigit = true :=
    fun c hc => Nat.isDigit_of_mem_toDigits (by decide) (by decide) hc
  have hlength : (Nat.toDigits 10 a.toNat).length ≤ 3 :=
    Nat.toDigits_length 10 _ 3 (by decide) (by omega)
  have hzero : (Nat.toDigits 10 a.toNat).head? = some '0' →
      ¬1 < (Nat.toDigits 10 a.toNat).length := by
    intro hhead
    have ha : a.toNat = 0 := by
      by_contra hne
      exact Json.Reader.head?_toDigits_ne hne hhead
    rw [ha]
    decide
  have hvalue : (Nat.toDigits 10 a.toNat).foldl (fun n c => n * 10 + (c.toNat - 48)) 0 =
      a.toNat := by
    simpa [Nat.ofDigitChars, Nat.mul_comm] using Nat.ofDigitChars_ten_toDigits (n := a.toNat)
  obtain ⟨htake, hdrop⟩ := Text.span_append hdigits h
  unfold readOctet
  dsimp only
  rw [htake, hdrop, hvalue, UInt8.ofNat_toNat]
  refine if_neg ?_
  rintro (hnil | hlong | ⟨hhead, hmore⟩ | hlarge)
  · exact Nat.toDigits_ne_nil hnil
  · exact Nat.not_le_of_lt hlong hlength
  · exact hzero hhead hmore
  · omega

/-- The text of an address is read back, unless another digit follows. -/
theorem read_toChars_append (x : Ipv4) (h : ∀ c ∈ rest.head?, c.isDigit = false) :
    read (x.toChars ++ rest) = some (x, rest) := by
  have hstop (cs : List Char) : ∀ c ∈ ('.' :: cs).head?, c.isDigit = false := by
    rintro c ⟨⟩
    decide
  simp only [read, toChars, List.append_assoc, List.cons_append, readOctet_toDigits x.a (hstop _),
    Option.bind_eq_bind, Option.bind_some, readNext, readOctet_toDigits x.b (hstop _),
    readOctet_toDigits x.c (hstop _), readOctet_toDigits x.d h]

/-- The text of an address is read back. -/
theorem read_toChars (x : Ipv4) : read x.toChars = some (x, []) := by
  have hread : read (x.toChars ++ []) = some (x, []) := read_toChars_append x (by simp)
  rwa [List.append_nil] at hread

/-- Every address has its numbers set apart by full stops. -/
theorem read_of_not_mem (h : '.' ∉ cs) : read cs = none := by
  unfold read
  cases hfirst : readOctet cs with
  | none => rfl
  | some found =>
    obtain ⟨a, after⟩ := found
    have hafter : after <:+ cs := by
      unfold readOctet at hfirst
      dsimp only at hfirst
      split at hfirst
      · cases hfirst
      · cases hfirst
        exact List.dropWhile_suffix _
    have hnext : readNext after = none := by
      unfold readNext
      split
      · exact absurd (hafter.subset List.mem_cons_self) h
      · rfl
    simp [hnext]

/-- Every address begins with a digit. -/
theorem read_of_head {c : Char} (h : c.isDigit = false) : read (c :: cs) = none := by
  have hfirst : readOctet (c :: cs) = none := by
    unfold readOctet
    dsimp only
    rw [List.takeWhile_cons_of_neg (by simp [h])]
    exact if_pos (Or.inl rfl)
  simp [read, hfirst]

end Ipv4

namespace Ipv6

variable {rest : List Char} {groups : List UInt16}

/-- Each digit has its value. -/
theorem hexValue?_digitChar : ∀ n < 16, hexValue? (Nat.digitChar n) = some n := by decide

/-- The digits of a number have the values of which it is made. -/
theorem filterMap_toDigits (n : Nat) :
    (∀ c ∈ Nat.toDigits 16 n, (hexValue? c).isSome = true ∧ c ≠ '.') ∧
      (Nat.toDigits 16 n).filterMap hexValue? ≠ [] ∧
      ((Nat.toDigits 16 n).filterMap hexValue?).foldl (· * 16 + ·) 0 = n := by
  have hdigit : ∀ d < 16, (hexValue? (Nat.digitChar d)).isSome = true ∧ Nat.digitChar d ≠ '.' := by
    decide
  induction n using Nat.strongRecOn with
  | ind n ih =>
    rw [Nat.toDigits_eq_if (by decide)]
    split
    · rename_i hn
      simp [hexValue?_digitChar n hn, hdigit n hn]
    · have hlast := Nat.mod_lt n (show 0 < 16 by decide)
      obtain ⟨hall, hne, hvalue⟩ := ih (n / 16) (by omega)
      refine ⟨?_, ?_, ?_⟩
      · intro c hc
        rcases List.mem_append.mp hc with hc | hc
        · exact hall c hc
        · obtain rfl := List.mem_singleton.mp hc
          exact hdigit _ hlast
      · simp [hne]
      · rw [List.filterMap_append, List.foldl_append, hvalue]
        simp only [List.filterMap_cons, hexValue?_digitChar _ hlast, List.filterMap_nil,
          List.foldl_cons, List.foldl_nil]
        omega

/-- The digits of a group are read back, unless another digit follows. -/
theorem readGroup_groupChars (g : UInt16) (h : ∀ c ∈ rest.head?, (hexValue? c).isSome = false) :
    readGroup (groupChars g ++ rest) = some (g, rest) := by
  have hlt := g.toNat_lt
  obtain ⟨hall, hne, hvalue⟩ := filterMap_toDigits g.toNat
  have hlength : ((Nat.toDigits 16 g.toNat).filterMap hexValue?).length ≤ 4 :=
    (List.length_filterMap_le _ _).trans (Nat.toDigits_length 16 _ 4 (by decide) (by omega))
  obtain ⟨htake, hdrop⟩ := Text.span_append (fun c hc => (hall c hc).1) h
  unfold readGroup groupChars
  dsimp only
  rw [htake, hdrop, hvalue, UInt16.ofNat_toNat]
  refine if_neg ?_
  rintro (hnil | hlong)
  · exact hne hnil
  · exact Nat.not_le_of_lt hlong hlength

/-- Whether groups end at the end of a text or at a row that is left out. -/
def EndsGroups (rest : List Char) : Prop := rest = [] ∨ ∃ more, rest = ':' :: ':' :: more

/-- Groups with a colon before each. -/
def afterColons (groups : List UInt16) : List Char := groups.flatMap fun g => ':' :: groupChars g

/-- All groups but the first follow a colon. -/
theorem joined_cons (g : UInt16) (groups : List UInt16) :
    joined (g :: groups) = groupChars g ++ afterColons groups := by
  induction groups generalizing g with
  | nil => simp [joined, afterColons]
  | cons next groups ih =>
    rw [joined, ih]
    · simp [afterColons]
    · exact List.cons_ne_nil _ _

/-- Groups have no full stops. -/
theorem not_mem_afterColons (groups : List UInt16) : '.' ∉ afterColons groups := by
  intro hmem
  obtain ⟨g, _, hmem⟩ := List.mem_flatMap.mp hmem
  rcases List.mem_cons.mp hmem with hcolon | hmem
  · exact absurd hcolon (by decide)
  · exact ((filterMap_toDigits g.toNat).1 '.' hmem).2 rfl

/-- Joined groups have no full stops. -/
theorem not_mem_joined (groups : List UInt16) : '.' ∉ joined groups := by
  cases groups with
  | nil => simp [joined]
  | cons g groups =>
    rw [joined_cons, List.mem_append, not_or]
    exact ⟨fun hmem => ((filterMap_toDigits g.toNat).1 '.' hmem).2 rfl, not_mem_afterColons groups⟩

/-- No group is read where groups end. -/
theorem readGroups_of_ends (h : EndsGroups rest) (room : Nat) (isFirst : Bool) :
    readGroups room isFirst rest = ([], false, rest) := by
  have hcolon (cs : List Char) : readGroup (':' :: cs) = none := by
    unfold readGroup
    dsimp only
    rw [List.takeWhile_cons_of_neg (by decide)]
    exact if_pos (Or.inl rfl)
  have hempty : readGroup [] = none := by decide
  have hnone (cs : List Char) (hgroup : readGroup cs = none) (haddress : Ipv4.read cs = none)
      (hpass : passColon isFirst rest = some cs) :
      readGroups room isFirst rest = ([], false, rest) := by
    cases room with
    | zero => rfl
    | succ room => simp [readGroups, hpass, hgroup, haddress]
  rcases h with rfl | ⟨more, rfl⟩
  · cases isFirst with
    | true => exact hnone [] hempty (Ipv4.read_of_not_mem (by simp)) rfl
    | false => cases room <;> rfl
  · cases isFirst with
    | true => exact hnone _ (hcolon _) (Ipv4.read_of_head (by decide)) rfl
    | false => exact hnone _ (hcolon _) (Ipv4.read_of_head (by decide)) rfl

/-- A group is read in front of more. -/
theorem readGroups_succ {room : Nat} {isFirst : Bool} {cs : List Char} {g : UInt16}
    (hpass : passColon isFirst cs = some (groupChars g ++ rest))
    (hdot : '.' ∉ groupChars g ++ rest) (h : ∀ c ∈ rest.head?, (hexValue? c).isSome = false) :
    readGroups (room + 1) isFirst cs =
      (g :: (readGroups room false rest).1, (readGroups room false rest).2) := by
  simp [readGroups, hpass, Ipv4.read_of_not_mem hdot, readGroup_groupChars g h]

/-- What follows a group does not begin with a digit. -/
theorem not_digit_of_afterColons (hend : EndsGroups rest) (groups : List UInt16) :
    ∀ c ∈ (afterColons groups ++ rest).head?, (hexValue? c).isSome = false := by
  cases groups with
  | nil =>
    rcases hend with rfl | ⟨more, rfl⟩
    · simp [afterColons]
    · rintro c ⟨⟩
      decide
  | cons g groups =>
    rintro c ⟨⟩
    decide

/-- Groups after colons are read back. -/
theorem readGroups_afterColons (hend : EndsGroups rest) (hdot : '.' ∉ rest) {room : Nat}
    (h : groups.length ≤ room) :
    readGroups room false (afterColons groups ++ rest) = (groups, false, rest) := by
  induction groups generalizing room with
  | nil => exact readGroups_of_ends hend room false
  | cons g groups ih =>
    obtain ⟨room, rfl⟩ : ∃ n, room = n + 1 := ⟨room - 1, by simp at h; omega⟩
    have htext : afterColons (g :: groups) ++ rest =
        ':' :: (groupChars g ++ (afterColons groups ++ rest)) := by
      simp [afterColons]
    have hdots := not_mem_afterColons (g :: groups)
    have hfree : '.' ∉ groupChars g ++ (afterColons groups ++ rest) := by
      intro hmem
      refine (List.mem_append.mp ?_).elim hdots hdot
      rw [htext]
      exact List.mem_cons_of_mem _ hmem
    rw [htext, readGroups_succ rfl hfree (not_digit_of_afterColons hend groups),
      ih (Nat.le_of_succ_le_succ h)]

/-- Joined groups are read back. -/
theorem readGroups_joined (hend : EndsGroups rest) (hdot : '.' ∉ rest) {room : Nat}
    (h : groups.length ≤ room) :
    readGroups room true (joined groups ++ rest) = (groups, false, rest) := by
  cases groups with
  | nil => exact readGroups_of_ends hend room true
  | cons g groups =>
    obtain ⟨room, rfl⟩ : ∃ n, room = n + 1 := ⟨room - 1, by simp at h; omega⟩
    have hfree : '.' ∉ joined (g :: groups) ++ rest :=
      fun hmem => (List.mem_append.mp hmem).elim (not_mem_joined _) hdot
    rw [joined_cons, List.append_assoc] at hfree ⊢
    rw [readGroups_succ rfl hfree (not_digit_of_afterColons hend groups),
      readGroups_afterColons hend hdot (Nat.le_of_succ_le_succ h)]

/-- Joined groups up to the end are read back. -/
theorem readGroups_joined_nil {room : Nat} (h : groups.length ≤ room) :
    readGroups room true (joined groups) = (groups, false, []) := by
  have hread : readGroups room true (joined groups ++ []) = (groups, false, []) :=
    readGroups_joined (Or.inl rfl) List.not_mem_nil h
  rwa [List.append_nil] at hread

/-- The row of zeros in front is made of zeros. -/
theorem take_zeros (groups : List UInt16) :
    groups.take (zeros groups) = List.replicate (zeros groups) 0 := by
  have hprefix : groups.takeWhile (· = 0) <+: groups := List.takeWhile_prefix _
  rw [zeros, ← List.prefix_iff_eq_take.mp hprefix]
  refine List.eq_replicate_iff.mpr ⟨rfl, fun g hg => ?_⟩
  simpa using List.mem_takeWhile_imp hg

/-- The longest row of zeros is a row of zeros. -/
theorem longestZeros_spec (groups : List UInt16) :
    (longestZeros groups).1 + (longestZeros groups).2 ≤ groups.length ∧
      (groups.drop (longestZeros groups).1).take (longestZeros groups).2 =
        List.replicate (longestZeros groups).2 0 := by
  induction groups with
  | nil => simp [longestZeros]
  | cons g groups ih =>
    obtain ⟨hlength, hzeros⟩ := ih
    simp only [longestZeros]
    split
    · have hwithin : zeros (g :: groups) ≤ (g :: groups).length :=
        (List.takeWhile_prefix _).length_le
      exact ⟨by simpa using hwithin, take_zeros _⟩
    · refine ⟨?_, ?_⟩
      · simp only [List.length_cons]
        omega
      · exact hzeros

/-- Groups with the longest row of zeros put in are the groups. -/
theorem take_append_replicate_append_drop (groups : List UInt16) :
    groups.take (longestZeros groups).1 ++ (List.replicate (longestZeros groups).2 0 ++
      groups.drop ((longestZeros groups).1 + (longestZeros groups).2)) = groups := by
  obtain ⟨_, hzeros⟩ := longestZeros_spec groups
  rw [← hzeros, ← List.drop_drop, List.take_append_drop, List.take_append_drop]

/-- Eight groups are those of an address. -/
theorem ofGroups_groups (x : Ipv6) : ofGroups x.groups = x := dif_pos x.length_eq

/-- The text without the longest row of zeros is read back. -/
theorem read_toCompressedChars (x : Ipv6) : read x.toCompressedChars = some (x, []) := by
  have hlength := x.length_eq
  unfold toCompressedChars
  dsimp only
  split
  · rename_i hrow
    obtain ⟨hwithin, _⟩ := longestZeros_spec x.groups
    have hgroups := take_append_replicate_append_drop x.groups
    generalize hstart : (longestZeros x.groups).1 = start at *
    generalize hzeros : (longestZeros x.groups).2 = length at *
    have hfirst : (x.groups.take start).length = start := by
      rw [List.length_take]
      omega
    have hlast : (x.groups.drop (start + length)).length = 8 - start - length := by
      rw [List.length_drop]
      omega
    have hdot : '.' ∉ ':' :: ':' :: joined (x.groups.drop (start + length)) := by
      simpa using not_mem_joined _
    have hfront := readGroups_joined (Or.inr ⟨_, rfl⟩) hdot
      (show (x.groups.take start).length ≤ 8 by omega)
    have hback := readGroups_joined_nil
      (show (x.groups.drop (start + length)).length ≤ 7 - start by omega)
    have hgap : 8 - start - (8 - start - length) = length := by omega
    simp only [read, hfront, hfirst, hback, hlast, hgap, List.append_assoc, hgroups,
      ofGroups_groups]
    rw [if_neg (by omega)]
    rfl
  · have hall := readGroups_joined_nil (Nat.le_of_eq hlength)
    simp only [read, hall, hlength, if_true, ofGroups_groups]

/-- A group is made of its two octets. -/
theorem group_of_octets (g : UInt16) :
    UInt16.ofNat ((UInt8.ofNat (g.toNat / 256)).toNat * 256 + (UInt8.ofNat (g.toNat / 1)).toNat) =
      g := by
  have hlt := g.toNat_lt
  have hhigh : (UInt8.ofNat (g.toNat / 256)).toNat = g.toNat / 256 := by
    rw [UInt8.toNat_ofNat_of_lt' (show _ < 256 by omega)]
  have hlow : (UInt8.ofNat (g.toNat / 1)).toNat = g.toNat % 256 := by
    rw [UInt8.toNat_ofNat', Nat.div_one]
  rw [hhigh, hlow, Nat.mul_comm, Nat.div_add_mod, UInt16.ofNat_toNat]

/-- The text of a mapped address is read back. -/
theorem read_mapped (x : Ipv6) (h : x.groups.take 6 = [0, 0, 0, 0, 0, 0xFFFF]) :
    read ([':', ':', 'f', 'f', 'f', 'f', ':'] ++ x.lastFour.toChars) = some (x, []) := by
  have hlength := x.length_eq
  obtain ⟨a, b, hgroups⟩ : ∃ a b, x.groups = [0, 0, 0, 0, 0, 0xFFFF, a, b] := by
    have hrest : (x.groups.drop 6).length = 2 := by rw [List.length_drop, hlength]
    obtain ⟨a, b, hab⟩ := List.length_eq_two.mp hrest
    exact ⟨a, b, by rw [← List.take_append_drop 6 x.groups, h, hab]; rfl⟩
  have hfour := x.lastFour.read_toChars
  have hfront : readGroups 8 true ([':', ':', 'f', 'f', 'f', 'f', ':'] ++ x.lastFour.toChars) =
      ([], false, [':', ':', 'f', 'f', 'f', 'f', ':'] ++ x.lastFour.toChars) :=
    readGroups_of_ends (Or.inr ⟨_, rfl⟩) 8 true
  have hgroup : readGroup ('f' :: 'f' :: 'f' :: 'f' :: ':' :: x.lastFour.toChars) =
      some (0xFFFF, ':' :: x.lastFour.toChars) :=
    readGroup_groupChars 0xFFFF (by rintro c ⟨⟩; decide)
  have hlast : readGroups 6 false (':' :: x.lastFour.toChars) = ([a, b], true, []) := by
    simp only [readGroups, passColon, Bool.false_eq_true, if_false, show (0 < 5) = True by decide,
      if_true, hfour]
    simp only [lastFour, hgroups, List.getD_cons_succ, List.getD_cons_zero, group_of_octets]
  have hback : readGroups 7 true ('f' :: 'f' :: 'f' :: 'f' :: ':' :: x.lastFour.toChars) =
      ([0xFFFF, a, b], true, []) := by
    have hnone : Ipv4.read ('f' :: 'f' :: 'f' :: 'f' :: ':' :: x.lastFour.toChars) = none :=
      Ipv4.read_of_head (by decide)
    rw [readGroups]
    simp only [passColon, if_true, hnone, hgroup, hlast]
    simp
  unfold read
  rw [hfront]
  simp only [List.length_nil, List.cons_append, List.nil_append, hback]
  have hall : ofGroups ([0, 0, 0, 0, 0] ++ [0xFFFF, a, b]) = x := by
    have hx := ofGroups_groups x
    rwa [hgroups] at hx
  simpa using hall

/-- The text of an address is read back. -/
theorem read_toChars (x : Ipv6) : read x.toChars = some (x, []) := by
  unfold toChars
  split
  · rename_i hmapped
    exact read_mapped x hmapped
  · exact read_toCompressedChars x

/-- The text of an address does not begin with one of version 4. -/
theorem ipv4_read_toChars (x : Ipv6) : Ipv4.read x.toChars = none := by
  unfold toChars
  split
  · exact Ipv4.read_of_head (by decide)
  · refine Ipv4.read_of_not_mem ?_
    unfold toCompressedChars
    dsimp only
    split
    · simp [not_mem_joined]
    · exact not_mem_joined _

end Ipv6

namespace IpAddress

/-- The text of an address is read back. -/
theorem ofText?_toText (a : IpAddress) : ofText? a.toText = some a := by
  unfold ofText? toText
  cases a with
  | v4 x => simp only [String.toList_ofList, Ipv4.read_toChars]
  | v6 x => simp only [String.toList_ofList, Ipv6.ipv4_read_toChars, Ipv6.read_toChars]

example : (v6 ⟨[0x2001, 0xdb8, 0, 0, 1, 0, 0, 1], rfl⟩).toText = "2001:db8::1:0:0:1" := by
  decide +kernel

/-- An address has four or sixteen octets. -/
theorem length_octets (a : IpAddress) : a.octets.length = 4 ∨ a.octets.length = 16 := by
  cases a with
  | v4 x => exact Or.inl rfl
  | v6 x =>
    refine Or.inr ?_
    simp [octets, Ipv6.octets, List.length_flatMap, x.length_eq]

end IpAddress

end AcmeClient

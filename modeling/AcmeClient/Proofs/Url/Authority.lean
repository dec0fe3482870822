import AcmeClient.Proofs.Text.Cutting
import AcmeClient.Proofs.Url.HostMarks
import AcmeClient.Url.Parser
import Mathlib.Data.List.TakeDrop

/-!
# Reading a web address written with host and port

A host and a port, written behind `https://` and with a path behind them, are read as what they
are if the host has no mark that ends it earlier. An opening bracket that is not closed takes the
colon before the port into the host, which then is none.
-/

namespace AcmeClient.Url

/-- Nothing is cleaned off a text without blanks and controls. -/
theorem cleaned_eq_self {cs : List Char} (h : ∀ c ∈ cs, 0x20 < c.toNat) : cleaned cs = cs := by
  have hdrop : cs.dropWhile (fun c => decide (c.toNat ≤ 0x20)) = cs := by
    cases cs with
    | nil => rfl
    | cons c cs =>
      have hc := h c List.mem_cons_self
      exact List.dropWhile_cons_of_neg (by simpa using hc)
  have hend : Text.dropEndWhile (fun c => decide (c.toNat ≤ 0x20)) cs = cs := by
    refine Text.dropEndWhile_of_getLast? fun c hc => ?_
    have hlast := h c (List.mem_of_getLast? hc)
    simpa using hlast
  unfold cleaned
  dsimp only
  rw [hdrop, hend]
  refine List.filter_eq_self.mpr fun c hc => ?_
  have hne {d : Char} (hd : d.toNat ≤ 0x20) : c ≠ d := by
    rintro rfl
    exact absurd (h c hc) (Nat.not_lt.mpr hd)
  simp only [ne_eq, hne (d := '\t') (by decide), hne (d := '\n') (by decide),
    hne (d := '\r') (by decide), not_false_eq_true, and_self, decide_true]

/-- A text is cut at the first mark in it, if there is one. -/
theorem cutAt_append {marks front rest : List Char} (hfront : ∀ c ∈ front, c ∉ marks)
    (hrest : ∀ c ∈ rest.head?, c ∈ marks) : cutAt marks (front ++ rest) = (front, rest) := by
  have hnot : ∀ c ∈ front, (!marks.contains c) = true := fun c hc => by simpa using hfront c hc
  have hmark : ∀ c ∈ rest.head?, (!marks.contains c) = false :=
    fun c hc => by simpa using hrest c hc
  obtain ⟨htake, hdrop⟩ := Text.span_append hnot hmark
  rw [cutAt, List.span_eq_takeWhile_dropWhile, htake, hdrop]

/-- A text without marks is not cut. -/
theorem cutAt_of_forall_not_mem {marks cs : List Char} (h : ∀ c ∈ cs, c ∉ marks) :
    cutAt marks cs = (cs, []) := by
  have hcut : cutAt marks (cs ++ []) = (cs, []) := cutAt_append h (by simp)
  rwa [List.append_nil] at hcut

/-- An address with the scheme `https` is read from behind its slashes. -/
theorem parse_https {cs : List Char} (h : ∀ c ∈ cs, 0x20 < c.toNat)
    (hslash : ∀ c ∈ cs.head?, c ≠ '/' ∧ c ≠ '\\') :
    parse (.ofList ("https://".toList ++ cs)) = afterSlashes "https" cs := by
  have hcleaned : cleaned ("https://".toList ++ cs) = "https://".toList ++ cs := by
    refine cleaned_eq_self fun c hc => ?_
    rcases List.mem_append.mp hc with hc | hc
    · have hall : "https://".toList.all (0x20 < ·.toNat) = true := by decide
      exact of_decide_eq_true (List.all_eq_true.mp hall c hc)
    · exact h c hc
  have hscheme : scheme? ("https://".toList ++ cs) = some ("https", '/' :: '/' :: cs) := rfl
  have hrest : ('/' :: '/' :: cs).dropWhile (fun c => c = '/' ∨ c = '\\') = cs := by
    cases cs with
    | nil => rfl
    | cons c cs =>
      obtain ⟨hslash, hback⟩ := hslash c rfl
      simp [hslash, hback]
  rw [parse, parseWith, String.toList_ofList]
  simp only [hcleaned, hscheme]
  simp only [withScheme, hrest]
  rfl

section HostAndPort

variable {name digits : List Char}

/-- Digits are passed whole on the way to the end of a host. -/
theorem hostLength_digits (inside : Bool) (h : ∀ c ∈ digits, c.isDigit = true) :
    hostLength inside digits = digits.length := by
  induction digits with
  | nil => cases inside <;> rfl
  | cons c cs ih =>
    obtain ⟨hc, hcs⟩ := List.forall_mem_cons.mp h
    have hne {d : Char} (hd : d.isDigit = false) : c ≠ d := by
      rintro rfl
      rw [hc] at hd
      cases hd
    simp only [hostLength, hne (d := ':') (by decide), hne (d := '[') (by decide),
      hne (d := ']') (by decide), false_and, if_false, ih hcs, List.length_cons, Nat.add_comm]

/-- A host ends before the port, or a bracket is open and the port belongs to the host. -/
theorem hostLength_append (inside : Bool) (hname : ':' ∉ name)
    (hdigits : ∀ c ∈ digits, c.isDigit = true) :
    hostLength inside (name ++ ':' :: digits) = name.length ∨
      ((inside = true ∨ '[' ∈ name) ∧
        hostLength inside (name ++ ':' :: digits) = (name ++ ':' :: digits).length) := by
  induction name generalizing inside with
  | nil =>
    cases inside with
    | false => exact .inl rfl
    | true =>
      refine .inr ⟨.inl rfl, ?_⟩
      simp [hostLength, hostLength_digits true hdigits, Nat.add_comm]
  | cons c cs ih =>
    obtain ⟨hc, hcs⟩ : ':' ≠ c ∧ ':' ∉ cs := by simpa using hname
    obtain ⟨within, hopen, hstep⟩ : ∃ within, (within = true → inside = true ∨ c = '[') ∧
        ∀ rest, hostLength inside (c :: rest) = 1 + hostLength within rest := by
      by_cases hopening : c = '['
      · exact ⟨true, fun _ => .inr hopening, fun rest => by simp [hostLength, hopening]⟩
      · by_cases hclosing : c = ']'
        · exact ⟨false, by simp, fun rest => by simp [hostLength, hclosing]⟩
        · exact ⟨inside, .inl, fun rest => by simp [hostLength, hc.symm, hopening, hclosing]⟩
    rw [List.cons_append, hstep, List.length_cons, List.length_cons]
    refine (ih within hcs).imp (fun h => by omega) fun ⟨hbracket, h⟩ => ⟨?_, by omega⟩
    rcases hbracket with hwithin | hmem
    · exact (hopen hwithin).imp_right fun (hc : c = '[') => hc ▸ List.mem_cons_self
    · exact .inr (List.mem_cons_of_mem c hmem)

/-- Decimal digits are read as the number that they are. -/
theorem numberValue_eq (digits : List Char) :
    Host.numberValue 10 (digits.map fun c => c.toNat - 48) = Nat.ofDigitChars 10 digits 0 := by
  simp [Host.numberValue, Nat.ofDigitChars, List.foldl_map, Nat.mul_comm]

/-- The port of a web address as it is kept: the implied one is left out. -/
def keptPort (port : Nat) : Option UInt16 := if port = 443 then none else some (UInt16.ofNat port)

/-- A port written with its digits is read as the port. -/
theorem port?_toDigits {port : Nat} (h : port ≤ 65535) :
    port? "https" (Nat.toDigits 10 port) = .ok (keptPort port) := by
  have hdigits : (Nat.toDigits 10 port).all (·.isDigit) = true :=
    List.all_eq_true.mpr fun c hc => Nat.isDigit_of_mem_toDigits (by decide) (by decide) hc
  have himplied : impliedPort "https" = some (UInt16.ofNat port) ↔ port = 443 := by
    constructor
    · intro h
      have hnat := congrArg UInt16.toNat (Option.some.inj h)
      rw [UInt16.toNat_ofNat_of_lt' (show _ < 65536 by omega)] at hnat
      exact hnat.symm
    · rintro rfl
      rfl
  unfold port?
  dsimp only
  rw [if_pos hdigits, numberValue_eq, Nat.ofDigitChars_ten_toDigits, if_neg (by omega)]
  simp only [Nat.toDigits_ne_nil, himplied, false_or, keptPort]
  split <;> rfl

/-- The directory on a host and a port other than the implied one. -/
def Host.directory (host : Host) (port : Option UInt16) : Url :=
  { scheme := "https", hasAuthority := true, host := some host, port,
    path := .segments ["dir".toList] }

/-- A host is no empty domain. -/
theorem Host.ne_empty_of_ofChars {host : Host} (h : Host.ofChars name = .ok host) :
    host ≠ .domain "" := by
  rintro rfl
  exact (Host.ofChars_eq_domain_iff.mp h).2.2.1 rfl

/-- A text with a port at its end is no host: it has a colon and does not end in a bracket. -/
theorem ofChars_append_port_ne_ok (hdigits : ∀ c ∈ digits, c.isDigit = true) (host : Host) :
    Host.ofChars (name ++ ':' :: digits) ≠ .ok host := by
  intro h
  have hlast := Host.getLast?_of_ofChars h (List.mem_append_right _ List.mem_cons_self)
  rw [List.getLast?_append_of_ne_nil _ (List.cons_ne_nil _ _)] at hlast
  rcases List.mem_cons.mp (List.mem_of_getLast? hlast) with hc | hc
  · exact absurd hc (by decide)
  · exact absurd (hdigits _ hc) (by decide)

/-- What ends an authority or its parts, save the colon. -/
def authorityMarks : List Char := ['/', '\\', '?', '#', '@']

/-- An authority without marks and with a directory behind it is a host and possibly a port. -/
theorem afterSlashes_eq {front back : List Char} {port : Option UInt16} (hne : front ≠ [])
    (hmarks : ∀ c ∈ front ++ back, c ∉ authorityMarks)
    (hsize : hostLength false (front ++ back) = front.length)
    (hport : port? "https" (back.drop 1) = .ok port) :
    afterSlashes "https" (front ++ back ++ "/dir".toList) =
      (Host.ofChars front).map (·.directory port) := by
  have hcut : cutAt (slashes "https" ++ ['?', '#']) (front ++ back ++ "/dir".toList) =
      (front ++ back, "/dir".toList) := by
    refine cutAt_append (fun c hc hmark => hmarks c hc (List.mem_append_left ['@'] hmark)) ?_
    rintro c ⟨⟩
    decide
  have huser : splitUser (front ++ back) = (none, front ++ back) :=
    if_neg fun h => hmarks '@' (List.contains_iff_mem.mp h) (by decide)
  have hextra : cutAt ['\\'] (back.drop 1) = (back.drop 1, []) := by
    refine cutAt_of_forall_not_mem fun c hc hmark => ?_
    obtain rfl := List.mem_singleton.mp hmark
    exact hmarks _ (List.mem_append_right _ (List.drop_subset 1 back hc)) (by decide)
  have hweb : isWebScheme "https" = true := by decide
  have hnobody : cutAt [':'] [] = ([], []) := rfl
  have hdir : cutAt ['?', '#'] "/dir".toList = ("/dir".toList, []) := by decide
  have hpath : pathAfterAuthority "https" "/dir".toList = .segments ["dir".toList] := by decide
  unfold afterSlashes
  simp only [hcut, huser, hsize, List.take_left, List.drop_left, hweb, Option.getD_none, hnobody,
    reduceCtorEq, false_and, if_false, true_and, hne, if_true]
  cases hhost : Host.ofChars front with
  | error fault => rfl
  | ok host =>
    simp only [Host.ne_empty_of_ofChars hhost, if_false, ok_bind, Option.isNone_some,
      Bool.false_eq_true, false_and, hextra, hport, List.nil_append, hdir, hpath]
    rfl

/-- An authority of a host and a port, with a directory behind it, is what it is written as. -/
theorem afterSlashes_eq_ok_iff {port : Nat} {u : Url} (hne : name ≠ [])
    (hname : ∀ c ∈ name, c ∉ ':' :: authorityMarks) (hport : port ≤ 65535) :
    afterSlashes "https" (name ++ ':' :: Nat.toDigits 10 port ++ "/dir".toList) = .ok u ↔
      ∃ host, Host.ofChars name = .ok host ∧ host.directory (keptPort port) = u := by
  have hcolon : ':' ∉ name := fun h => hname ':' h List.mem_cons_self
  have hdigits : ∀ c ∈ Nat.toDigits 10 port, c.isDigit = true :=
    fun c hc => Nat.isDigit_of_mem_toDigits (by decide) (by decide) hc
  have hnotdigit : authorityMarks.all (!·.isDigit) = true := by decide
  have hmarks : ∀ c ∈ name ++ ':' :: Nat.toDigits 10 port, c ∉ authorityMarks := by
    intro c hc hmark
    rcases List.mem_append.mp hc with hc | hc
    · exact hname c hc (List.mem_cons_of_mem _ hmark)
    · rcases List.mem_cons.mp hc with rfl | hc
      · exact absurd hmark (by decide)
      · have hc' := List.all_eq_true.mp hnotdigit c hmark
        simp [hdigits c hc] at hc'
  rcases hostLength_append false hcolon hdigits with hsize | ⟨hopen, hsize⟩
  · rw [afterSlashes_eq hne hmarks hsize (port?_toDigits hport), map_eq_ok_iff]
  · -- a bracket is open, so that the port would be part of the host
    have hread : afterSlashes "https"
        (name ++ ':' :: Nat.toDigits 10 port ++ [] ++ "/dir".toList) =
          (Host.ofChars (name ++ ':' :: Nat.toDigits 10 port)).map (·.directory none) := by
      refine afterSlashes_eq (by simp) (by simpa using hmarks) ?_ rfl
      rw [List.append_nil, hsize]
    rw [List.append_nil] at hread
    rw [hread, map_eq_ok_iff]
    constructor
    · rintro ⟨host, h, -⟩
      exact absurd h (ofChars_append_port_ne_ok hdigits host)
    · rintro ⟨host, h, -⟩
      exact absurd (hopen.resolve_left Bool.false_ne_true)
        (Host.not_mem_of_ofChars h hcolon (by decide) (by decide))

/-- A web address of a host, a port and a directory is what it is written as. -/
theorem parse_eq_ok_iff {port : Nat} {u : Url} (hne : name ≠ [])
    (hvisible : ∀ c ∈ name, 0x20 < c.toNat) (hname : ∀ c ∈ name, c ∉ ':' :: authorityMarks)
    (hport : port ≤ 65535) :
    parse (.ofList ("https://".toList ++ name ++ ':' :: Nat.toDigits 10 port ++ "/dir".toList)) =
        .ok u ↔ ∃ host, Host.ofChars name = .ok host ∧ host.directory (keptPort port) = u := by
  rw [← afterSlashes_eq_ok_iff hne hname hport, List.append_assoc, List.append_assoc,
    ← List.append_assoc name, parse_https]
  · intro c hc
    rcases List.mem_append.mp hc with hc | hc
    · rcases List.mem_append.mp hc with hc | hc
      · exact hvisible c hc
      · rcases List.mem_cons.mp hc with rfl | hc
        · decide
        · have hdigit := Nat.isDigit_of_mem_toDigits (by decide) (by decide) hc
          simp only [Char.isDigit, Bool.and_eq_true, decide_eq_true_eq, UInt32.le_iff_toNat_le]
            at hdigit
          exact Nat.lt_of_lt_of_le (by decide) hdigit.1
    · have hall : "/dir".toList.all (0x20 < ·.toNat) = true := by decide
      exact of_decide_eq_true (List.all_eq_true.mp hall c hc)
  · intro c hc
    rw [List.append_assoc, List.head?_append_of_ne_nil _ hne] at hc
    have hmark := hname c (List.mem_of_head? hc)
    constructor <;>
      · rintro rfl
        exact hmark (by decide)

end HostAndPort

end AcmeClient.Url

import AcmeClient.Proofs.Url.Authority
import AcmeClient.Proofs.Url.Paths
import AcmeClient.Provider.Basic

/-!
# Aliases of Pebble

An alias of Pebble names a host and a port in its path. The URL of the directory is made by pasting
both into a text, which is read again: it is a directory on the named host unless the host is
written with a mark that may stand in a path but ends or moves the host of a web address.
-/

namespace AcmeClient.Provider

open Url (isPathChar)

/-- Whether a text stands where an alias has a host. -/
structure IsHostPart (host : List Char) : Prop where
  ne_nil : host ≠ []
  slash_not_mem : '/' ∉ host
  colon_not_mem : ':' ∉ host

/-- How a host and its port are written in an alias. The port may be left out. -/
inductive IsWritten : List Char → Nat → List Char → Prop
  | host {host : List Char} (h : IsHostPart host) : IsWritten host pebblePort host
  | hostAndPort {host digits : List Char} (h : IsHostPart host) (hne : digits ≠ [])
      (hdigits : ∀ c ∈ digits, c.isDigit = true) (hport : Nat.ofDigitChars 10 digits 0 ≤ 65535) :
      IsWritten host (Nat.ofDigitChars 10 digits 0) (host ++ ':' :: digits)

/-- The host and the port that an alias names in its path, `/host[:port][/]`. Without one it is the
machine itself, on the alias's own port if it has one. -/
inductive NamesServer (uri : Url) : List Char → Nat → Prop
  | standard (h : uri.path.chars = [] ∨ uri.path.chars = ['/']) :
      NamesServer uri "localhost".toList ((uri.port.map (·.toNat)).getD pebblePort)
  | written {host text : List Char} {port : Nat} (htext : IsWritten host port text)
      (h : uri.path.chars = '/' :: text ∨ uri.path.chars = '/' :: text ++ ['/']) :
      NamesServer uri host port

/-- Whether a URL is that of a directory on the host with the given text, on a port. -/
structure IsDirectoryOn (u : Url) (host : List Char) (port : Nat) : Prop where
  scheme : u.scheme = "https"
  credentials : u.username = [] ∧ u.password = []
  host : ∃ h, Url.Host.ofChars host = .ok h ∧ u.host = some h
  port : (u.port <|> Url.impliedPort u.scheme).map (·.toNat) = some port
  path : u.path.chars = "/dir".toList
  query : u.query = none
  fragment : u.fragment = none

/-- Whether an alias stands for a directory on the host and port that it names, or is refused as
part of the configuration. -/
structure ResolvesAsNamed (p : Provider) (uri : Url) : Prop where
  directory : ∀ u, p.resolve uri = .ok u →
    ∃ host port, NamesServer uri host port ∧ IsDirectoryOn u host port
  refusal : ∀ e, p.resolve uri = .error e → ∃ fault, e = .invalidConfiguration fault

section Naming

variable {host text path : List Char} {port : Nat}

/-- What names a server does not end in a slash. -/
theorem IsWritten.getLast?_ne (h : IsWritten host port text) : text.getLast? ≠ some '/' := by
  intro hlast
  cases h with
  | host h => exact h.slash_not_mem (List.mem_of_getLast? hlast)
  | hostAndPort h hne hdigits _ =>
    rw [List.getLast?_append_of_ne_nil _ (List.cons_ne_nil _ _)] at hlast
    rcases List.mem_cons.mp (List.mem_of_getLast? hlast) with hc | hc
    · exact absurd hc (by decide)
    · exact absurd (hdigits _ hc) (by decide)

/-- The host and the port that are written in a text. -/
def hostAndPort? (text : List Char) : Option (List Char × Nat) :=
  let host := text.takeWhile (· ≠ ':')
  if host = [] ∨ host.contains '/' then none
  else match text.dropWhile (· ≠ ':') with
    | [] => some (host, pebblePort)
    | _ :: digits =>
      let port := Nat.ofDigitChars 10 digits 0
      if digits = [] ∨ !digits.all (·.isDigit) ∨ 65535 < port then none else some (host, port)

/-- A text is cut at its first colon. -/
theorem hostAndPort?_append {front rest : List Char} (hfront : ':' ∉ front)
    (hrest : ∀ c ∈ rest.head?, c = ':') : hostAndPort? (front ++ rest) =
      if front = [] ∨ front.contains '/' then none
      else match rest with
        | [] => some (front, pebblePort)
        | _ :: digits =>
          let port := Nat.ofDigitChars 10 digits 0
          if digits = [] ∨ !digits.all (·.isDigit) ∨ 65535 < port then none
          else some (front, port) := by
  have hplain : ∀ c ∈ front, decide (c ≠ ':') = true := by
    intro c hc
    simpa using fun heq : c = ':' => hfront (heq ▸ hc)
  have hcolon : ∀ c ∈ rest.head?, decide (c ≠ ':') = false := fun c hc => by simpa using hrest c hc
  obtain ⟨htake, hdrop⟩ := Text.span_append hplain hcolon
  rw [hostAndPort?, htake, hdrop]

/-- A host and its port are read from what they are written as. -/
theorem hostAndPort?_eq_some_iff : hostAndPort? text = some (host, port) ↔
    IsWritten host port text := by
  constructor
  · intro h
    have hfront : ':' ∉ text.takeWhile (· ≠ ':') := fun hmem => by
      simpa using List.mem_takeWhile_imp hmem
    have hfirst := List.head?_dropWhile_not (fun c => decide (c ≠ ':')) text
    rw [← List.takeWhile_append_dropWhile (p := (· ≠ ':')) (l := text)] at h ⊢
    generalize text.takeWhile (· ≠ ':') = front at h hfront ⊢
    generalize text.dropWhile (· ≠ ':') = rest at h hfirst ⊢
    cases rest with
    | nil =>
      rw [hostAndPort?_append hfront (by simp)] at h
      split at h
      · cases h
      · rename_i hpart
        cases h
        obtain ⟨hne, hslash⟩ := not_or.mp hpart
        rw [List.append_nil]
        exact .host ⟨hne, by simpa using hslash, hfront⟩
    | cons c digits =>
      obtain rfl : c = ':' := by simpa using hfirst
      rw [hostAndPort?_append hfront (by simp)] at h
      split at h
      · cases h
      · rename_i hpart
        obtain ⟨hne, hslash⟩ := not_or.mp hpart
        dsimp only at h
        split at h
        · cases h
        · rename_i hdigits
          simp only [not_or, Bool.not_eq_true', Bool.not_eq_false, List.all_eq_true,
            Nat.not_lt] at hdigits
          cases h
          exact .hostAndPort ⟨hne, by simpa using hslash, hfront⟩ hdigits.1 hdigits.2.1 hdigits.2.2
  · intro h
    cases h with
    | host h =>
      rw [← List.append_nil host, hostAndPort?_append h.colon_not_mem (by simp)]
      simp [h.ne_nil, h.slash_not_mem]
    | @hostAndPort digits h hne hdigits hport =>
      rw [hostAndPort?_append h.colon_not_mem (by simp)]
      have hall : digits.all (·.isDigit) = true := List.all_eq_true.mpr hdigits
      simp [h.ne_nil, h.slash_not_mem, hne, hall, Nat.not_lt.mpr hport]

/-- Reading the host and port of an alias inverts writing them. -/
theorem pebbleHost?_eq_some_iff : pebbleHost? path = some (host, port) ↔
    ∃ text, IsWritten host port text ∧ (path = '/' :: text ∨ path = '/' :: text ++ ['/']) := by
  have hread (rest : List Char) : pebbleHost? ('/' :: rest) =
      hostAndPort? ((Text.beforeLast? '/' rest).getD rest) := by
    have hafter : Text.after? ['/'] ('/' :: rest) = some rest := rfl
    unfold pebbleHost? hostAndPort?
    simp only [hafter, Url.numberValue_eq, Option.bind_eq_bind, Option.bind_some]
    split <;> rfl
  constructor
  · intro h
    obtain ⟨rest, rfl⟩ : ∃ rest, path = '/' :: rest := by
      simp only [pebbleHost?, Option.bind_eq_bind, Option.bind_eq_some_iff] at h
      obtain ⟨rest, hrest, -⟩ := h
      exact ⟨rest, Text.after?_eq_some_iff.mp hrest⟩
    rw [hread, hostAndPort?_eq_some_iff] at h
    refine ⟨_, h, ?_⟩
    cases hrest : Text.beforeLast? '/' rest with
    | none => exact .inl rfl
    | some text =>
      rw [Text.beforeLast?_eq_some_iff.mp hrest]
      exact .inr rfl
  · rintro ⟨text, htext, rfl | rfl⟩
    · have hlast : Text.beforeLast? '/' text = none := if_neg htext.getLast?_ne
      rw [hread, hlast]
      exact hostAndPort?_eq_some_iff.mpr htext
    · have hlast : Text.beforeLast? '/' (text ++ ['/']) = some text :=
        Text.beforeLast?_eq_some_iff.mpr rfl
      rw [List.cons_append, hread, hlast]
      exact hostAndPort?_eq_some_iff.mpr htext

/-- What names a server is not empty. -/
theorem IsWritten.ne_nil (h : IsWritten host port text) : text ≠ [] := by
  cases h with
  | host h => exact h.ne_nil
  | hostAndPort h _ _ _ => exact List.append_ne_nil_of_left_ne_nil h.ne_nil _

/-- A host is part of what names a server. -/
theorem IsWritten.subset (h : IsWritten host port text) : host ⊆ text := by
  cases h with
  | host h => exact List.Subset.refl host
  | hostAndPort h _ _ _ => exact List.subset_append_left host _

end Naming

section Aliases

variable {uri u : Url} {host : List Char} {port : Nat}

/-- The host and the port that an alias names. -/
def named? (uri : Url) : Option (List Char × Nat) :=
  if uri.path.chars = [] ∨ uri.path.chars = ['/'] then
    some ("localhost".toList, (uri.port.map (·.toNat)).getD pebblePort)
  else pebbleHost? uri.path.chars

/-- An alias names at most one host and port. -/
theorem named?_eq_some_iff : named? uri = some (host, port) ↔ NamesServer uri host port := by
  unfold named?
  by_cases hpath : uri.path.chars = [] ∨ uri.path.chars = ['/']
  · rw [if_pos hpath]
    constructor
    · intro h
      cases h
      exact .standard hpath
    · intro h
      cases h with
      | standard => rfl
      | written htext h =>
        -- such a path has two characters at least
        have hlength := List.length_pos_iff.mpr htext.ne_nil
        rcases hpath with hpath | hpath <;> rcases h with h | h <;>
          · have hlengths := congrArg List.length (hpath.symm.trans h)
            simp only [List.length_cons, List.length_nil, List.length_append] at hlengths
            omega
  · rw [if_neg hpath, pebbleHost?_eq_some_iff]
    constructor
    · rintro ⟨text, htext, h⟩
      exact .written htext h
    · intro h
      cases h with
      | standard h => exact absurd h hpath
      | written htext h => exact ⟨_, htext, h⟩

namespace NamesServer

/-- A server is named with a host and a port. -/
theorem isHostPart_and_le (h : NamesServer uri host port) : IsHostPart host ∧ port ≤ 65535 := by
  cases h with
  | standard =>
    refine ⟨⟨by decide, by decide, by decide⟩, ?_⟩
    cases uri.port with
    | none => decide
    | some p => exact Nat.le_of_lt_succ p.toNat_lt
  | written htext =>
    cases htext with
    | host h => exact ⟨h, by decide⟩
    | hostAndPort h _ _ hport => exact ⟨h, hport⟩

/-- A server is named with characters that a path is written with. -/
theorem isPathChar (h : NamesServer uri host port)
    (hchars : ∀ c ∈ uri.path.chars, isPathChar c = true) : ∀ c ∈ host, isPathChar c = true := by
  cases h with
  | standard =>
    have hall : "localhost".toList.all Url.isPathChar = true := by decide
    exact List.all_eq_true.mp hall
  | written htext h =>
    intro c hc
    have hmem := htext.subset hc
    refine hchars c ?_
    rcases h with h | h
    · exact h ▸ List.mem_cons_of_mem _ hmem
    · exact h ▸ List.mem_append_left _ (List.mem_cons_of_mem _ hmem)

end NamesServer

/-- The directory on a host and port is one on that host and port. -/
theorem isDirectoryOn_directory {x : Url.Host} (hhost : Url.Host.ofChars host = .ok x)
    (hport : port ≤ 65535) : IsDirectoryOn (x.directory (Url.keptPort port)) host port where
  scheme := rfl
  credentials := ⟨rfl, rfl⟩
  host := ⟨x, hhost, rfl⟩
  port := by
    unfold Url.keptPort
    by_cases hstandard : port = 443
    · simp [hstandard, Url.Host.directory, Url.impliedPort]
    · have hlt : port < UInt16.size := Nat.lt_succ_of_le hport
      simp [hstandard, Url.Host.directory, UInt16.toNat_ofNat_of_lt' hlt]
  path := rfl
  query := rfl
  fragment := rfl

/-- A text of the configuration is read as the URL that it is. -/
theorem parseUrl_eq_ok_iff {s : String} : parseUrl s = .ok u ↔ Url.parse s = .ok u := by
  unfold parseUrl
  cases Url.parse s <;> simp

/-- A text that is no URL is refused as part of the configuration. -/
theorem exists_fault_of_parseUrl {s : String} {e : Error} (h : parseUrl s = .error e) :
    ∃ fault, e = .invalidConfiguration fault := by
  unfold parseUrl at h
  split at h
  · cases h
  · cases h
    exact ⟨_, rfl⟩

/-- A host without the marks of user information and of a path is read as it is named. -/
theorem pebbleUrl_eq_ok_iff (hpart : IsHostPart host) (hport : port ≤ 65535)
    (hchars : ∀ c ∈ host, isPathChar c = true) (hat : '@' ∉ host) (hbackslash : '\\' ∉ host) :
    pebbleUrl host port = .ok u ↔
      ∃ x, Url.Host.ofChars host = .ok x ∧ x.directory (Url.keptPort port) = u := by
  have hname : ∀ c ∈ host, c ∉ ':' :: Url.authorityMarks := by
    intro c hc hmark
    simp only [Url.authorityMarks, List.mem_cons, List.not_mem_nil, or_false] at hmark
    rcases hmark with rfl | rfl | rfl | rfl | rfl | rfl
    · exact hpart.colon_not_mem hc
    · exact hpart.slash_not_mem hc
    · exact hbackslash hc
    · exact absurd (hchars _ hc) (by decide)
    · exact absurd (hchars _ hc) (by decide)
    · exact hat hc
  have hvisible : ∀ c ∈ host, 0x20 < c.toNat := fun c hc => Url.lt_of_isPathChar (hchars c hc)
  rw [pebbleUrl, parseUrl_eq_ok_iff, Url.parse_eq_ok_iff hpart.ne_nil hvisible hname hport]

variable {s : String} {anchors : List String}

/-- The path of an alias has characters that a path is written with. -/
theorem isPathChar_of_accepts (hparse : Url.parse s = .ok uri)
    (haccepts : (pebble anchors).accepts uri = true) :
    ∀ c ∈ uri.path.chars, isPathChar c = true := by
  obtain ⟨hscheme, hhost⟩ : uri.scheme = "acme" ∧ uri.host = some (.domain "pebble") := by
    simpa [accepts, isAlias, aliasScheme] using haccepts
  exact Url.isPathChar_of_parse hparse (by simp [hhost]) (by simp [hscheme])

/-- An alias is resolved to the server that it names, or refused if it names none. -/
theorem resolve_pebble (uri : Url) : (pebble anchors).resolve uri = match named? uri with
    | some (host, port) => pebbleUrl host port
    | none => .error (.invalidConfiguration (.badPebbleHost uri.pathText)) := by
  change pebbleDirectory uri = _
  unfold pebbleDirectory named?
  dsimp only
  split <;> rfl

/-- An alias that names no server is refused. -/
theorem resolve_pebble_of_not_named (h : ∀ host port, ¬NamesServer uri host port) :
    (pebble anchors).resolve uri =
      .error (.invalidConfiguration (.badPebbleHost uri.pathText)) := by
  rw [resolve_pebble]
  cases hnamed : named? uri with
  | none => rfl
  | some server => exact absurd (named?_eq_some_iff.mp hnamed) (h server.1 server.2)

/-- An alias that is resolved names a server. -/
theorem exists_namesServer_of_resolve (h : (pebble anchors).resolve uri = .ok u) :
    ∃ host port, NamesServer uri host port := by
  by_contra hnot
  rw [resolve_pebble_of_not_named fun host port hserver => hnot ⟨host, port, hserver⟩] at h
  cases h

/-- An alias that is not resolved is refused as part of the configuration. -/
theorem exists_fault_of_resolve_pebble {e : Error} (h : (pebble anchors).resolve uri = .error e) :
    ∃ fault, e = .invalidConfiguration fault := by
  rw [resolve_pebble] at h
  split at h
  · exact exists_fault_of_parseUrl h
  · cases h
    exact ⟨_, rfl⟩

namespace NamesServer

/-- An alias names one server at most. -/
theorem unique {host' : List Char} {port' : Nat} (h : NamesServer uri host port)
    (h' : NamesServer uri host' port') : host' = host ∧ port' = port := by
  have heq := (named?_eq_some_iff.mpr h').symm.trans (named?_eq_some_iff.mpr h)
  simpa using heq

/-- An alias is resolved to the server that it names, if its host has neither the mark of user
information nor that of a path. -/
theorem resolve_eq_ok_iff (h : NamesServer uri host port)
    (hchars : ∀ c ∈ uri.path.chars, Url.isPathChar c = true) (hat : '@' ∉ host)
    (hbackslash : '\\' ∉ host) : (pebble anchors).resolve uri = .ok u ↔
      ∃ x, Url.Host.ofChars host = .ok x ∧ x.directory (Url.keptPort port) = u := by
  obtain ⟨hpart, hport⟩ := h.isHostPart_and_le
  rw [resolve_pebble, named?_eq_some_iff.mpr h]
  exact pebbleUrl_eq_ok_iff hpart hport (h.isPathChar hchars) hat hbackslash

/-- A server with a host has neither the mark of user information nor that of a path. -/
theorem marks_not_mem {x : Url.Host} (h : NamesServer uri host port)
    (hhost : Url.Host.ofChars host = .ok x) : '@' ∉ host ∧ '\\' ∉ host := by
  have hcolon := h.isHostPart_and_le.1.colon_not_mem
  exact ⟨Url.Host.not_mem_of_ofChars hhost hcolon (by decide) (by decide),
    Url.Host.not_mem_of_ofChars hhost hcolon (by decide) (by decide)⟩

end NamesServer

/-- An alias resolves to a directory on the host and port that it names, or not at all, exactly if
no URL is made of a host with the mark of user information or of a path. An alias that names no
server is refused, and one that names a server with a host is resolved. -/
theorem pebble_resolvesAsNamed_iff (hparse : Url.parse s = .ok uri)
    (haccepts : (pebble anchors).accepts uri = true) :
    (ResolvesAsNamed (pebble anchors) uri ↔ ∀ host port u, NamesServer uri host port →
      (pebble anchors).resolve uri = .ok u → '@' ∉ host ∧ '\\' ∉ host) ∧
    ((∀ host port, ¬NamesServer uri host port) → (pebble anchors).resolve uri =
      .error (.invalidConfiguration (.badPebbleHost uri.pathText))) ∧
    ∀ host port x, NamesServer uri host port → Url.Host.ofChars host = .ok x →
      ∃ u, (pebble anchors).resolve uri = .ok u ∧ IsDirectoryOn u host port := by
  have hchars := isPathChar_of_accepts hparse haccepts
  refine ⟨⟨fun hnamed host port u hserver hu => ?_, fun hmarks => ⟨fun u hu => ?_, fun e he => ?_⟩⟩,
    resolve_pebble_of_not_named, fun host port x hserver hhost => ?_⟩
  · obtain ⟨host', port', hserver', hdirectory⟩ := hnamed.directory u hu
    obtain ⟨rfl, rfl⟩ := hserver.unique hserver'
    obtain ⟨x, hhost, -⟩ := hdirectory.host
    exact hserver.marks_not_mem hhost
  · obtain ⟨host, port, hserver⟩ := exists_namesServer_of_resolve hu
    obtain ⟨hat, hbackslash⟩ := hmarks host port u hserver hu
    obtain ⟨x, hhost, rfl⟩ := (hserver.resolve_eq_ok_iff hchars hat hbackslash).mp hu
    exact ⟨host, port, hserver, isDirectoryOn_directory hhost hserver.isHostPart_and_le.2⟩
  · exact exists_fault_of_resolve_pebble he
  · obtain ⟨hat, hbackslash⟩ := hserver.marks_not_mem hhost
    exact ⟨_, (hserver.resolve_eq_ok_iff hchars hat hbackslash).mpr ⟨x, hhost, rfl⟩,
      isDirectoryOn_directory hhost hserver.isHostPart_and_le.2⟩

/-- An alias with a host and a port. -/
theorem pebble_resolvesAsNamed_iff_localhost :
    ∃ uri, Url.parse "acme://pebble/localhost:14001/" = .ok uri ∧
      (pebble []).accepts uri = true ∧ NamesServer uri "localhost".toList 14001 ∧
      ResolvesAsNamed (pebble []) uri ∧
      ∃ u, (pebble []).resolve uri = .ok u ∧ IsDirectoryOn u "localhost".toList 14001 := by
  let uri : Url :=
    { scheme := "acme", hasAuthority := true, host := some (.domain "pebble"),
      path := .segments ["localhost:14001".toList, []] }
  have hparse : Url.parse "acme://pebble/localhost:14001/" = .ok uri := by decide +kernel
  have haccepts : (pebble []).accepts uri = true := by decide
  have hserver : NamesServer uri "localhost".toList 14001 :=
    named?_eq_some_iff.mp (by decide +kernel)
  have hhost : Url.Host.ofChars "localhost".toList = .ok (.domain "localhost") := by
    decide +kernel
  obtain ⟨hiff, -, hresolves⟩ := pebble_resolvesAsNamed_iff hparse haccepts
  refine ⟨uri, hparse, haccepts, hserver, hiff.mpr fun host port u h _ => ?_,
    hresolves _ _ _ hserver hhost⟩
  obtain ⟨rfl, -⟩ := hserver.unique h
  decide

/-- A backslash in the host of an alias is read as the slash in front of the path, so that neither
the path nor the port is the one of the directory. -/
theorem pebble_not_resolvesAsNamed :
    ∃ uri, Url.parse "acme://pebble/ho\\st" = .ok uri ∧ (pebble []).accepts uri = true ∧
      ¬ResolvesAsNamed (pebble []) uri := by
  let uri : Url :=
    { scheme := "acme", hasAuthority := true, host := some (.domain "pebble"),
      path := .segments ["ho\\st".toList] }
  let u : Url :=
    { scheme := "https", hasAuthority := true, host := some (.domain "ho"),
      path := .segments ["st:14000".toList, "dir".toList] }
  refine ⟨uri, by decide +kernel, by decide, fun h => ?_⟩
  have hresolve : (pebble []).resolve uri = .ok u := by decide +kernel
  obtain ⟨host, port, -, hdirectory⟩ := h.directory u hresolve
  exact absurd hdirectory.path (by decide)

end Aliases

end AcmeClient.Provider

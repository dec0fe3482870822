import AcmeClient.Http.Response

/-!
# Locations with a scheme of their own

A location that has a scheme and two slashes behind it does not depend on what it is relative to. A
response turns it into the text of the URL that it stands for, so that the location stays as it is
written exactly if it is in normal form.
-/

namespace AcmeClient

namespace Url

/-- Whether a text has a scheme and two slashes behind it. -/
def IsAbsolute (s : String) : Prop :=
  ∃ scheme rest, scheme? (cleaned s.toList) = some (scheme, '/' :: '/' :: rest)

/-- Whether a text is written as the URL that it stands for, if it stands for one. -/
def IsNormal (s : String) : Prop := ∀ url, parse s = .ok url → url.toText = s

/-- What follows a scheme and two slashes does not depend on a base. -/
theorem withScheme_eq_none (base : Option Url) (scheme : String) (rest : List Char) :
    withScheme base scheme ('/' :: '/' :: rest) = withScheme none scheme ('/' :: '/' :: rest) := by
  unfold withScheme
  split
  · rfl
  · split
    · -- both slashes are passed over, so that what follows is read as an authority
      have hslashes : ¬('/' :: '/' :: rest).length <
          (('/' :: '/' :: rest).dropWhile fun c => c = '/' ∨ c = '\\').length + 2 := by
        have hle := (List.dropWhile_suffix (l := rest) fun c => c = '/' ∨ c = '\\').length_le
        simp only [List.dropWhile_cons, List.length_cons, true_or, decide_true, if_true]
        omega
      simp only [if_neg hslashes, Option.filter_none]
      split <;> rfl
    · rfl

/-- A text with a scheme and two slashes stands for the same URL relative to any base. -/
theorem join_eq_parse {s : String} (h : IsAbsolute s) (base : Url) : base.join s = parse s := by
  obtain ⟨scheme, rest, hscheme⟩ := h
  simp only [join, parse, parseWith, hscheme]
  exact withScheme_eq_none (some base) scheme rest

end Url

namespace Http.Response

variable {r : Response} {text : String}

/-- A location with a scheme and two slashes is the text of the URL that it stands for, or stays as
it is written if it stands for none. -/
theorem location?_of_isAbsolute (hbase : (Url.parse r.url).toOption.isSome)
    (hheader : r.header? "location" = some text) (h : Url.IsAbsolute text) :
    r.location? = some (match Url.parse text with
      | .ok url => url.toText
      | .error _ => text) := by
  cases hurl : Url.parse r.url with
  | error e => simp [hurl, Except.toOption] at hbase
  | ok base =>
    rw [location?, hheader, hurl, Option.map_some]
    dsimp only [Except.bind]
    cases hparse : Url.parse text <;> simp only [(Url.join_eq_parse h base).trans hparse]

/-- A location with a scheme and two slashes stays as it is written exactly if it is in normal
form. -/
theorem location?_eq_header_iff (hbase : (Url.parse r.url).toOption.isSome)
    (hheader : r.header? "location" = some text) (h : Url.IsAbsolute text) :
    r.location? = some text ↔ Url.IsNormal text := by
  rw [location?_of_isAbsolute hbase hheader h, Option.some.injEq, Url.IsNormal]
  cases Url.parse text with
  | ok url => simp
  | error e => simp

end Http.Response

end AcmeClient

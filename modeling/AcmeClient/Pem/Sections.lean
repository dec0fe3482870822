import AcmeClient.Pem.Strict

/-!
# Sections in PEM form

A text may hold any number of sections between other lines. Sections are found line by line;
blanks in their content do not matter, and padding may be missing. A section that begins inside
another goes on with its symbols. Only certificates are kept.
-/

namespace AcmeClient.Pem

/-- The lines of a text, without their ends. -/
def textLines (cs : List Char) : List (List Char) := Text.splitOn '\n' (cs.map fun c => if c = '\r' then '\n' else c)

/-- A line without blanks at its end. -/
def trimmedLine (line : List Char) : List Char :=
  Text.dropEndWhile (fun c => c = ' ' ∨ c = '\r' ∨ c = '\n') line

/-- Whether a symbol's place may be taken by a blank. -/
def isSkipped (c : Char) : Bool := c = ' ' || c = '\t' || c = '\n' || c = '\r' || c = '\x0b' || c = '\x0c'

/-- The section being read: its label and its symbols so far. -/
structure Section where
  label : List Char
  symbols : List Char

/-- The kinds of sections that are told apart. -/
def knownLabels : List String :=
  ["CERTIFICATE", "PUBLIC KEY", "RSA PRIVATE KEY", "PRIVATE KEY", "EC PRIVATE KEY", "X509 CRL",
    "CERTIFICATE REQUEST", "ECHCONFIG"]

/-- Reads lines with the section that has begun; the certificates in their order, or nothing if a
section is broken. -/
def certificatesFrom : Option Section → List (List Char) → Option (List Bytes)
  | none, [] => some []
  | some _, [] => none
  | current, line :: rest =>
    match Text.after? beginMark line with
    | some after =>
      let trimmed := trimmedLine after
      let label := trimmed.take (trimmed.length - dashes.length)
      if trimmed.drop label.length = dashes ∧ label.getLast? ≠ some '-' then
        certificatesFrom (some ⟨label, (current.map (·.symbols)).getD []⟩) rest
      else none
    | none =>
      match current with
      | none => certificatesFrom none rest
      | some s =>
        if (Text.after? (endMark ++ s.label ++ dashes) line).isSome then
          if knownLabels.contains (.ofList s.label) then
            match Base64.decodeRelaxed? (s.symbols.filter (!isSkipped ·)) with
            | none => none
            | some octets =>
              if s.label = "CERTIFICATE".toList then (octets :: ·) <$> certificatesFrom none rest
              else certificatesFrom none rest
          else certificatesFrom none rest
        else certificatesFrom (some { s with symbols := s.symbols ++ trimmedLine line }) rest

/-- The certificates in octets, or nothing if a section is broken. Octets outside ASCII are no
marks, labels, symbols or blanks. -/
def certificatesIn? (octets : Bytes) : Option (List Bytes) :=
  certificatesFrom none (textLines (octets.map Char.ofUInt8))

/-- The certificates in a text, or nothing if a section is broken. -/
def certificates? (text : String) : Option (List Bytes) := certificatesFrom none (textLines text.toList)

end AcmeClient.Pem

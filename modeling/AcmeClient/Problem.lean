import AcmeClient.Identifier.Basic
import AcmeClient.Text.Blank

/-!
# Problem documents

A server answers a failed request with a problem: its type, a description, and possibly one
problem for each identifier concerned. Problems of the protocol have a short name behind a common
beginning.
-/

namespace AcmeClient

/-- A problem with one identifier. -/
structure Subproblem where
  type : String
  detail : Option String := none
  identifier : Option Identifier := none
  deriving DecidableEq, Repr

/-- A problem document. -/
structure Problem where
  type : String := "about:blank"
  detail : Option String := none
  status : Option UInt16 := none
  subproblems : Option (List Subproblem) := none
  deriving DecidableEq, Repr

namespace Subproblem

/-- The members of a subproblem. -/
def record : Json.Record Subproblem where
  blank := ⟨"", none, none⟩
  members := [
    .required "type" .text (·.type) fun x p => { p with type := x },
    .nullable "detail" .text (·.detail) fun x p => { p with detail := x },
    .nullable "identifier" Identifier.codec (·.identifier) fun x p => { p with identifier := x }]

/-- Subproblems in JSON text. -/
def codec : Json.Codec Subproblem := record.codec

/-- A subproblem as messages show it. -/
def message (p : Subproblem) : String :=
  (match p.identifier with
    | none => ""
    | some i => i.value ++ ": ") ++
  match p.detail with
    | none => p.type
    | some detail => p.type ++ ": " ++ detail

end Subproblem

namespace Problem

/-- The members of a problem. -/
def record : Json.Record Problem where
  blank := {}
  members := [
    .defaulted "type" .text (·.type) fun x p => { p with type := x },
    .optional "detail" .text (·.detail) fun x p => { p with detail := x },
    .optional "status" .uint16 (·.status) fun x p => { p with status := x },
    .optional "subproblems" (.list Subproblem.codec) (·.subproblems)
      fun x p => { p with subproblems := x }]

/-- Problems in JSON text. -/
def codec : Json.Codec Problem := record.codec

/-- The beginnings of the types that belong to the protocol. -/
def typePrefixes : List String := ["urn:ietf:params:acme:error:", "urn:acme:error:"]

/-- The short name of a problem of the protocol. -/
def shortName? (p : Problem) : Option String :=
  typePrefixes.findSome? fun start =>
    (Text.after? start.toList p.type.toList).map String.ofList

/-- Whether the server refused the nonce of a request. -/
def isBadNonce (p : Problem) : Bool := p.shortName? == some "badNonce" || p.type == "badNonce"

/-- A problem as messages show it. -/
def message (p : Problem) : String :=
  (match p.detail with
    | none => p.type
    | some detail => p.type ++ ": " ++ detail) ++
  String.join ((p.subproblems.getD []).map fun s => " (" ++ s.message ++ ")")

end Problem

end AcmeClient

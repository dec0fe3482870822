import AcmeClient.Proofs.Json.Records
import AcmeClient.Resource.Account
import AcmeClient.Resource.Authorization
import AcmeClient.Resource.Directory
import AcmeClient.Resource.Order

/-!
# Resources are read back

Every resource that is written is read back as it was: fields under their names, those without a
value left out or written as nothing, states by their names. A request for an order is also read
as an order, with the fields that it has and everything else at its default.
-/

namespace AcmeClient

open Json Record

/-- States are read back. -/
theorem Status.recovers (depth : Nat) (s : Status) : Recovers codec depth s where
  starts := ⟨Reader.octet '"', _, rfl, by decide, by decide, by decide⟩
  read rest _ := by
    change (Reader.peek >>= _) (writeText s.name ++ rest) = _
    rw [writeText_append, Reader.bind_of_eq_ok (Reader.peek_cons (by decide) _)]
    change (Reader.advance >>= fun _ => Reader.text >>= fun t => pure (ofName t)) _ = _
    rw [Reader.bind_of_eq_ok (Reader.advance_cons _ _), Reader.bind_of_eq_ok (text_flatMap _ _),
      ofName_name]
    rfl

/-- Identifiers are read back. -/
theorem Identifier.recovers (depth : Nat) (i : Identifier) : Recovers codec (depth + 2) i :=
  Record.recovers (.required rfl (recovers_text _ _) <| .required rfl (recovers_text _ _) <|
    .optional rfl (fun _ _ => recovers_text _ _) rfl .nil) (by decide)

/-- Subproblems are read back. -/
theorem Subproblem.recovers (depth : Nat) (p : Subproblem) : Recovers codec (depth + 3) p :=
  Record.recovers (.required rfl (recovers_text _ _) <|
    .nullable rfl (fun _ _ => recovers_text _ _) <|
    .nullable rfl (fun i _ => i.recovers depth) .nil) (by decide)

/-- Problems are read back. -/
theorem Problem.recovers (depth : Nat) (p : Problem) : Recovers codec (depth + 5) p :=
  Record.recovers (.defaulted rfl (recovers_text _ _) <|
    .optional rfl (fun _ _ => recovers_text _ _) rfl <|
    .optional rfl (fun _ _ => recovers_uint16 _ _) rfl <|
    .optional rfl (fun _ _ => recovers_list fun p _ => p.recovers depth) rfl .nil) (by decide)

namespace Resource

/-- Renewals are read back. -/
theorem Renewal.recovers (depth : Nat) (r : Renewal) : Recovers codec (depth + 2) r :=
  Record.recovers (.optional rfl (fun _ _ => recovers_text _ _) rfl <|
    .optional rfl (fun _ _ => recovers_text _ _) rfl <|
    .optional rfl (fun _ _ => recovers_uint64 _ _) rfl <|
    .optional rfl (fun _ _ => recovers_uint64 _ _) rfl <|
    .optional rfl (fun _ _ => recovers_bool _ _) rfl .nil) (by decide)

/-- Renewal terms are read back. -/
theorem RenewalTerms.recovers (depth : Nat) (t : RenewalTerms) : Recovers codec (depth + 2) t :=
  Record.recovers (.optional rfl (fun _ _ => recovers_uint64 _ _) rfl <|
    .optional rfl (fun _ _ => recovers_uint64 _ _) rfl <|
    .optional rfl (fun _ _ => recovers_bool _ _) rfl .nil) (by decide)

/-- Capabilities are read back. -/
theorem Capabilities.recovers (depth : Nat) (c : Capabilities) : Recovers codec (depth + 3) c :=
  Record.recovers (.optional rfl (fun _ _ => recovers_text _ _) rfl <|
    .optional rfl (fun _ _ => recovers_text _ _) rfl <|
    .optional rfl (fun _ _ => recovers_list fun _ _ => recovers_text _ _) rfl <|
    .optional rfl (fun _ _ => recovers_bool _ _) rfl <|
    .optional rfl (fun t _ => t.recovers depth) rfl <|
    .optional rfl (fun _ _ => recovers_dictionary fun _ _ => recovers_text _ _) rfl <|
    .optional rfl (fun _ _ => recovers_bool _ _) rfl .nil) (by decide)

/-- Directories are read back. -/
theorem Directory.recovers (depth : Nat) (d : Directory) : Recovers codec (depth + 4) d :=
  Record.recovers (.required rfl (recovers_text _ _) <| .required rfl (recovers_text _ _) <|
    .required rfl (recovers_text _ _) <|
    .optional rfl (fun _ _ => recovers_text _ _) rfl <|
    .optional rfl (fun _ _ => recovers_text _ _) rfl <|
    .optional rfl (fun _ _ => recovers_text _ _) rfl <|
    .optional rfl (fun _ _ => recovers_text _ _) rfl <|
    .optional rfl (fun c _ => c.recovers depth) rfl .nil) (by decide)

/-- Challenges are read back. -/
theorem Challenge.recovers (depth : Nat) (c : Challenge) : Recovers codec (depth + 6) c :=
  Record.recovers (.required rfl (recovers_text _ _) <| .required rfl (recovers_text _ _) <|
    .defaulted rfl (Status.recovers _ _) <|
    .optional rfl (fun _ _ => recovers_text _ _) rfl <|
    .optional rfl (fun p _ => p.recovers depth) rfl <|
    .optional rfl (fun _ _ => recovers_text _ _) rfl <|
    .optional rfl (fun _ _ => recovers_list fun _ _ => recovers_text _ _) rfl .nil) (by decide)

/-- Authorizations are read back. -/
theorem Authorization.recovers (depth : Nat) (a : Authorization) :
    Recovers codec (depth + 8) a :=
  Record.recovers (.required rfl (a.identifier.recovers _) <|
    .defaulted rfl (Status.recovers _ _) <|
    .nullable rfl (fun _ _ => recovers_text _ _) <|
    .defaulted rfl (recovers_list fun c _ => c.recovers depth) <|
    .nullable rfl (fun _ _ => recovers_bool _ _) <|
    .nullable rfl (fun _ _ => recovers_bool _ _) .nil) (by decide)

/-- Accounts without a binding to an account elsewhere are read back. -/
theorem Account.recovers (depth : Nat) (a : Account) (h : a.externalAccountBinding = none) :
    Recovers codec (depth + 3) a :=
  Record.recovers (.optional rfl (fun s _ => s.recovers _) rfl <|
    .optional rfl (fun _ _ => recovers_list fun _ _ => recovers_text _ _) rfl <|
    .optional rfl (fun v hv => by rw [h] at hv; cases hv) rfl <|
    .optional rfl (fun _ _ => recovers_bool _ _) rfl <|
    .optional rfl (fun _ _ => recovers_bool _ _) rfl <|
    .optional rfl (fun _ _ => recovers_text _ _) rfl .nil) (by decide)

/-- Orders are read back. -/
theorem Order.recovers (depth : Nat) (o : Order) : Recovers codec (depth + 6) o :=
  Record.recovers (.defaulted rfl (Status.recovers _ _) <|
    .optional rfl (fun _ _ => recovers_text _ _) rfl <|
    .required rfl (recovers_list fun i _ => i.recovers _) <|
    .optional rfl (fun _ _ => recovers_text _ _) rfl <|
    .optional rfl (fun _ _ => recovers_text _ _) rfl <|
    .optional rfl (fun p _ => p.recovers depth) rfl <|
    .defaulted rfl (recovers_list fun _ _ => recovers_text _ _) <|
    .defaulted rfl (recovers_text _ _) <|
    .optional rfl (fun _ _ => recovers_text _ _) rfl <|
    .optional rfl (fun _ _ => recovers_text _ _) rfl <|
    .optional rfl (fun r _ => r.recovers _) rfl <|
    .optional rfl (fun _ _ => recovers_text _ _) rfl <|
    .optional rfl (fun _ _ => recovers_text _ _) rfl .nil) (by decide)

/-- Finalizations are read back. -/
theorem Finalization.recovers (depth : Nat) (f : Finalization) : Recovers codec (depth + 2) f :=
  Record.recovers (.required rfl (recovers_text _ _) .nil) (by decide)

/-- The order that a request for one describes, with everything else at its default. -/
def NewOrder.toOrder (n : NewOrder) : Order where
  identifiers := n.identifiers
  notBefore := n.notBefore
  notAfter := n.notAfter
  renewal := n.renewal
  profile := n.profile
  replaces := n.replaces

/-- A request for an order takes an order's reader to the order that it describes. -/
theorem NewOrder.fills (depth : Nat) (n : NewOrder) :
    Fills Order.record (depth + 4) n record.members Order.record.blank n.toOrder :=
  .required rfl (recovers_list fun i _ => i.recovers _) <|
    .optional rfl (fun _ _ => recovers_text _ _) rfl <|
    .optional rfl (fun _ _ => recovers_text _ _) rfl <|
    .optional rfl (fun r _ => r.recovers _) rfl <|
    .optional rfl (fun _ _ => recovers_text _ _) rfl <|
    .optional rfl (fun _ _ => recovers_text _ _) rfl .nil

/-- A request for an order is read as the order that it describes. -/
theorem NewOrder.decode_write (n : NewOrder) :
    Order.codec.decode (NewOrder.codec.write n) = .ok n.toOrder := by
  have hread := read_write (n.fills 123) (by decide) (by decide) []
  rw [List.append_nil] at hread
  exact decode_of_read hread

/-- What is promised of everything that is written: it is read back as it was. -/
structure AreReadBack : Prop where
  directories : Directory.codec.IsFaithfulOn Set.univ
  capabilities : Capabilities.codec.IsFaithfulOn Set.univ
  renewalTerms : RenewalTerms.codec.IsFaithfulOn Set.univ
  accounts : Account.codec.IsFaithfulOn {a | a.externalAccountBinding = none}
  orders : Order.codec.IsFaithfulOn Set.univ
  authorizations : Authorization.codec.IsFaithfulOn Set.univ
  challenges : Challenge.codec.IsFaithfulOn Set.univ
  problems : Problem.codec.IsFaithfulOn Set.univ
  subproblems : Subproblem.codec.IsFaithfulOn Set.univ
  identifiers : Identifier.codec.IsFaithfulOn Set.univ
  renewals : Renewal.codec.IsFaithfulOn Set.univ
  finalizations : Finalization.codec.IsFaithfulOn Set.univ
  /-- A request for an order is read as an order. -/
  newOrders : ∀ n : NewOrder, Order.codec.decode (NewOrder.codec.write n) = .ok {
    identifiers := n.identifiers, notBefore := n.notBefore, notAfter := n.notAfter,
    renewal := n.renewal, profile := n.profile, replaces := n.replaces }

/-- Everything that is written is read back as it was. -/
theorem resources_read_back : AreReadBack where
  directories := isFaithfulOn_of_recovers fun d _ => d.recovers _
  capabilities := isFaithfulOn_of_recovers fun c _ => c.recovers _
  renewalTerms := isFaithfulOn_of_recovers fun t _ => t.recovers _
  accounts := isFaithfulOn_of_recovers fun a ha => a.recovers _ ha
  orders := isFaithfulOn_of_recovers fun o _ => o.recovers _
  authorizations := isFaithfulOn_of_recovers fun a _ => a.recovers _
  challenges := isFaithfulOn_of_recovers fun c _ => c.recovers _
  problems := isFaithfulOn_of_recovers fun p _ => p.recovers _
  subproblems := isFaithfulOn_of_recovers fun p _ => p.recovers _
  identifiers := isFaithfulOn_of_recovers fun i _ => i.recovers _
  renewals := isFaithfulOn_of_recovers fun r _ => r.recovers _
  finalizations := isFaithfulOn_of_recovers fun f _ => f.recovers _
  newOrders := NewOrder.decode_write

end Resource

end AcmeClient

import AcmeClient.Challenge.Persistent
import AcmeClient.Proofs.DomainName.Ascii
import AcmeClient.Proofs.Results

/-!
# Values of persistent records

The value of a record can be read in one way only. A separator splits what stands before it and what
stands after it, and no field has one inside unless the account or the policy does.
-/

namespace AcmeClient.PersistentProof

/-- What sets the fields of a record apart. -/
def separator : List Char := [';', ' ']

/-- The pieces of a text between separators, which are looked for from the left. -/
def splitFields : List Char → List (List Char)
  | [] => [[]]
  | [c] => [[c]]
  | c :: d :: rest =>
    if c = ';' ∧ d = ' ' then [] :: splitFields rest
    else (splitFields (d :: rest)).modifyHead (c :: ·)

variable {xs ys : List Char} {issuer issuer' account account' name name' : String}
  {policy policy' : Option String} {until? until?' : Option Int}

/-- There is at least one piece. -/
theorem splitFields_ne_nil (xs : List Char) : splitFields xs ≠ [] := by
  fun_induction splitFields xs with
  | case1 => exact List.cons_ne_nil _ _
  | case2 => exact List.cons_ne_nil _ _
  | case3 => exact List.cons_ne_nil _ _
  | case4 c d rest _ ih => simpa using ih

/-- A text splits at a separator, whatever stands on either side. -/
theorem splitFields_append (xs ys : List Char) :
    splitFields (xs ++ separator ++ ys) = splitFields xs ++ splitFields ys := by
  fun_induction splitFields xs with
  | case1 => rfl
  | case2 c => simp [separator, splitFields]
  | case3 c d rest h ih =>
    simp only [List.cons_append, splitFields, if_pos h, ih]
  | case4 c d rest h ih =>
    obtain ⟨piece, pieces, hpieces⟩ := List.exists_cons_of_ne_nil (splitFields_ne_nil (d :: rest))
    rw [List.cons_append, List.cons_append] at ih
    simp only [List.cons_append, splitFields, if_neg h, ih, hpieces, List.modifyHead_cons]

/-- A text without a separator is one piece. -/
theorem splitFields_of_unseparated (h : ¬separator <:+: xs) : splitFields xs = [xs] := by
  fun_induction splitFields xs with
  | case1 => rfl
  | case2 => rfl
  | case3 c d rest hsep ih =>
    obtain ⟨rfl, rfl⟩ := hsep
    exact absurd ⟨[], rest, rfl⟩ h
  | case4 c d rest _ ih =>
    rw [ih fun hsep => h (List.infix_cons hsep)]
    rfl

/-- Joined texts split again if none of them has a separator inside. -/
theorem splitFields_intercalate {fields : List (List Char)} (hne : fields ≠ [])
    (h : ∀ field ∈ fields, ¬separator <:+: field) :
    splitFields (separator.intercalate fields) = fields := by
  induction fields with
  | nil => exact absurd rfl hne
  | cons field fields ih =>
    obtain ⟨hfield, hfields⟩ := List.forall_mem_cons.mp h
    cases fields with
    | nil => simpa using splitFields_of_unseparated hfield
    | cons next fields =>
      rw [List.intercalate_cons_of_ne_nil (List.cons_ne_nil _ _), splitFields_append,
        splitFields_of_unseparated hfield, ih (List.cons_ne_nil _ _) hfields, List.singleton_append]

/-- A text without blanks has no separator. -/
theorem unseparated_of_not_mem (h : ' ' ∉ xs) : ¬separator <:+: xs :=
  fun hsep => h (hsep.subset (by decide))

/-- A text does not get a separator from a beginning without semicolons. -/
theorem unseparated_append (hxs : ';' ∉ xs) (h : ¬separator <:+: ys) :
    ¬separator <:+: xs ++ ys := by
  induction xs with
  | nil => exact h
  | cons c xs ih =>
    rw [List.mem_cons, not_or] at hxs
    rw [List.cons_append, List.infix_cons_iff]
    rintro (hstart | hsep)
    · exact hxs.1 (List.cons_prefix_cons.mp hstart).1
    · exact ih hxs.2 hsep

/-- An integer is written as usual in base ten. -/
theorem integerChars_eq_toString (n : Int) :
    String.ofList (Decimal.integerChars n) = toString n := by
  rw [Int.toString_eq_repr, Int.repr_eq_if, Decimal.integerChars]
  by_cases hn : n < 0
  · have habs : n.natAbs = (-n).toNat := by omega
    rw [if_pos hn, if_neg (by omega), habs, Nat.repr_eq_ofList_toDigits, ← String.toList_inj]
    simp
  · have habs : n.natAbs = n.toNat := by omega
    rw [if_neg hn, if_pos (by omega), habs, Nat.repr_eq_ofList_toDigits]

/-- An integer is written without blanks. -/
theorem not_mem_integerChars (n : Int) : ' ' ∉ Decimal.integerChars n := by
  have hdigits (k : Nat) : ' ' ∉ Nat.toDigits 10 k := fun hmem =>
    absurd (Nat.isDigit_of_mem_toDigits (by decide) (by decide) hmem) (by decide)
  unfold Decimal.integerChars
  split
  · rw [List.mem_cons, not_or]
    exact ⟨by decide, hdigits _⟩
  · exact hdigits _

/-- Integers that are written alike are the same. -/
theorem integerChars_inj {m n : Int} (h : Decimal.integerChars m = Decimal.integerChars n) :
    m = n := by
  have hsign (k : Nat) : '-' ∉ Nat.toDigits 10 k := fun hmem =>
    absurd (Nat.isDigit_of_mem_toDigits (by decide) (by decide) hmem) (by decide)
  have hnat {k l : Nat} (h : Nat.toDigits 10 k = Nat.toDigits 10 l) : k = l := by
    rw [← Nat.ofDigitChars_ten_toDigits (n := k), h, Nat.ofDigitChars_ten_toDigits]
  unfold Decimal.integerChars at h
  split at h <;> split at h
  · have habs := hnat (List.cons.inj h).2
    omega
  · exact absurd (h ▸ List.mem_cons_self) (hsign _)
  · exact absurd (h ▸ List.mem_cons_self) (hsign _)
  · have habs := hnat h
    omega

/-- The name of an issuer has no blanks. -/
theorem not_mem_issuerName (h : issuerName issuer = .ok name) : ' ' ∉ name.toList := by
  intro hmem
  unfold issuerName at h
  dsimp only at h
  split at h
  · cases h
  · exact absurd (DomainName.isHostChar_of_toAscii h _ hmem) (by decide)

/-- The fields of a record: issuer and account, the policy if it is not empty, the last second. -/
theorem fields_eq (name account : String) (policy : Option String) (until? : Option Int) :
    fields name account policy until? =
      [name, "accounturi=" ++ account] ++
        (if policy.getD "" = "" then [] else ["policy=" ++ policy.getD ""]) ++
        until?.toList.map ("persistUntil=" ++ toString ·) := by
  have huntil : (until?.map fun second =>
      "persistUntil=" ++ String.ofList (Decimal.integerChars second)).toList =
        until?.toList.map ("persistUntil=" ++ toString ·) := by
    cases until? with
    | none => rfl
    | some n => simp only [Option.map_some, Option.toList_some, List.map_cons, List.map_nil,
        integerChars_eq_toString]
  rw [fields, huntil]
  congr 2
  cases policy with
  | none => rfl
  | some p => by_cases hp : p = "" <;> simp [hp, Option.filter]

/-- No field of a record has a separator inside if account and policy have none. -/
theorem unseparated_of_mem_fields (hname : ' ' ∉ name.toList)
    (haccount : ¬separator <:+: account.toList)
    (hpolicy : ∀ p ∈ policy, ¬separator <:+: p.toList) :
    ∀ field ∈ fields name account policy until?, ¬separator <:+: field.toList := by
  intro field hfield
  rw [fields_eq, List.mem_append, List.mem_append] at hfield
  rcases hfield with (hfield | hfield) | hfield
  · rcases List.mem_pair.mp hfield with rfl | rfl
    · exact unseparated_of_not_mem hname
    · rw [String.toList_append]
      exact unseparated_append (by decide) haccount
  · cases policy with
    | none => cases hfield
    | some p =>
      rw [Option.getD_some] at hfield
      split at hfield
      · cases hfield
      · rw [List.mem_singleton.mp hfield, String.toList_append]
        exact unseparated_append (by decide) (hpolicy p rfl)
  · obtain ⟨n, _, rfl⟩ := List.mem_map.mp hfield
    refine unseparated_of_not_mem ?_
    have hinteger : ' ' ∉ (toString n).toList := by
      rw [← integerChars_eq_toString, String.toList_ofList]
      exact not_mem_integerChars n
    rw [String.toList_append, List.mem_append, not_or]
    exact ⟨by decide, hinteger⟩

/-- Records have the same fields if they agree on all of them, an empty policy being none. -/
theorem fields_inj : fields name account policy until? = fields name' account' policy' until?' ↔
    name = name' ∧ account = account' ∧ policy.getD "" = policy'.getD "" ∧ until? = until?' := by
  have hkinds (p : String) (n : Int) : "policy=" ++ p ≠ "persistUntil=" ++ n.repr := by
    intro heq
    simpa using congrArg String.toList heq
  have hkinds' (p : String) (n : Int) : "persistUntil=" ++ n.repr ≠ "policy=" ++ p :=
    (hkinds p n).symm
  have hintegers (m n : Int) : m.repr = n.repr ↔ m = n := by
    rw [← Int.toString_eq_repr, ← Int.toString_eq_repr, ← integerChars_eq_toString,
      ← integerChars_eq_toString, String.ofList_inj]
    exact ⟨integerChars_inj, fun heq => by rw [heq]⟩
  rw [fields_eq, fields_eq]
  generalize policy.getD "" = p, policy'.getD "" = p'
  constructor
  · intro heq
    by_cases hp : p = "" <;> by_cases hp' : p' = "" <;> cases until? <;> cases until?' <;>
      simp_all
  · rintro ⟨rfl, rfl, rfl, rfl⟩
    rfl

/-- A record has a value exactly if the issuer has a name. -/
theorem recordValue_eq (hname : issuerName issuer = .ok name) :
    recordValue issuer account policy until? =
      .ok ("; ".intercalate (fields name account policy until?)) := by
  rw [recordValue, hname, ok_bind]
  rfl

/-- The value of a record splits into its fields. -/
theorem splitFields_fields (until? : Option Int) (hname : ' ' ∉ name.toList)
    (haccount : ¬separator <:+: account.toList) (hpolicy : ∀ p ∈ policy, ¬separator <:+: p.toList) :
    (splitFields ("; ".intercalate (fields name account policy until?)).toList).map String.ofList =
      fields name account policy until? := by
  have hsep : "; ".toList = separator := rfl
  have hne : (fields name account policy until?).map String.toList ≠ [] := by simp [fields]
  rw [String.toList_intercalate, hsep, splitFields_intercalate hne]
  · simp [Function.comp_def]
  · rw [List.forall_mem_map]
    exact unseparated_of_mem_fields hname haccount hpolicy

/-- The value of a record splits into the issuer, the account, the policy if there is one that is
not empty, and the last second if there is one. Two records have the same value exactly if they
agree on all of these. -/
theorem recordValue_unambiguous (until? until?' : Option Int)
    (hname : issuerName issuer = .ok name) (hname' : issuerName issuer' = .ok name')
    (haccount : ¬separator <:+: account.toList)
    (haccount' : ¬separator <:+: account'.toList)
    (hpolicy : ∀ p ∈ policy, ¬separator <:+: p.toList)
    (hpolicy' : ∀ p ∈ policy', ¬separator <:+: p.toList) :
    ∃ value value', recordValue issuer account policy until? = .ok value ∧
      recordValue issuer' account' policy' until?' = .ok value' ∧
      (splitFields value.toList).map String.ofList =
        [name, "accounturi=" ++ account] ++
          (if policy.getD "" = "" then [] else ["policy=" ++ policy.getD ""]) ++
          until?.toList.map ("persistUntil=" ++ toString ·) ∧
      (value = value' ↔ name = name' ∧ account = account' ∧
        policy.getD "" = policy'.getD "" ∧ until? = until?') := by
  have hsplit := splitFields_fields until? (not_mem_issuerName hname) haccount hpolicy
  have hsplit' := splitFields_fields until?' (not_mem_issuerName hname') haccount' hpolicy'
  refine ⟨_, _, recordValue_eq hname, recordValue_eq hname', hsplit.trans (fields_eq ..), ?_⟩
  rw [← fields_inj]
  constructor
  · intro hvalue
    rw [← hsplit, ← hsplit', hvalue]
  · intro hfields
    rw [hfields]

/-- A record with a policy and a last second, and one with an empty policy. -/
theorem recordValue_unambiguous_wildcard :
    ∃ value value', recordValue "CA.Example.com." "https://ca.example.com/acct/1" (some "wildcard")
        (some 1735689600) = .ok value ∧
      recordValue "ca.example.com" "https://ca.example.com/acct/1" (some "") none = .ok value' ∧
      (splitFields value.toList).map String.ofList =
        ["ca.example.com", "accounturi=https://ca.example.com/acct/1", "policy=wildcard",
          "persistUntil=1735689600"] ∧ value ≠ value' := by
  have hname : issuerName "CA.Example.com." = .ok "ca.example.com" := by decide +kernel
  have hname' : issuerName "ca.example.com" = .ok "ca.example.com" := by decide +kernel
  have haccount : ¬separator <:+: "https://ca.example.com/acct/1".toList := by decide +kernel
  have hpolicy : ∀ p ∈ some "wildcard", ¬separator <:+: p.toList := by decide +kernel
  have hpolicy' : ∀ p ∈ some "", ¬separator <:+: p.toList := by decide +kernel
  obtain ⟨value, value', hvalue, hvalue', hsplit, hiff⟩ := recordValue_unambiguous
    (some 1735689600) none hname hname' haccount haccount hpolicy hpolicy'
  refine ⟨value, value', hvalue, hvalue', hsplit.trans (by decide +kernel), fun heq => ?_⟩
  exact absurd (hiff.mp heq).2.2.1 (by decide)

end AcmeClient.PersistentProof

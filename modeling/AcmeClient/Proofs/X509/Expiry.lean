import AcmeClient.Proofs.X509.Renewal

/-!
# Certificates that expire

The end of validity of a certificate is the latter of the two times in the third field behind its
serial number. The days that are left until then are counted as whole days, so that a certificate
that has expired has no days left for one more day, and less than none from then on.
-/

namespace AcmeClient

open X509 Der

/-- The element with the end of validity of a certificate. -/
def X509.endElement? (der : Bytes) : Option Element := do
  let validity ← ((← fields? der).dropWhile (·.tag ≠ 0x02))[3]?
  (← elements? validity.content).getLast?

/-- The end of validity that is read of a certificate is the time that the element gives. -/
theorem X509.exists_endElement?_of_decode? {der : Bytes} {c : Certificate}
    (h : Certificate.decode? der = some c) :
    ∃ e t, endElement? der = some e ∧ IsTimeOf t e ∧ t.seconds = c.notAfter := by
  obtain ⟨fields, hfields, -, before, algorithm, issuer, validity, more, rfl, hbefore, hends⟩ :=
    fields?_of_decode? h
  obtain ⟨start, finish, t, helements, ht⟩ := hends
  have hdrop : (before ++ ⟨0x02, c.serial⟩ :: algorithm :: issuer :: validity :: more).dropWhile
      (·.tag ≠ 0x02) = ⟨0x02, c.serial⟩ :: algorithm :: issuer :: validity :: more := by
    rw [List.dropWhile_append_of_pos]
    · rfl
    · exact fun e he => decide_eq_true (tag_ne_of_isLower (hbefore e he)).1
  refine ⟨finish, t, ?_, ht⟩
  rw [endElement?, hfields]
  change ((List.dropWhile _ _)[3]?).bind _ = _
  rw [hdrop]
  change (elements? validity.content).bind _ = _
  rw [helements]
  rfl

namespace CertificateBundle

variable {b : CertificateBundle} {first : Bytes} {rest : List Bytes}

/-- Whether the days that are left are less than none exactly from some time on. -/
def IsNegativeFrom (b : CertificateBundle) (time : Int) : Prop :=
  ∀ now days, b.validDaysLeft now = .ok days → (days < 0 ↔ time ≤ now)

/-- Whether the days that are left are the whole days until a time, in nanoseconds: there are at
least some if that many days pass before it, less than none if a day has passed since, and they
never become more. -/
structure CountsWholeDays (b : CertificateBundle) (finish : Int) : Prop where
  exists_days : ∀ now, ∃ days, b.validDaysLeft now = .ok days
  whole : ∀ now days n, b.validDaysLeft now = .ok days → 0 < n →
    (n ≤ days ↔ now + n * dayLength ≤ finish)
  isNegativeFrom : b.IsNegativeFrom (finish + dayLength)
  antitone : ∀ now later days days', now ≤ later → b.validDaysLeft now = .ok days →
    b.validDaysLeft later = .ok days' → days' ≤ days

/-- A day takes some time. -/
theorem dayLength_pos : 0 < dayLength := by decide

/-- The days in a span of time are some if it is as long as that many days. -/
theorem le_tdiv_dayLength_iff {n x : Int} (hn : 0 < n) :
    n ≤ x.tdiv dayLength ↔ n * dayLength ≤ x := by
  rcases Int.le_total 0 x with hx | hx
  · rw [Int.tdiv_eq_ediv_of_nonneg hx, Int.le_ediv_iff_mul_le dayLength_pos]
  · have hdays : 0 ≤ (-x).tdiv dayLength :=
      Int.tdiv_nonneg (Int.neg_nonneg_of_nonpos hx) dayLength_pos.le
    rw [Int.neg_tdiv] at hdays
    have hspan : 0 < n * dayLength := Int.mul_pos hn dayLength_pos
    omega

/-- The days in a span of time are less than none if it is as long as a day, but backwards. -/
theorem tdiv_dayLength_neg_iff {x : Int} : x.tdiv dayLength < 0 ↔ x ≤ -dayLength := by
  have h : 1 ≤ (-x).tdiv dayLength ↔ 1 * dayLength ≤ -x := le_tdiv_dayLength_iff Int.one_pos
  rw [Int.neg_tdiv] at h
  omega

/-- The days that are left are counted to the end of validity of the first certificate. -/
theorem countsWholeDays_of_endEntity {c : Certificate} (h : b.endEntity = .ok c) :
    b.CountsWholeDays (c.notAfter * 1000000000) := by
  have hdays (now : Int) : b.validDaysLeft now =
      .ok ((c.notAfter * 1000000000 - now).tdiv dayLength) := by
    rw [validDaysLeft, h]
    rfl
  constructor
  · exact fun now => ⟨_, hdays now⟩
  · intro now days n hok hn
    obtain rfl := Except.ok.inj ((hdays now).symm.trans hok)
    rw [le_tdiv_dayLength_iff hn]
    omega
  · intro now days hok
    obtain rfl := Except.ok.inj ((hdays now).symm.trans hok)
    rw [tdiv_dayLength_neg_iff]
    omega
  · intro now later days days' hle hok hok'
    obtain rfl := Except.ok.inj ((hdays now).symm.trans hok)
    obtain rfl := Except.ok.inj ((hdays later).symm.trans hok')
    exact Int.tdiv_le_tdiv dayLength_pos (by omega)

/-- If the first certificate of a chain can be read, the days that are left are the whole days until
the end of its validity: less than none exactly from a day after it on, and never more than before.
-/
theorem validDaysLeft_counts (hchain : b.chain = .ok (first :: rest))
    (hdecode : (Certificate.decode? first).isSome) :
    ∃ e t, endElement? first = some e ∧ IsTimeOf t e ∧
      b.CountsWholeDays (t.seconds * 1000000000) := by
  obtain ⟨c, hc⟩ := Option.isSome_iff_exists.mp hdecode
  obtain ⟨e, t, helement, ht, hseconds⟩ := exists_endElement?_of_decode? hc
  refine ⟨e, t, helement, ht, ?_⟩
  rw [hseconds]
  exact countsWholeDays_of_endEntity (endEntity_eq_ok_iff.mpr ⟨first, rest, hchain, hc⟩)

/-- The certificate for a day, with no extensions. -/
def brief : Bytes := skeleton [0x01] []

/-- The validity of the certificate for a day ends with the first day of 1970. -/
theorem validDaysLeft_counts_brief :
    ∃ t, IsTimeOf t ⟨0x17, Utf8.encode "700102000000Z"⟩ ∧
      CountsWholeDays ⟨"", Pem.encode "CERTIFICATE" brief⟩ (t.seconds * 1000000000) := by
  have hchain := chain_encode "" (show brief ≠ [] by decide)
  have helement : endElement? brief = some ⟨0x17, Utf8.encode "700102000000Z"⟩ := by
    decide +kernel
  obtain ⟨e, t, hfound, ht, hcounts⟩ := validDaysLeft_counts hchain (by decide +kernel)
  obtain rfl := Option.some.inj (helement.symm.trans hfound)
  exact ⟨t, ht, hcounts⟩

/-- Directly after the end of its validity a certificate has no days left, and not less than none.
-/
theorem validDaysLeft_after_end :
    ∃ e t, endElement? brief = some e ∧ IsTimeOf t e ∧
      validDaysLeft ⟨"", Pem.encode "CERTIFICATE" brief⟩ (t.seconds * 1000000000 + 1) = .ok 0 ∧
      ¬IsNegativeFrom ⟨"", Pem.encode "CERTIFICATE" brief⟩ (t.seconds * 1000000000 + 1) := by
  have hchain := chain_encode "" (show brief ≠ [] by decide)
  have hdecode : Certificate.decode? brief = some ⟨[0x01], 86400, []⟩ := by decide +kernel
  obtain ⟨e, t, helement, ht, hseconds⟩ := exists_endElement?_of_decode? hdecode
  have hentity := endEntity_eq_ok_iff.mpr ⟨brief, [], hchain, hdecode⟩
  have hnone : validDaysLeft ⟨"", Pem.encode "CERTIFICATE" brief⟩
      (t.seconds * 1000000000 + 1) = .ok 0 := by
    rw [validDaysLeft, hentity, hseconds]
    rfl
  refine ⟨e, t, helement, ht, hnone, fun hnegative => ?_⟩
  exact absurd ((hnegative _ 0 hnone).mpr (Int.le_refl _)) (Int.lt_irrefl 0)

end CertificateBundle

end AcmeClient

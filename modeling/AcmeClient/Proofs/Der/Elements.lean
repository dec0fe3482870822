import AcmeClient.Proofs.Der.RoundTrip
import AcmeClient.Proofs.Results

/-!
# Octets as elements

Whatever a reader makes of octets, it takes elements off their front, one after the other. So the
octets that were read can be looked at as a list of elements, without regard to what they stand for.
-/

namespace AcmeClient.Der

/-- The elements that octets consist of. -/
def elements? (b : Bytes) : Option (List Element) := Reader.whole (Reader.many Reader.element) b

/-- The elements that the content of a single element consists of. -/
def inner? (b : Bytes) : Option (List Element) := do
  match ← elements? b with
  | [e] => elements? e.content
  | _ => none

namespace Reader

/-- Whether octets are elements in a row with a rest behind them. -/
inductive Passes : Bytes → List Element → Bytes → Prop where
  | none (s : Bytes) : Passes s [] s
  | more {s t u : Bytes} {e : Element} {es : List Element} (first : element s = some (e, t))
    (others : Passes t es u) : Passes s (e :: es) u

variable {r : Reader α} {f : α → Reader β} {s t u content : Bytes} {e : Element}
  {es es' : List Element} {x : α} {y : β} {tag : UInt8}

/-- The octets taken are in front of the rest. -/
theorem eq_append_of_take {n : Nat} (h : take n s = some (content, t)) :
    s = content ++ t ∧ content.length = n := by
  unfold take at h
  split at h
  · cases h
    exact ⟨(List.take_append_drop n s).symm, by rw [List.length_take]; omega⟩
  · cases h

/-- An octet that is taken is in front of the rest. -/
theorem eq_cons_of_octet {b : UInt8} (h : octet s = some (b, t)) : s = b :: t := by
  cases s with
  | nil => cases h
  | cons c s =>
    cases h
    rfl

/-- A length takes at least one octet. -/
theorem length_lt_of_length {n : Nat} (h : Reader.length s = some (n, t)) :
    t.length < s.length := by
  obtain ⟨b, u, hoctet, hnext⟩ := exists_of_bind_eq_some h
  obtain rfl := eq_cons_of_octet hoctet
  refine Nat.lt_succ_of_le ?_
  by_cases hshort : b < 0x80
  · rw [if_pos hshort] at hnext
    cases hnext
    exact Nat.le_refl _
  · rw [if_neg hshort] at hnext
    by_cases hform : b < 0x81 ∨ 0x84 < b
    · simp only [if_pos hform] at hnext
      cases hnext
    · simp only [if_neg hform] at hnext
      obtain ⟨octets, v, htake, hvalue⟩ := exists_of_bind_eq_some hnext
      obtain ⟨rfl, -⟩ := eq_append_of_take htake
      rw [List.length_append]
      by_cases hlong : longest < octets.toNat ∨ lengthOctets octets.toNat ≠ b :: octets
      · rw [if_pos hlong] at hvalue
        cases hvalue
      · rw [if_neg hlong] at hvalue
        cases hvalue
        exact Nat.le_add_left _ _

/-- The content of an element and what follows it are shorter than the octets. -/
theorem length_lt_of_element (h : element s = some (e, t)) :
    e.content.length + t.length < s.length := by
  obtain ⟨⟨tag, n⟩, u, hheader, hcontent⟩ := exists_of_bind_eq_some h
  obtain ⟨content, v, htake, hcontent⟩ := exists_of_bind_eq_some hcontent
  cases hcontent
  obtain ⟨b, w, hoctet, hlength⟩ := exists_of_bind_eq_some hheader
  obtain ⟨rfl, -⟩ := eq_append_of_take htake
  obtain rfl := eq_cons_of_octet hoctet
  by_cases htag : (!isTag b) = true
  · simp only [if_pos htag] at hlength
    cases hlength
  · simp only [if_neg htag] at hlength
    obtain ⟨m, w', hlength, hpair⟩ := exists_of_bind_eq_some hlength
    cases hpair
    have hlt := length_lt_of_length hlength
    rw [List.length_append] at hlt
    exact Nat.lt_succ_of_lt hlt

/-- Elements in a row can be followed by others. -/
theorem Passes.trans (h : Passes s es t) (h' : Passes t es' u) : Passes s (es ++ es') u := by
  induction h with
  | none => exact h'
  | more first _ ih => exact .more first (ih h')

/-- A single element. -/
theorem Passes.single (h : element s = some (e, t)) : Passes s [e] t := .more h (.none t)

/-- Repeating a reader does not depend on the bound, as long as there are enough steps for the
octets. -/
theorem manyFrom_element_eq {n m : Nat} (hn : s.length ≤ n) (hm : s.length ≤ m) :
    manyFrom element n s = manyFrom element m s := by
  induction n generalizing m s with
  | zero =>
    obtain rfl := List.length_eq_zero_iff.mp (Nat.le_zero.mp hn)
    cases m <;> rfl
  | succ n ih =>
    cases m with
    | zero =>
      obtain rfl := List.length_eq_zero_iff.mp (Nat.le_zero.mp hm)
      rfl
    | succ m =>
      rw [manyFrom, manyFrom]
      change (if s.isEmpty then _ else _ : Reader _) s = (if s.isEmpty then _ else _ : Reader _) s
      split
      · rfl
      · change (element s).bind _ = (element s).bind _
        refine Option.bind_congr fun p ht => ?_
        obtain ⟨e, t⟩ := p
        have hlt := length_lt_of_element ht
        change (manyFrom element n t).bind _ = (manyFrom element m t).bind _
        rw [ih (m := m) (by omega) (by omega)]

/-- The first of the elements that octets consist of. -/
theorem elements?_of_element (h : element s = some (e, t)) :
    elements? s = (elements? t).map (e :: ·) := by
  have hlt := length_lt_of_element h
  obtain ⟨n, hn⟩ : ∃ n, s.length = n + 1 := ⟨s.length - 1, by omega⟩
  have hdone : isDone s = some (false, s) := by
    cases s with
    | nil => cases hn
    | cons b s => rfl
  have hmany (u : Bytes) : many element u = manyFrom element u.length u := rfl
  have hsteps : many element s = (many element t).map fun (l, u) => (e :: l, u) := by
    rw [hmany, hmany, hn, manyFrom, bind_of_eq_some hdone]
    simp only [Bool.false_eq_true, if_false]
    rw [bind_of_eq_some h, ← manyFrom_element_eq (n := n) (m := t.length) (by omega) (by omega)]
    change (manyFrom element n t).bind _ = _
    cases manyFrom element n t <;> rfl
  unfold elements? whole
  rw [hsteps]
  cases many element t with
  | none => rfl
  | some p =>
    obtain ⟨l, u⟩ := p
    cases u <;> rfl

/-- Elements in a row are the first that the octets consist of. -/
theorem Passes.elements?_eq (h : Passes s es t) : elements? s = (elements? t).map (es ++ ·) := by
  induction h with
  | none s => simp
  | more first _ ih =>
    rw [elements?_of_element first, ih, Option.map_map]
    rfl

/-- Elements in a row to the end are what the octets consist of. -/
theorem Passes.elements?_eq_some (h : Passes s es []) : elements? s = some es := by
  rw [h.elements?_eq, show elements? [] = some [] from rfl, Option.map_some, List.append_nil]

/-- A value that octets are read as is read to their end. -/
theorem whole_eq_some_iff : whole r s = some x ↔ r s = some (x, []) := by
  unfold whole
  split
  · rename_i hread
    rw [hread]
    simp
  · rename_i hread
    simpa using fun h => hread x h

/-- Whether a reader takes a single element, which is in a relation to the value. -/
def Takes (r : Reader α) (P : Element → α → Prop) : Prop :=
  ∀ s x t, r s = some (x, t) → ∃ e, element s = some (e, t) ∧ P e x

section Takes

variable {P : Element → α → Prop} {Q : Element → β → Prop}

/-- What is done with a value without taking more does not change what was taken. -/
theorem Takes.bind (h : Takes r P)
    (hf : ∀ e x s y t, P e x → f x s = some (y, t) → t = s ∧ Q e y) : Takes (r >>= f) Q := by
  intro s y t hread
  obtain ⟨x, u, hx, hy⟩ := exists_of_bind_eq_some hread
  obtain ⟨e, he, hP⟩ := h s x u hx
  obtain ⟨rfl, hQ⟩ := hf e x u y t hP hy
  exact ⟨e, he, hQ⟩

/-- The relation may say less. -/
theorem Takes.imp {P' : Element → α → Prop} (h : Takes r P) (hP : ∀ e x, P e x → P' e x) :
    Takes r P' :=
  fun s x t hread => (h s x t hread).imp fun e he => ⟨he.1, hP e x he.2⟩

/-- Any element. -/
theorem takes_element : Takes element fun e x => x = e := fun _ e _ h => ⟨e, h, rfl⟩

/-- The content of an element with a tag. -/
theorem takes_content (tag : UInt8) : Takes (Reader.content tag) fun e c => e = ⟨tag, c⟩ := by
  refine takes_element.bind fun e x s c t hx h => ?_
  obtain rfl := hx
  split at h
  · rename_i htag
    cases h
    exact ⟨rfl, by rw [← htag]⟩
  · cases h

/-- An element with a tag whose content is read to the end. -/
theorem takes_within (tag : UInt8) (r : Reader α) :
    Takes (within tag r) fun e x => e.tag = tag ∧ r e.content = some (x, []) := by
  refine (takes_content tag).bind fun e c s x t he h => ?_
  obtain rfl := he
  cases hread : whole r c with
  | none =>
    rw [hread] at h
    cases h
  | some y =>
    rw [hread] at h
    cases h
    exact ⟨rfl, rfl, whole_eq_some_iff.mp hread⟩

/-- A repeated reader goes through the elements that the octets consist of. -/
theorem exists_of_manyFrom {n : Nat} (h : Takes r P) {xs : List α}
    (hread : manyFrom r n s = some (xs, t)) :
    t = [] ∧ ∃ es, Passes s es [] ∧ List.Forall₂ P es xs := by
  induction n generalizing s xs with
  | zero =>
    cases s with
    | nil =>
      cases hread
      exact ⟨rfl, [], .none [], .nil⟩
    | cons b s => cases hread
  | succ n ih =>
    cases s with
    | nil =>
      cases hread
      exact ⟨rfl, [], .none [], .nil⟩
    | cons b s =>
      obtain ⟨x, u, hx, hmore⟩ := exists_of_bind_eq_some
        (show (r >>= fun x => manyFrom r n >>= fun xs => pure (x :: xs)) (b :: s) = _ from hread)
      obtain ⟨l, v, hl, hpair⟩ := exists_of_bind_eq_some hmore
      cases hpair
      obtain ⟨e, he, hP⟩ := h _ x u hx
      obtain ⟨rfl, es, hpasses, hall⟩ := ih hl
      exact ⟨rfl, e :: es, .more he hpasses, .cons hP hall⟩

/-- A list of values goes through the elements in a sequence. -/
theorem takes_list (h : Takes r P) :
    Takes (list r) fun e xs =>
      e.tag = 0x30 ∧ ∃ es, Passes e.content es [] ∧ List.Forall₂ P es xs := by
  refine (takes_within 0x30 (many r)).imp fun e xs ⟨htag, hread⟩ => ⟨htag, ?_⟩
  exact (exists_of_manyFrom h hread).2

/-- Whether an element is a field with a lower number than a given one. -/
def IsLower (number : UInt8) (e : Element) : Prop :=
  e.tag &&& 0xC0 = 0x80 ∧ e.tag &&& 0x1F < number

/-- Whether octets are fields with lower numbers than a given one, then the field with that number,
whose element is in a relation to a value, or no such field. -/
def TakesField (number : UInt8) (P : Element → α → Prop) (s : Bytes) (x : Option α) (t : Bytes) :
    Prop :=
  ∃ lower, (∀ e ∈ lower, IsLower number e) ∧
    match x with
    | none => Passes s lower t ∧ ∀ b ∈ t.head?, b &&& 0xC0 ≠ 0x80 ∨ number < b &&& 0x1F
    | some x => ∃ e, Passes s (lower ++ [e]) t ∧ P e x

/-- The tag of an element is its first octet. -/
theorem tag_of_element {b : UInt8} (h : element (b :: s) = some (e, t)) : e.tag = b := by
  obtain ⟨⟨tag, n⟩, u, hheader, hcontent⟩ := exists_of_bind_eq_some h
  obtain ⟨content, v, _, hpair⟩ := exists_of_bind_eq_some hcontent
  cases hpair
  obtain ⟨c, w, hoctet, hlength⟩ := exists_of_bind_eq_some hheader
  obtain ⟨rfl, rfl⟩ := List.cons.inj (eq_cons_of_octet hoctet)
  by_cases htag : (!isTag b) = true
  · simp only [if_pos htag] at hlength
    cases hlength
  · simp only [if_neg htag] at hlength
    obtain ⟨m, w', _, hpair⟩ := exists_of_bind_eq_some hlength
    cases hpair
    rfl

/-- A field with a number is found in as many steps as there are octets. -/
theorem takesField_of_taggedFrom {number : UInt8} {n : Nat} {x : Option α} (h : Takes r P)
    (hn : s.length < n) (hread : taggedFrom number r n s = some (x, t)) :
    TakesField number P s x t := by
  induction n generalizing s with
  | zero => exact absurd hn (Nat.not_lt_zero _)
  | succ n ih =>
    cases s with
    | nil =>
      cases hread
      exact ⟨[], by simp, .none [], by simp⟩
    | cons b rest =>
      rw [taggedFrom, bind_of_eq_some (show peek (b :: rest) = some (some b, b :: rest) from rfl)]
        at hread
      by_cases htag : (!isTag b) = true
      · simp only [if_pos htag] at hread
        cases hread
      · simp only [if_neg htag] at hread
        by_cases hother : b &&& 0xC0 ≠ 0x80 ∨ number < b &&& 0x1F
        · rw [if_pos hother] at hread
          cases hread
          exact ⟨[], by simp, .none _, by simpa using hother⟩
        · rw [if_neg hother] at hread
          by_cases hnumber : b &&& 0x1F = number
          · rw [if_pos hnumber] at hread
            obtain ⟨y, u, hy, hpair⟩ := exists_of_bind_eq_some hread
            cases hpair
            obtain ⟨e, he, hP⟩ := h _ y _ hy
            exact ⟨[], by simp, e, .single he, hP⟩
          · rw [if_neg hnumber] at hread
            obtain ⟨e, u, he, hrest⟩ := exists_of_bind_eq_some hread
            have hlt := length_lt_of_element he
            obtain ⟨lower, hlower, hend⟩ := ih (by omega) hrest
            have hfirst : IsLower number e := by
              rw [not_or, not_not, UInt8.not_lt] at hother
              rw [IsLower, tag_of_element he]
              exact ⟨hother.1, UInt8.lt_of_le_of_ne hother.2 hnumber⟩
            refine ⟨e :: lower, List.forall_mem_cons.mpr ⟨hfirst, hlower⟩, ?_⟩
            cases x with
            | none => exact ⟨.more he hend.1, hend.2⟩
            | some x =>
              obtain ⟨e', hpasses, hP⟩ := hend
              exact ⟨e', .more he hpasses, hP⟩

/-- The first of elements in a row has the first octet as its tag. -/
theorem Passes.head?_eq (h : Passes s (e :: es) t) : s.head? = some e.tag := by
  cases h with
  | more first _ =>
    cases s with
    | nil => cases first
    | cons b s => rw [List.head?_cons, tag_of_element first]

/-- An optional field is read behind fields with lower numbers, or is missing. -/
theorem takesField_of_tagged {number : UInt8} {x : Option α} (h : Takes r P)
    (hread : tagged number r s = some (x, t)) : TakesField number P s x t :=
  takesField_of_taggedFrom h (Nat.lt_succ_self s.length) hread

end Takes

end Reader

end AcmeClient.Der

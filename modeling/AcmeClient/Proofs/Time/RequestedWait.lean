import Mathlib.Data.List.Nodup
import AcmeClient.Proofs.Text.Cutting
import AcmeClient.Proofs.Time.Universal
import AcmeClient.Time.RetryAfter

/-!
# Reading requested waits

A server asks for a wait of some seconds, written with any number of digits, or for a wait up to a
time, written like `Sun, 06 Nov 1994 08:49:37 GMT`. What is asked for is understood exactly if the
seconds are a number of 64 bits and the time is no leap second.
-/

namespace AcmeClient

/-- What a server can ask for: to wait for some seconds or up to a time. -/
inductive RequestedWait where
  | seconds (n : Nat)
  | till (t : UniversalTime)

/-- Whether characters are those of a time in the form `Wkd, DD Mon YYYY HH:MM:SS GMT`. -/
def IsHttpDate (t : UniversalTime) (cs : List Char) : Prop :=
  ∃ weekday ∈ RetryAfter.weekdays, ∃ month, RetryAfter.months[t.date.month - 1]? = some month ∧
    ∃ day year hour minute second : List Char,
      cs = weekday.toList ++ ',' :: ' ' :: day ++ ' ' :: month.toList ++ ' ' :: year ++
        ' ' :: hour ++ ':' :: minute ++ ':' :: second ++ [' ', 'G', 'M', 'T'] ∧
      0 ≤ t.date.year ∧ IsNumeral 4 t.date.year.toNat year ∧ IsNumeral 2 t.date.day day ∧
      IsNumeral 2 t.hour hour ∧ IsNumeral 2 t.minute minute ∧ IsNumeral 2 t.second second

/-- Whether a character is a space or a visible one of ASCII. -/
def IsPrintable (c : Char) : Prop := 0x20 ≤ c.toNat ∧ c.toNat < 0x7F

instance (c : Char) : Decidable (IsPrintable c) := inferInstanceAs (Decidable (_ ∧ _))

/-- Whether there are characters, all printable and without blanks at the ends. -/
structure IsPlainValue (cs : List Char) : Prop where
  ne_nil : cs ≠ []
  printable : ∀ c ∈ cs, IsPrintable c
  head : cs.head? ≠ some ' '
  last : cs.getLast? ≠ some ' '

/-- Only the space is a blank among printable characters. -/
theorem isBlank_eq_false {c : Char} (h : IsPrintable c) (hne : c ≠ ' ') :
    Text.isBlank c = false := by
  have hspace : c.toNat ≠ 0x20 := fun heq => hne (Char.toNat_inj.mp heq)
  unfold IsPrintable at h
  simp [Text.isBlank]
  omega

/-- Plain text is trimmed already. -/
theorem IsPlainValue.trimChars_eq {cs : List Char} (h : IsPlainValue cs) :
    Text.trimChars cs = cs := by
  refine Text.trimChars_eq_self (fun c hc => ?_) fun c hc => ?_
  · exact isBlank_eq_false (h.printable c (List.mem_of_head? hc)) fun heq => h.head (heq ▸ hc)
  · exact isBlank_eq_false (h.printable c (List.mem_of_getLast? hc)) fun heq => h.last (heq ▸ hc)

namespace RequestedWait

/-- The nanoseconds that are asked for at a time in nanoseconds from the start of 1970; none if the
time to wait for is past. -/
def interval (now : Int) : RequestedWait → Nat
  | seconds n => n * 1000000000
  | till t => (t.seconds * 1000000000 - now).toNat

/-- Whether seconds are a number of 64 bits, and times are no leap seconds. -/
def Fits : RequestedWait → Prop
  | seconds n => n < 2 ^ 64
  | till t => ¬t.IsLeap

/-- Whether one wait asks for no more than another of its kind. -/
inductive AtMost : RequestedWait → RequestedWait → Prop
  | seconds {m n : Nat} (h : m ≤ n) : AtMost (.seconds m) (.seconds n)
  | till {t u : UniversalTime} (h : t.seconds ≤ u.seconds) : AtMost (.till t) (.till u)

/-- Whether characters ask for a wait. -/
inductive IsWrittenAs : RequestedWait → List Char → Prop
  | seconds {n : Nat} {digits : List Char} (hne : digits ≠ [])
      (h : IsNumeral digits.length n digits) : IsWrittenAs (.seconds n) digits
  | till {t : UniversalTime} {cs : List Char} (h : IsHttpDate t cs) : IsWrittenAs (.till t) cs

/-- More is asked for later, or by a greater number. -/
theorem AtMost.interval_le {w w' : RequestedWait} (h : w.AtMost w') (now : Int) :
    w.interval now ≤ w'.interval now := by
  cases h with
  | seconds h => exact Nat.mul_le_mul_right _ h
  | till h =>
    unfold interval
    dsimp only
    omega

end RequestedWait

namespace RetryAfter

variable {width n : Nat} {digits rest cs : List Char} {t : UniversalTime}

/-- What has been read is passed on. -/
theorem bind_of_read {α β : Type} {x : Option α} {a : α} {f : α → Option β} (h : x = some a) :
    (x >>= f) = f a := by
  rw [h]
  rfl

/-- The value of digits is that of a number's digits. -/
theorem digitsValue_eq (cs : List Char) : digitsValue cs = Nat.ofDigitChars 10 cs 0 := by
  rw [Nat.ofDigitChars_eq_foldl]
  unfold digitsValue
  simp only [Nat.mul_comm]
  rfl

/-- A numeral in front is read. -/
theorem digits?_append (h : IsNumeral width n digits) (rest : List Char) :
    digits? width (digits ++ rest) = some (n, rest) := by
  unfold digits?
  dsimp only
  rw [List.take_left' h.length, List.drop_left' h.length, digitsValue_eq, h.value]
  exact if_pos ⟨h.length, List.all_eq_true.mpr h.isDigit⟩

/-- A year without a sign is read. -/
theorem year?_append (h : IsNumeral 4 n digits) (rest : List Char) :
    year? (digits ++ rest) = some ((n : Int), rest) := by
  have hread := digits?_append h rest
  obtain ⟨hlength, hdigit, -⟩ := h
  cases digits with
  | nil => cases hlength
  | cons c digits =>
    have hc := hdigit c List.mem_cons_self
    unfold year?
    split
    · rename_i heq
      cases heq
      cases hc
    · rename_i heq
      cases heq
      cases hc
    · rw [hread]
      rfl

/-- A name of three letters in front is read as its position. -/
theorem name?_append {names : List String} {i : Nat} {name : String}
    (hlength : ∀ n ∈ names, n.toList.length = 3) (hnodup : names.Nodup)
    (h : names[i]? = some name) (rest : List Char) :
    name? names (name.toList ++ rest) = some (i, rest) := by
  obtain ⟨hi, rfl⟩ := List.getElem?_eq_some_iff.mp h
  have hname := hlength _ (List.getElem_mem hi)
  have hfind : names.findIdx? (fun n => n.toList = names[i].toList) = some i := by
    rw [List.findIdx?_eq_some_iff_getElem]
    refine ⟨hi, by simp, fun j hj heq => ?_⟩
    have heq := String.toList_injective (of_decide_eq_true heq)
    exact absurd ((hnodup.getElem_inj_iff).mp heq) (Nat.ne_of_lt hj)
  unfold name?
  rw [List.take_left' hname, List.drop_left' hname, hfind]
  rfl

/-- A time is understood exactly if it is no leap second. -/
theorem httpDate?_of_isHttpDate (h : IsHttpDate t cs) :
    httpDate? cs = if t.IsLeap then none else some t.seconds := by
  obtain ⟨weekday, hweekday, month, hmonth, day, year, hour, minute, second, rfl, hpos, hyear,
    hday, hhour, hminute, hsecond⟩ := h
  obtain ⟨i, hi⟩ := List.mem_iff_getElem?.mp hweekday
  obtain ⟨⟨hfirst, -⟩, -⟩ := CivilDate.isValid_iff.mp t.inCalendar
  have hdate : (⟨t.date.year.toNat, t.date.month - 1 + 1, t.date.day⟩ : CivilDate) = t.date := by
    rw [Int.toNat_of_nonneg hpos, Nat.sub_add_cancel hfirst]
  have hcomma (l : List Char) : Text.after? [',', ' '] (',' :: ' ' :: l) = some l :=
    Text.after?_eq_some_iff.mpr rfl
  have hmark (c : Char) (l : List Char) : Text.after? [c] (c :: l) = some l :=
    Text.after?_eq_some_iff.mpr rfl
  -- one step for each part; simplifying all of them at once visits the rest again for each
  simp only [List.append_assoc, List.cons_append]
  refine (bind_of_read (name?_append (by decide) (by decide) hi _)).trans ?_
  refine (bind_of_read (hcomma _)).trans ?_
  refine (bind_of_read (digits?_append hday _)).trans ?_
  refine (bind_of_read (hmark _ _)).trans ?_
  refine (bind_of_read (name?_append (by decide) (by decide) hmonth _)).trans ?_
  refine (bind_of_read (hmark _ _)).trans ?_
  refine (bind_of_read (year?_append hyear _)).trans ?_
  refine (bind_of_read (hmark _ _)).trans ?_
  refine (bind_of_read (digits?_append hhour _)).trans ?_
  refine (bind_of_read (hmark _ _)).trans ?_
  refine (bind_of_read (digits?_append hminute _)).trans ?_
  refine (bind_of_read (hmark _ _)).trans ?_
  refine (bind_of_read (digits?_append hsecond _)).trans ?_
  dsimp only
  rw [hdate, if_neg (by decide), t.inCalendar, CivilDate.toDays_eq_dayNumber t.inCalendar]
  have hhour := t.hour_lt
  have hminute := t.minute_lt
  have hsecond := t.second_le
  by_cases hleap : t.IsLeap
  · rw [if_pos hleap, if_pos (Or.inr (Or.inr (Or.inr (by rw [hleap]; decide))))]
    rfl
  · have hlt : t.second < 60 := Nat.lt_of_le_of_ne hsecond hleap
    rw [if_neg hleap, if_neg (by simp; omega)]
    rfl

/-- Without a sign in front all characters have to be digits. -/
theorem seconds?_of_head? (h : ∀ rest, cs ≠ '+' :: rest) : seconds? cs =
    if cs = [] ∨ !cs.all (·.isDigit) then none
    else if digitsValue cs < Nat.pow 2 64 then some (digitsValue cs) else none := by
  -- the hypothesis decides which alternative of the definition is taken
  simp only [seconds?]

/-- Seconds are understood exactly if they are a number of 64 bits. -/
theorem seconds?_of_isNumeral (hne : digits ≠ []) (h : IsNumeral digits.length n digits) :
    seconds? digits = if n < 2 ^ 64 then some n else none := by
  have hsign : ∀ rest, digits ≠ '+' :: rest := by
    rintro rest rfl
    exact absurd (h.isDigit _ List.mem_cons_self) (by decide)
  rw [seconds?_of_head? hsign, digitsValue_eq, h.value,
    if_neg (by simpa [hne] using h.isDigit)]
  rfl

/-- The names of the days begin with letters. -/
theorem exists_of_mem_weekdays {name : String} (h : name ∈ weekdays) :
    ∃ c letters, name.toList = c :: letters ∧ c ≠ '+' ∧ c.isDigit = false := by
  simp only [weekdays, List.mem_cons, List.not_mem_nil, or_false] at h
  rcases h with rfl | rfl | rfl | rfl | rfl | rfl | rfl <;>
    exact ⟨_, _, rfl, by decide, by decide⟩

/-- Digits are no time. -/
theorem httpDate?_of_isNumeral (h : IsNumeral width n digits) : httpDate? digits = none := by
  have hname : name? weekdays digits = none := by
    unfold name?
    rw [Option.map_eq_none_iff, List.findIdx?_eq_none_iff]
    intro name hname
    obtain ⟨c, letters, hletters, -, hc⟩ := exists_of_mem_weekdays hname
    refine decide_eq_false fun heq => ?_
    have hmem : c ∈ digits := by
      apply List.mem_of_mem_take
      rw [← heq, hletters]
      exact List.mem_cons_self
    exact absurd (h.isDigit c hmem) (by rw [hc]; exact Bool.false_ne_true)
  unfold httpDate?
  rw [hname]
  rfl

/-- A time is no number of seconds. -/
theorem seconds?_of_isHttpDate (h : IsHttpDate t cs) : seconds? cs = none := by
  obtain ⟨weekday, hweekday, month, -, day, year, hour, minute, second, rfl, -⟩ := h
  obtain ⟨c, letters, hletters, hplus, hc⟩ := exists_of_mem_weekdays hweekday
  simp only [hletters, List.cons_append]
  rw [seconds?_of_head? fun rest heq => hplus (List.cons.inj heq).1]
  exact if_pos (Or.inr (by simp [hc]))

/-- A digit is a visible character. -/
theorem toNat_of_isDigit {c : Char} (h : c.isDigit) : 0x20 < c.toNat ∧ c.toNat < 0x7F := by
  have hdigit : 48 ≤ c.toNat ∧ c.toNat ≤ 57 := by
    simpa [Char.isDigit, UInt32.le_iff_toNat_le] using h
  omega

/-- The names of days and months have visible characters. -/
theorem toNat_of_mem_name {name : String} (h : name ∈ weekdays ++ months) {c : Char}
    (hc : c ∈ name.toList) : 0x20 < c.toNat ∧ c.toNat < 0x7F := by
  have hall : (weekdays ++ months).all fun n =>
      n.toList.all fun c => 0x20 < c.toNat && c.toNat < 0x7F := by decide
  simpa using List.all_eq_true.mp (List.all_eq_true.mp hall name h) c hc

/-- What asks for a wait is plain text. -/
theorem isPlainValue_of_isWrittenAs {w : RequestedWait} (h : w.IsWrittenAs cs) :
    IsPlainValue cs := by
  cases h with
  | seconds hne h =>
    have hvisible : ∀ c ∈ cs, 0x20 < c.toNat ∧ c.toNat < 0x7F :=
      fun c hc => toNat_of_isDigit (h.isDigit c hc)
    refine ⟨hne, fun c hc => ⟨(hvisible c hc).1.le, (hvisible c hc).2⟩, fun hc => ?_, fun hc => ?_⟩
    · exact absurd (hvisible _ (List.mem_of_head? hc)).1 (by decide)
    · exact absurd (hvisible _ (List.mem_of_getLast? hc)).1 (by decide)
  | till h =>
    obtain ⟨weekday, hweekday, month, hmonth, day, year, hour, minute, second, rfl, -, hyear, hday,
      hhour, hminute, hsecond⟩ := h
    have hname := fun c => toNat_of_mem_name (c := c) (List.mem_append_left _ hweekday)
    have hname' := fun c => toNat_of_mem_name (c := c)
      (List.mem_append_right _ (List.mem_of_getElem? hmonth))
    have hdigit {width n : Nat} {digits : List Char} (h : IsNumeral width n digits) (c : Char)
        (hc : c ∈ digits) := toNat_of_isDigit (h.isDigit c hc)
    have hle {l : List Char} (h : ∀ c ∈ l, 0x20 < c.toNat ∧ c.toNat < 0x7F) :
        ∀ c ∈ l, IsPrintable c := fun c hc => ⟨(h c hc).1.le, (h c hc).2⟩
    refine ⟨by simp, ?_, ?_, ?_⟩
    · simp only [List.forall_mem_append, List.forall_mem_cons, and_assoc]
      exact ⟨hle hname, by decide, by decide, hle (hdigit hday), by decide, hle hname', by decide,
        hle (hdigit hyear), by decide, hle (hdigit hhour), by decide, hle (hdigit hminute),
        by decide, hle (hdigit hsecond), by decide, by decide, by decide, by decide, by simp⟩
    · obtain ⟨c, letters, hletters, -⟩ := exists_of_mem_weekdays hweekday
      rw [hletters]
      rintro heq
      obtain rfl : c = ' ' := by simpa using heq
      exact absurd (hname ' ' (by rw [hletters]; exact List.mem_cons_self)).1 (by decide)
    · rw [List.getLast?_append]
      simp

/-- A wait is understood exactly if it fits, as what is asked for. -/
theorem parse?_of_isWrittenAs {w : RequestedWait} (h : w.IsWrittenAs cs) (now : Int) :
    (w.Fits → parse? now (.ofList cs) = some (.ofNanoseconds (w.interval now))) ∧
      (¬w.Fits → parse? now (.ofList cs) = none) := by
  unfold parse?
  rw [String.toList_ofList, (isPlainValue_of_isWrittenAs h).trimChars_eq]
  dsimp only
  cases h with
  | seconds hne h =>
    rw [seconds?_of_isNumeral hne h]
    constructor
    · intro hfits
      rw [if_pos (show _ < 2 ^ 64 from hfits)]
      rfl
    · intro hlarge
      rw [if_neg (show ¬_ < 2 ^ 64 from hlarge), httpDate?_of_isNumeral h]
      rfl
  | till h =>
    rw [seconds?_of_isHttpDate h, httpDate?_of_isHttpDate h]
    constructor
    · intro hfits
      rw [if_neg hfits]
      rfl
    · intro hleap
      rw [if_pos (not_not.mp hleap)]
      rfl

end RetryAfter

end AcmeClient

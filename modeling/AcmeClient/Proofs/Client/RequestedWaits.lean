import AcmeClient.Proofs.Client.Waiting
import AcmeClient.Proofs.Text.Octets
import AcmeClient.Proofs.Time.RequestedWait
import AcmeClient.Proofs.Url.HostText

/-!
# Waiting as long as the server asks

A response asks for a wait by its first header of the name `Retry-After`, whatever blanks are around
the value. The wait is honoured exactly if it fits: it lasts as long as is asked for, up to the
longest duration, and a resource that is waited for is not polled again before. A wait that does not
fit is as good as none, and the next poll comes after the delay of the policy.
-/

namespace AcmeClient

namespace Utf8

/-- Text of ASCII is read back from its octets. -/
theorem decodeLossy_encode {s : String} (h : ∀ c ∈ s.toList, c.toNat < 0x80) :
    decodeLossy (encode s) = s := by
  have hchars : ∀ cs : List Char, (∀ c ∈ cs, c.toNat < 0x80) →
      decodeFrom none (cs.map fun c => UInt8.ofNat c.toNat) = cs := by
    intro cs hcs
    induction cs with
    | nil => rfl
    | cons c cs ih =>
      obtain ⟨hc, hcs⟩ := List.forall_mem_cons.mp hcs
      simp only [List.map_cons, decodeFrom, first_ofNat hc, ih hcs]
  unfold decodeLossy
  conv_lhs => rw [← String.ofList_toList (s := s), encode_ofList h, hchars _ h]
  exact String.ofList_toList

end Utf8

namespace Http

namespace Reply

/-- Whether a reply asks for a wait: by the first header of that name, where blanks may surround
the value. -/
def AsksFor (r : Reply) (w : RequestedWait) : Prop :=
  ∃ before name front text back after,
    r.headers = before ++ (name, front ++ Utf8.encode text ++ back) :: after ∧
    (∀ h ∈ before, h.1.map Char.toLower ≠ "retry-after") ∧
    name.map Char.toLower = "retry-after" ∧ w.IsWrittenAs text.toList ∧
    ∀ b ∈ front ++ back, b = 0x20 ∨ b = 0x09

variable {front back : Bytes} {text : String}

/-- A name in lowercase is found by its characters. -/
theorem map_toLower_eq {name lower : String} (h : name.toList.map Char.toLower = lower.toList) :
    name.map Char.toLower = lower := by
  apply String.toList_injective
  rw [String.toList_map, h]

/-- The octet of a printable character may stand in a header, and only that of the space is
padding. -/
theorem isVisible_octet {c : Char} (h : IsPrintable c) :
    isVisible (UInt8.ofNat c.toNat) = true ∧
      (isPadding (UInt8.ofNat c.toNat) = true → c = ' ') := by
  obtain ⟨hlow, hhigh⟩ := h
  have hnat : (UInt8.ofNat c.toNat).toNat = c.toNat := UInt8.toNat_ofNat_of_lt' (show _ < 256 by omega)
  constructor
  · simp [isVisible, UInt8.le_iff_toNat_le, UInt8.lt_iff_toNat_lt, hnat, hlow, hhigh]
  · intro hpadding
    have hblank : c.toNat = 0x20 ∨ c.toNat = 0x09 := by
      simpa [isPadding, ← UInt8.toNat_inj, hnat] using hpadding
    exact Char.toNat_inj.mp (hblank.resolve_right (by omega))

/-- Plain text has an octet for each character. -/
theorem encode_of_isPlainValue (h : IsPlainValue text.toList) :
    Utf8.encode text = text.toList.map fun c => UInt8.ofNat c.toNat := by
  conv_lhs => rw [← String.ofList_toList (s := text)]
  exact Utf8.encode_ofList fun c hc => (h.printable c hc).2.trans (by decide)

/-- The padding around plain text is taken off. -/
theorem unpadded_append (h : IsPlainValue text.toList)
    (hpadding : ∀ b ∈ front ++ back, b = 0x20 ∨ b = 0x09) :
    unpadded (front ++ Utf8.encode text ++ back) = Utf8.encode text := by
  have hpad : ∀ b ∈ front ++ back, isPadding b = true := by
    intro b hb
    rcases hpadding b hb with rfl | rfl <;> decide
  have hend : ∀ c ∈ text.toList, c ≠ ' ' → isPadding (UInt8.ofNat c.toNat) = false :=
    fun c hc hspace => Bool.eq_false_iff.mpr fun hb =>
      hspace ((isVisible_octet (h.printable c hc)).2 hb)
  have hhead : ∀ b ∈ (Utf8.encode text ++ back).head?, isPadding b = false := by
    intro b hb
    rw [encode_of_isPlainValue h, List.head?_append_of_ne_nil _ (by simpa using h.ne_nil),
      List.head?_map] at hb
    obtain ⟨c, hc, rfl⟩ := Option.map_eq_some_iff.mp hb
    exact hend c (List.mem_of_head? hc) fun heq => h.head (heq ▸ hc)
  have hlast : ∀ b ∈ (Utf8.encode text).reverse.head?, isPadding b = false := by
    intro b hb
    rw [List.head?_reverse, encode_of_isPlainValue h, List.getLast?_map] at hb
    obtain ⟨c, hc, rfl⟩ := Option.map_eq_some_iff.mp hb
    exact hend c (List.mem_of_getLast? hc) fun heq => h.last (heq ▸ hc)
  have hfront := (Text.span_append (fun b hb => hpad b (List.mem_append_left _ hb)) hhead).2
  have hback := (Text.span_append (l := back.reverse)
    (fun b hb => hpad b (List.mem_append_right _ (List.mem_reverse.mp hb))) hlast).2
  unfold unpadded
  rw [List.append_assoc, hfront, List.reverse_append, hback, List.reverse_reverse]

/-- What a reply asks for is what its header says. -/
theorem header?_of_asksFor {r : Reply} {w : RequestedWait} (h : r.AsksFor w) :
    ∃ text, w.IsWrittenAs text.toList ∧ r.header? "retry-after" = some text := by
  obtain ⟨before, name, front, text, back, after, hheaders, hbefore, hname, hwritten, hpadding⟩ := h
  have hplain := RetryAfter.isPlainValue_of_isWrittenAs hwritten
  have hlower : "retry-after".map Char.toLower = "retry-after" := map_toLower_eq (by rfl)
  have hfind : (r.headers.find? fun h => h.1.map Char.toLower = "retry-after".map Char.toLower) =
      some (name, front ++ Utf8.encode text ++ back) := by
    rw [List.find?_eq_some_iff_append]
    refine ⟨by simpa [hlower] using hname, before, after, hheaders, fun h hh => ?_⟩
    simpa [hlower] using hbefore h hh
  have hvisible : (Utf8.encode text).all isVisible = true := by
    rw [encode_of_isPlainValue hplain, List.all_map, List.all_eq_true]
    exact fun c hc => (isVisible_octet (hplain.printable c hc)).1
  refine ⟨text, hwritten, ?_⟩
  unfold header?
  rw [hfind]
  change (if (unpadded (front ++ Utf8.encode text ++ back)).all isVisible then
    some (Utf8.decodeLossy (unpadded (front ++ Utf8.encode text ++ back))) else none) = _
  rw [unpadded_append hplain hpadding, if_pos hvisible, Utf8.decodeLossy_encode]
  exact fun c hc => (hplain.printable c hc).2.trans (by decide)

end Reply

namespace Response

variable {r : Response} {w : RequestedWait}

/-- Whether the wait that is asked for is honoured at every time: there is a duration, and it is no
shorter than what is asked for, or than the longest one. -/
def Honours (r : Response) (w : RequestedWait) : Prop :=
  ∀ now : Int, ∃ d, r.retryAfter? now = some d ∧
    min (w.interval now) Duration.longest.nanoseconds ≤ d.nanoseconds

/-- Whether a response answers the poll of a resource. -/
def Answers {α : Type} (r : Response) (st : Session × Tracked α) : Prop :=
  ((Session.send st.2.location none st.2.owner.signer).run st.1).1 = .ok r

/-- The wait that is asked for is understood exactly if it fits, as what is asked for. -/
theorem retryAfter?_of_asksFor (h : r.reply.AsksFor w) (now : Int) :
    (w.Fits → r.retryAfter? now = some (.ofNanoseconds (w.interval now))) ∧
      (¬w.Fits → r.retryAfter? now = none) := by
  obtain ⟨text, htext, hheader⟩ := Reply.header?_of_asksFor h
  unfold retryAfter? header?
  rw [hheader, Option.bind_some, ← String.ofList_toList (s := text)]
  exact RetryAfter.parse?_of_isWrittenAs htext now

/-- A wait is understood only if it fits, and as what is asked for. -/
theorem of_retryAfter?_eq_some (h : r.reply.AsksFor w) {now : Int} {d : Duration}
    (hd : r.retryAfter? now = some d) : w.Fits ∧ d = .ofNanoseconds (w.interval now) := by
  obtain ⟨hunderstood, hignored⟩ := retryAfter?_of_asksFor h now
  have hfits : w.Fits := by
    by_contra hlarge
    rw [hignored hlarge] at hd
    cases hd
  rw [hunderstood hfits] at hd
  exact ⟨hfits, (Option.some.inj hd).symm⟩

/-- Waits are honoured exactly if they fit. -/
theorem honours_iff (h : r.reply.AsksFor w) : r.Honours w ↔ w.Fits := by
  constructor
  · intro hhonours
    obtain ⟨d, hd, -⟩ := hhonours 0
    exact (of_retryAfter?_eq_some h hd).1
  · intro hfits now
    exact ⟨_, (retryAfter?_of_asksFor h now).1 hfits,
      (Duration.nanoseconds_ofNanoseconds_eq_min _).ge⟩

end Response

end Http

namespace Tracked

open Http

variable {α : Type} [Described α] [Staged α] {policy : RetryPolicy} {st : Session × Tracked α}
  {j : Nat} {r : Response}

/-- A poll that succeeds asks for the wait that its answer asks for. -/
theorem asked_of_answers (h : r.Answers ((pollable α).reached policy st j))
    (hok : (((pollable α).course policy st).update j).isOk) :
    ((pollable α).course policy st).asked j =
      r.retryAfter? ((pollable α).polled policy st j).1.clock := by
  rw [Pollable.asked_course]
  unfold Pollable.polled
  unfold Pollable.course at hok
  dsimp only at hok
  generalize (pollable α).reached policy st j = before at h hok ⊢
  obtain ⟨s, t⟩ := before
  have hrun : (pollable α).update.run (s, t) = _ := run_update t s
  unfold Response.Answers at h
  rcases hsend : (Session.send t.location none t.owner.signer).run s with ⟨answer, u⟩
  rw [hsend] at h hrun
  obtain rfl : answer = .ok r := h
  rw [hrun] at hok ⊢
  unfold conclude settle at hok ⊢
  dsimp only at hok ⊢
  cases hanswer : t.answered r with
  | error e =>
    rw [hanswer] at hok
    cases hok
  | ok t' => rfl

/-- The next poll comes after the wait. -/
theorem clock_reached_succ (j : Nat) : ((pollable α).reached policy st (j + 1)).1.clock =
    ((pollable α).polled policy st j).1.clock +
      (((pollable α).course policy st).wait policy j).nanoseconds := by
  rw [Pollable.reached_succ]
  rfl

/-- The next poll comes after what is asked for, if it fits, and else after the delay. -/
theorem clock_reached_succ_of_answers {w : RequestedWait} (hasks : r.reply.AsksFor w)
    (h : r.Answers ((pollable α).reached policy st j))
    (hok : (((pollable α).course policy st).update j).isOk) :
    let answered := ((pollable α).polled policy st j).1.clock
    (w.Fits → answered + min (w.interval answered) Duration.longest.nanoseconds ≤
      ((pollable α).reached policy st (j + 1)).1.clock) ∧
    (¬w.Fits → ((pollable α).reached policy st (j + 1)).1.clock =
      answered + (Course.delay policy j).nanoseconds) := by
  intro answered
  obtain ⟨hfits, hlarge⟩ := Response.retryAfter?_of_asksFor hasks answered
  rw [clock_reached_succ, Course.wait, asked_of_answers h hok]
  constructor
  · intro hw
    rw [hfits hw, Option.getD_some, Duration.nanoseconds_ofNanoseconds_eq_min]
  · intro hw
    rw [hlarge hw, Option.getD_none]

end Tracked

namespace Http.Response

open Tracked

/-- Whether a response has the wait that it asks for honoured exactly if it fits: by the duration
that it yields, which grows with what is asked for, and between the polls of any resource. -/
structure HonoursIfFits (r : Response) (w : RequestedWait) : Prop where
  honours_iff : r.Honours w ↔ w.Fits
  duration : w.Fits → ∀ now, r.retryAfter? now = some (.ofNanoseconds (w.interval now))
  ignored : ¬w.Fits → ∀ now, r.retryAfter? now = none
  monotone : ∀ (r' : Response) (w' : RequestedWait), r'.reply.AsksFor w' → w.AtMost w' →
    ∀ now d d', r.retryAfter? now = some d → r'.retryAfter? now = some d' →
      d.nanoseconds ≤ d'.nanoseconds
  /-- The time of the poll that it answers and the time of the next poll. -/
  polls : ∀ {α : Type} [Described α] [Staged α] (done : Status → Bool) (policy : RetryPolicy)
    (s : Session) (t : Tracked α), let c := (pollable α).course policy (s, t)
    ∃ k result, c.Reaches done policy s.clock k ∧ c.Ends done policy s.clock k result ∧
      (await done policy).run (s, t) = (result, (pollable α).polled policy (s, t) k) ∧
      ∀ j < k, r.Answers ((pollable α).reached policy (s, t) j) →
        let answered := ((pollable α).polled policy (s, t) j).1.clock
        let next := ((pollable α).reached policy (s, t) (j + 1)).1.clock
        (w.Fits → answered + min (w.interval answered) Duration.longest.nanoseconds ≤ next) ∧
        (¬w.Fits → next = answered + (Course.delay policy j).nanoseconds)

variable {r : Response} {w : RequestedWait}

/-- A wait that a response asks for is honoured exactly if it fits. -/
theorem honoursIfFits (h : r.reply.AsksFor w) : r.HonoursIfFits w where
  honours_iff := honours_iff h
  duration hfits now := (retryAfter?_of_asksFor h now).1 hfits
  ignored hlarge now := (retryAfter?_of_asksFor h now).2 hlarge
  monotone r' w' h' hle now d d' hd hd' := by
    obtain ⟨-, rfl⟩ := of_retryAfter?_eq_some h hd
    obtain ⟨-, rfl⟩ := of_retryAfter?_eq_some h' hd'
    rw [Duration.nanoseconds_ofNanoseconds_eq_min, Duration.nanoseconds_ofNanoseconds_eq_min]
    exact min_le_min_right _ (hle.interval_le now)
  polls done policy s t := by
    obtain ⟨k, result, hreaches, hends, hrun⟩ := run_await done policy s t
    refine ⟨k, result, hreaches, hends, hrun, fun j hj hanswers => ?_⟩
    obtain ⟨status, asked, hupdate, -, -⟩ := Course.goes_on_of_not_ends (hreaches j hj)
    exact clock_reached_succ_of_answers h hanswers (by rw [hupdate]; rfl)

/-- A response that asks for two minutes. -/
theorem honoursIfFits_two_minutes :
    (⟨"https://localhost/order",
        { status := ⟨200⟩, headers := [("Retry-After", Utf8.encode " 120 ")] }⟩ :
      Response).HonoursIfFits (.seconds 120) := by
  have hname : "Retry-After".map Char.toLower = "retry-after" := Reply.map_toLower_eq (by rfl)
  have hwritten : RequestedWait.IsWrittenAs (.seconds 120) "120".toList :=
    .seconds (by decide) ⟨by rfl, by simp, by rfl⟩
  exact honoursIfFits
    ⟨[], "Retry-After", [0x20], "120", [0x20], [], by rfl, by simp, hname, hwritten, by simp⟩

/-- A response that asks for more seconds than a number of 64 bits can tell asks for no wait. -/
theorem not_honours_of_large :
    let r : Response := ⟨"https://localhost/order",
      { status := ⟨200⟩, headers := [("Retry-After", Utf8.encode "18446744073709551616")] }⟩
    r.reply.AsksFor (.seconds 18446744073709551616) ∧
      ¬r.Honours (.seconds 18446744073709551616) ∧ ∀ now, r.retryAfter? now = none := by
  intro r
  have hname : "Retry-After".map Char.toLower = "retry-after" := Reply.map_toLower_eq (by rfl)
  have hwritten : RequestedWait.IsWrittenAs (.seconds 18446744073709551616)
      "18446744073709551616".toList := .seconds (by decide) ⟨by rfl, by simp, by rfl⟩
  have hasks : r.reply.AsksFor (.seconds 18446744073709551616) :=
    ⟨[], "Retry-After", [], "18446744073709551616", [], [], by rfl, by simp, hname, hwritten,
      by simp⟩
  have hlarge : ¬(RequestedWait.seconds 18446744073709551616).Fits := Nat.lt_irrefl _
  exact ⟨hasks, fun h => hlarge ((honours_iff hasks).mp h),
    fun now => (retryAfter?_of_asksFor hasks now).2 hlarge⟩

end Http.Response

end AcmeClient

import AcmeClient.Proofs.Pem.Chains
import Mathlib.Data.List.Induction

/-!
# Documents in PEM form

A document is a single block. Its lines have a fixed width, except for the last, and at most one
line ends behind it. Every other block, and more than one block in a row, is refused: the symbols of
a document would have the end of a line among them, or a hyphen.
-/

namespace AcmeClient.Pem

/-- Whether characters are symbols for a line. -/
def AreSymbols (cs : List Char) : Prop := cs ≠ [] ∧ ∀ c ∈ cs, Base64.IsPadded c

/-- Whether characters are the end of a line or nothing. -/
def IsEnd (cs : List Char) : Prop := cs = [] ∨ ∃ e : LineEnd, cs = e.chars

/-- Whether a block is a document: its lines are full, except for the last, and at most one line
ends behind it. -/
structure Block.IsDocument (b : Block) : Prop where
  full : ∀ l ∈ b.lines.dropLast, l.1.length = lineWidth
  last : ∀ l ∈ b.lines.getLast?, l.1.length ≤ lineWidth
  closing : IsEnd (b.closing.flatMap LineEnd.chars)

variable {cs rest label last body found : List Char} {init : List (List Char × LineEnd)} {b : Block}

section Ends

/-- The ends of lines are characters at which lines end. -/
theorem LineEnd.eq_of_mem_chars (e : LineEnd) {c : Char} (h : c ∈ e.chars) :
    c = '\n' ∨ c = '\r' := by
  cases e with
  | lf => exact .inl (List.mem_singleton.mp h)
  | cr => exact .inr (List.mem_singleton.mp h)
  | crlf =>
    rcases List.mem_cons.mp h with h | h
    · exact .inr h
    · exact .inl (List.mem_singleton.mp h)

/-- A line ends with some character. -/
theorem LineEnd.chars_ne_nil (e : LineEnd) : e.chars ≠ [] := by
  cases e <;> exact List.cons_ne_nil _ _

/-- The end of a line is passed, as a whole. -/
theorem afterLineEnd?_chars (e : LineEnd) (h : ∀ c ∈ rest.head?, c ≠ '\n') :
    afterLineEnd? (e.chars ++ rest) = some rest := by
  cases e with
  | lf => rfl
  | crlf => rfl
  | cr =>
    cases rest with
    | nil => rfl
    | cons c rest =>
      have hc : c ≠ '\n' := h c rfl
      simp only [LineEnd.chars, List.singleton_append]
      unfold afterLineEnd?
      split
      · rename_i heq
        exact absurd (List.cons.inj (List.cons.inj heq).2).1 hc
      · rename_i heq
        rw [(List.cons.inj heq).2]
      · rename_i heq
        exact absurd (List.cons.inj heq).1 (by decide)
      · rename_i hcr _
        exact absurd rfl (hcr _)

/-- What is passed is the end of a line. -/
theorem exists_of_afterLineEnd? (h : afterLineEnd? cs = some rest) :
    ∃ e : LineEnd, cs = e.chars ++ rest := by
  unfold afterLineEnd? at h
  split at h
  · cases h
    exact ⟨.crlf, rfl⟩
  · cases h
    exact ⟨.cr, rfl⟩
  · cases h
    exact ⟨.lf, rfl⟩
  · cases h

/-- No line ends where a symbol stands. -/
theorem afterLineEnd?_of_head? (hne : cs ≠ []) (h : ∀ c ∈ cs.head?, Base64.IsPadded c) :
    afterLineEnd? cs = none := by
  cases cs with
  | nil => exact absurd rfl hne
  | cons c cs =>
    refine Option.eq_none_iff_forall_ne_some.mpr fun rest hrest => ?_
    obtain ⟨e, he⟩ := exists_of_afterLineEnd? hrest
    have hc := ne_of_isPadded (h c rfl)
    cases hchars : e.chars with
    | nil => exact e.chars_ne_nil hchars
    | cons d ds =>
      rw [hchars] at he
      obtain ⟨rfl, -⟩ := List.cons.inj he
      rcases e.eq_of_mem_chars (hchars ▸ List.mem_cons_self) with rfl | rfl
      · exact hc.1 rfl
      · exact hc.2 rfl

/-- A text, in reverse, without the end of its last line. -/
def withoutEnd : List Char → List Char
  | '\n' :: '\r' :: rest => rest
  | '\n' :: rest => rest
  | '\r' :: rest => rest
  | rest => rest

/-- The end of a line is cut off, as a whole. -/
theorem withoutEnd_chars (e : LineEnd) (h : ∀ c ∈ rest.head?, c ≠ '\r') :
    withoutEnd (e.chars.reverse ++ rest) = rest := by
  cases e with
  | cr => rfl
  | crlf => rfl
  | lf =>
    cases rest with
    | nil => rfl
    | cons c rest =>
      have hc : c ≠ '\r' := h c rfl
      simp only [LineEnd.chars, List.reverse_singleton, List.singleton_append]
      unfold withoutEnd
      split
      · rename_i heq
        exact absurd (List.cons.inj (List.cons.inj heq).2).1 hc
      · rename_i heq
        rw [(List.cons.inj heq).2]
      · rename_i heq
        exact absurd (List.cons.inj heq).1 (by decide)
      · rename_i hlf _
        exact absurd rfl (hlf _)

/-- Nothing is cut off where no line ends. -/
theorem withoutEnd_of_head? (h : ∀ c ∈ cs.head?, c ≠ '\n' ∧ c ≠ '\r') : withoutEnd cs = cs := by
  unfold withoutEnd
  split
  · exact absurd rfl (h _ rfl).1
  · exact absurd rfl (h _ rfl).1
  · exact absurd rfl (h _ rfl).2
  · rfl

/-- Nothing or the end of a line is cut off. -/
theorem exists_isEnd (cs : List Char) :
    ∃ cut, IsEnd cut ∧ cs.reverse = (withoutEnd cs).reverse ++ cut := by
  unfold withoutEnd
  split
  · exact ⟨_, .inr ⟨.crlf, rfl⟩, by simp [LineEnd.chars]⟩
  · exact ⟨_, .inr ⟨.lf, rfl⟩, by simp [LineEnd.chars]⟩
  · exact ⟨_, .inr ⟨.cr, rfl⟩, by simp [LineEnd.chars]⟩
  · exact ⟨[], .inl rfl, (List.append_nil _).symm⟩

/-- The end of a line has two characters at most. -/
theorem IsEnd.length_le (h : IsEnd cs) : cs.length ≤ 2 := by
  rcases h with rfl | ⟨e, rfl⟩
  · decide
  · cases e <;> decide

/-- Lines end at the characters of their ends. -/
theorem IsEnd.eq_of_mem (h : IsEnd cs) {c : Char} (hc : c ∈ cs) : c = '\n' ∨ c = '\r' := by
  rcases h with rfl | ⟨e, rfl⟩
  · cases hc
  · exact e.eq_of_mem_chars hc

end Ends

section Boundaries

/-- A label has no hyphen. -/
theorem not_mem_of_isLabel (h : isLabel label = true) : '-' ∉ label := by
  intro hmem
  obtain ⟨word, hword, hc⟩ := Text.exists_mem_splitOn ' ' hmem (by decide)
  have hchars := List.all_eq_true.mp h word hword
  rw [Bool.and_eq_true, List.all_eq_true] at hchars
  exact absurd (hchars.2 '-' hc) (by decide)

/-- The first boundary is found at the beginning. -/
theorem afterPreamble?_beginMark (rest : List Char) :
    afterPreamble? true (beginMark ++ rest) = some rest := by
  have hmark : Text.after? beginMark (beginMark ++ rest) = some rest :=
    Text.after?_eq_some_iff.mpr rfl
  have hcons : beginMark ++ rest = '-' :: ("----BEGIN ".toList ++ rest) := rfl
  rw [hcons, afterPreamble?, if_pos rfl, ← hcons, hmark]

/-- The label ends at the hyphens, and the line behind them. -/
theorem label?_dashes (h : isLabel label = true) (e : LineEnd)
    (hrest : ∀ c ∈ rest.head?, c ≠ '\n') :
    label? (label ++ (dashes ++ (e.chars ++ rest))) = some (label, rest) := by
  have htake : (label ++ (dashes ++ (e.chars ++ rest))).takeWhile (· ≠ '-') = label :=
    (Text.span_append (fun c hc => decide_eq_true (ne_of_mem_of_not_mem hc (not_mem_of_isLabel h)))
      (by simp [dashes_eq])).1
  have hdashes : Text.after? dashes (dashes ++ (e.chars ++ rest)) = some (e.chars ++ rest) :=
    Text.after?_eq_some_iff.mpr rfl
  unfold label?
  simp only [htake, List.drop_left, hdashes, Option.bind_eq_bind, Option.bind_some,
    afterLineEnd?_chars e hrest, h, if_true]

/-- What stands before the last boundary makes up the text with it and the line ends around it. -/
theorem exists_of_beforeEnd? (h : beforeEnd? label cs = some body) : ∃ opening closing,
    cs = body ++ (opening ++ (lastBoundary label ++ closing)) ∧ IsEnd opening ∧ IsEnd closing := by
  obtain ⟨rest, hafter, hbody⟩ := Option.bind_eq_some_iff.mp h
  have hrest : withoutEnd cs.reverse = (lastBoundary label).reverse ++ rest :=
    Text.after?_eq_some_iff.mp hafter
  have hwithout : withoutEnd rest = body.reverse := by
    split at hbody
    · cases hbody
      exact (List.reverse_reverse _).symm
    · rename_i hlf
      cases hbody
      rw [withoutEnd, List.reverse_reverse]
      exact hlf
    · cases hbody
      exact (List.reverse_reverse _).symm
    · cases hbody
  obtain ⟨closing, hclosing, hcs⟩ := exists_isEnd cs.reverse
  obtain ⟨opening, hopening, hreverse⟩ := exists_isEnd rest
  refine ⟨opening, closing, ?_, hopening, hclosing⟩
  rw [hwithout, List.reverse_reverse] at hreverse
  rw [hrest, List.reverse_append, List.reverse_reverse, List.reverse_reverse, hreverse] at hcs
  rw [hcs]
  simp only [List.append_assoc]

/-- The text before the last boundary does not have the line ends around it. -/
theorem beforeEnd?_block {closing : List Char} (e : LineEnd) (hbody : ∀ c ∈ body.getLast?, c ≠ '\r')
    (hclosing : IsEnd closing) :
    beforeEnd? label (body ++ (e.chars ++ (lastBoundary label ++ closing))) = some body := by
  have hstart : ∀ c ∈ ((lastBoundary label).reverse ++ (e.chars.reverse ++ body.reverse)).head?,
      c ≠ '\n' ∧ c ≠ '\r' := by
    simp [lastBoundary, dashes_eq]
  have hcut : withoutEnd (body ++ (e.chars ++ (lastBoundary label ++ closing))).reverse =
      (lastBoundary label).reverse ++ (e.chars.reverse ++ body.reverse) := by
    simp only [List.reverse_append, List.append_assoc]
    rcases hclosing with rfl | ⟨e', rfl⟩
    · exact withoutEnd_of_head? hstart
    · exact withoutEnd_chars e' fun c hc => (hstart c hc).2
  refine Option.bind_eq_some_iff.mpr ⟨_, Text.after?_eq_some_iff.mpr hcut, ?_⟩
  cases e with
  | cr => exact congrArg some (List.reverse_reverse body)
  | crlf => exact congrArg some (List.reverse_reverse body)
  | lf =>
    rw [← List.head?_reverse] at hbody
    simp only [LineEnd.chars, List.reverse_singleton, List.singleton_append]
    split
    · rename_i heq
      rw [(List.cons.inj heq).2] at hbody
      exact absurd rfl (hbody _ rfl)
    · rename_i heq
      rw [← (List.cons.inj heq).2, List.reverse_reverse]
    · rename_i heq
      exact absurd (List.cons.inj heq).1 (by decide)
    · rename_i hlf _
      exact absurd rfl (hlf _)

/-- The ends of lines behind the last boundary are those at the end of the text. -/
theorem eq_of_append_lastBoundary {front front' ends ends' : List Char}
    (h : front ++ (lastBoundary label ++ ends) = front' ++ (lastBoundary label ++ ends'))
    (hends : ∀ c ∈ ends, c = '\n' ∨ c = '\r') (hends' : ∀ c ∈ ends', c = '\n' ∨ c = '\r') :
    ends = ends' := by
  have hcut {front ends : List Char} (hends : ∀ c ∈ ends, c = '\n' ∨ c = '\r') :
      (front ++ (lastBoundary label ++ ends)).reverse.takeWhile (fun c => c = '\n' ∨ c = '\r') =
        ends.reverse := by
    rw [List.reverse_append, List.reverse_append, List.append_assoc]
    refine (Text.span_append (fun c hc => decide_eq_true (hends c (List.mem_reverse.mp hc))) ?_).1
    simp [lastBoundary, dashes_eq]
  rw [← List.reverse_inj, ← hcut hends, h, hcut hends']

end Boundaries

section Width

/-- A text of lines and a last one begins with a symbol. -/
theorem isPadded_of_head? (hinit : ∀ l ∈ init, AreSymbols l.1) (hlast : AreSymbols last) :
    ∀ c ∈ (linesText init ++ last).head?, Base64.IsPadded c := by
  intro c hc
  cases init with
  | nil => exact hlast.2 c (List.mem_of_mem_head? hc)
  | cons l init =>
    obtain ⟨hne, hall⟩ := hinit l List.mem_cons_self
    cases hl : l.1 with
    | nil => exact absurd hl hne
    | cons d line =>
      rw [linesText, List.flatMap_cons, hl] at hc
      cases hc
      exact hall _ (hl ▸ List.mem_cons_self)

/-- Lines are not more than their characters. -/
theorem length_le_linesText (lines : List (List Char × LineEnd)) :
    lines.length ≤ (linesText lines).length := by
  induction lines with
  | nil => exact Nat.le_refl 0
  | cons l lines ih =>
    have hend := List.length_pos_iff.mpr l.2.chars_ne_nil
    rw [linesText] at ih ⊢
    rw [List.flatMap_cons, List.length_append, List.length_append, List.length_cons]
    omega

/-- Full lines and a last one are read as their symbols. -/
theorem symbolsFrom_linesText {n : Nat} (hinit : ∀ l ∈ init, AreSymbols l.1)
    (hlast : AreSymbols last) (hfull : ∀ l ∈ init, l.1.length = lineWidth)
    (hwidth : last.length ≤ lineWidth) (hn : init.length < n) :
    symbolsFrom n (linesText init ++ last) = some (init.flatMap (·.1) ++ last) := by
  induction init generalizing n with
  | nil =>
    obtain ⟨n, rfl⟩ : ∃ m, n = m + 1 := ⟨n - 1, by simp at hn; omega⟩
    exact if_pos hwidth
  | cons l init ih =>
    obtain ⟨n, rfl⟩ : ∃ m, n = m + 1 := ⟨n - 1, by simp at hn; omega⟩
    obtain ⟨hl, hinit⟩ := List.forall_mem_cons.mp hinit
    obtain ⟨hfirst, hfull⟩ := List.forall_mem_cons.mp hfull
    have htext : linesText (l :: init) ++ last =
        l.1 ++ (l.2.chars ++ (linesText init ++ last)) := by
      simp [linesText]
    have hlong : ¬(l.1 ++ (l.2.chars ++ (linesText init ++ last))).length ≤ lineWidth := by
      have hend := List.length_pos_iff.mpr l.2.chars_ne_nil
      simp only [List.length_append]
      omega
    have hne : ¬linesText init ++ last = [] := by simp [hlast.1]
    rw [htext, symbolsFrom, if_neg hlong, ← hfirst, List.drop_left, List.take_left,
      afterLineEnd?_chars l.2 fun c hc => (ne_of_isPadded (isPadded_of_head? hinit hlast c hc)).1]
    simp only [Option.bind_eq_bind, Option.bind_some, if_neg hne]
    rw [ih hinit hfull (Nat.lt_of_succ_lt_succ hn)]
    simp

/-- Symbols are those of a last line, or of a full one and of the lines that follow. -/
theorem symbolsFrom_succ_eq_some {n : Nat} (h : symbolsFrom (n + 1) cs = some found) :
    (cs.length ≤ lineWidth ∧ found = cs) ∨
      ∃ rest more, lineWidth < cs.length ∧ afterLineEnd? (cs.drop lineWidth) = some rest ∧
        symbolsFrom n rest = some more ∧ found = cs.take lineWidth ++ more := by
  rw [symbolsFrom] at h
  split at h
  · rename_i hshort
    exact .inl ⟨hshort, (Option.some.inj h).symm⟩
  · rename_i hlong
    obtain ⟨rest, hrest, h⟩ := Option.bind_eq_some_iff.mp h
    by_cases hempty : rest = []
    · rw [if_pos hempty] at h
      cases h
    · rw [if_neg hempty] at h
      obtain ⟨more, hmore, hfound⟩ := Option.map_eq_some_iff.mp h
      exact .inr ⟨rest, more, Nat.lt_of_not_le hlong, hrest, hmore, hfound.symm⟩

/-- Lines that are read as symbols are full, except for the last. -/
theorem length_of_symbolsFrom {n : Nat} (hinit : ∀ l ∈ init, AreSymbols l.1)
    (hlast : AreSymbols last) (h : symbolsFrom n (linesText init ++ last) = some found)
    (hfound : ∀ c ∈ found, Base64.IsPadded c) :
    (∀ l ∈ init, l.1.length = lineWidth) ∧ last.length ≤ lineWidth := by
  have hnoEnd {line : List Char} (hline : AreSymbols line) (hlong : lineWidth < line.length)
      (more : List Char) : afterLineEnd? ((line ++ more).drop lineWidth) = none := by
    have hdrop : line.drop lineWidth ≠ [] := by simpa using hlong
    rw [List.drop_append_of_le_length (Nat.le_of_lt hlong)]
    refine afterLineEnd?_of_head? (by simp [hdrop]) fun c hc => hline.2 c ?_
    rw [List.head?_append_of_ne_nil _ hdrop] at hc
    exact List.mem_of_mem_drop (List.mem_of_mem_head? hc)
  induction init generalizing n found with
  | nil =>
    cases n with
    | zero => cases h
    | succ n =>
      refine ⟨by simp, ?_⟩
      rcases symbolsFrom_succ_eq_some h with ⟨hshort, -⟩ | ⟨rest, more, hlong, hrest, -⟩
      · exact hshort
      · have hnone := hnoEnd hlast hlong []
        rw [List.append_nil] at hnone
        cases hnone.symm.trans hrest
  | cons l init ih =>
    cases n with
    | zero => cases h
    | succ n =>
      obtain ⟨hl, hinit⟩ := List.forall_mem_cons.mp hinit
      have htext : linesText (l :: init) ++ last =
          l.1 ++ (l.2.chars ++ (linesText init ++ last)) := by
        simp [linesText]
      obtain ⟨d, ds, hd⟩ := List.exists_cons_of_ne_nil l.2.chars_ne_nil
      have hbreak : d ∉ found := by
        intro hmem
        have hpadded := ne_of_isPadded (hfound d hmem)
        exact (l.2.eq_of_mem_chars (hd ▸ List.mem_cons_self)).elim hpadded.1 hpadded.2
      rw [htext] at h
      rcases symbolsFrom_succ_eq_some h with ⟨-, rfl⟩ | ⟨rest, more, hlong, hrest, hmore, rfl⟩
      · refine absurd (List.mem_append_right _ (List.mem_append_left _ ?_)) hbreak
        exact hd ▸ List.mem_cons_self
      · rcases Nat.lt_trichotomy l.1.length lineWidth with hlt | heq | hgt
        · -- the end of the line is among the symbols
          obtain ⟨k, hk⟩ : ∃ k, lineWidth - l.1.length = k + 1 :=
            ⟨lineWidth - l.1.length - 1, by omega⟩
          refine absurd (List.mem_append_left _ ?_) hbreak
          rw [List.take_append, hk, hd, List.cons_append, List.take_succ_cons]
          exact List.mem_append_right _ List.mem_cons_self
        · rw [← heq, List.drop_left, afterLineEnd?_chars l.2 fun c hc =>
            (ne_of_isPadded (isPadded_of_head? hinit hlast c hc)).1] at hrest
          cases hrest
          obtain ⟨hfull, hwidth⟩ := ih hinit hmore fun c hc =>
            hfound c (List.mem_append_right _ hc)
          exact ⟨List.forall_mem_cons.mpr ⟨heq, hfull⟩, hwidth⟩
        · cases (hnoEnd hl hgt _).symm.trans hrest

/-- Nothing but ends of lines is left out of the symbols. -/
theorem mem_of_symbolsFrom {n : Nat} {c : Char} (hc : c ∈ cs) (hend : c ≠ '\n' ∧ c ≠ '\r')
    (h : symbolsFrom n cs = some found) : c ∈ found := by
  induction n generalizing cs found with
  | zero => cases h
  | succ n ih =>
    rcases symbolsFrom_succ_eq_some h with ⟨-, rfl⟩ | ⟨rest, more, -, hrest, hmore, rfl⟩
    · exact hc
    · obtain ⟨e, he⟩ := exists_of_afterLineEnd? hrest
      rw [← List.take_append_drop lineWidth cs, he] at hc
      rcases List.mem_append.mp hc with hc | hc
      · exact List.mem_append_left _ hc
      · rcases List.mem_append.mp hc with hc | hc
        · rcases e.eq_of_mem_chars hc with hc | hc
          · exact absurd hc hend.1
          · exact absurd hc hend.2
        · exact List.mem_append_right _ (ih hc hmore)

end Width

section Decoding

variable {octets : Bytes} {p : String × Bytes}

/-- A text that begins with the first boundary is a document if its symbols can be decoded. -/
theorem decode?_eq_some_iff (hlabel : isLabel label = true) (e : LineEnd)
    (hrest : ∀ c ∈ rest.head?, c ≠ '\n') :
    decode? (.ofList (beginMark ++ (label ++ (dashes ++ (e.chars ++ rest))))) = some p ↔
      ∃ body found octets, beforeEnd? label rest = some body ∧
        symbolsFrom (body.length + 1) body = some found ∧ found ≠ [] ∧
        Base64.decodePadded? found = some octets ∧ (String.ofList label, octets) = p := by
  unfold decode?
  rw [String.toList_ofList, afterPreamble?_beginMark]
  simp only [Option.bind_eq_bind, Option.bind_some, label?_dashes hlabel e hrest,
    Option.bind_eq_some_iff]
  refine exists_congr fun body => ?_
  constructor
  · rintro ⟨hbody, found, hfound, hp⟩
    by_cases hempty : found = []
    · rw [if_pos hempty] at hp
      cases hp
    · rw [if_neg hempty] at hp
      obtain ⟨octets, hoctets, hp⟩ := Option.bind_eq_some_iff.mp hp
      exact ⟨found, octets, hbody, hfound, hempty, hoctets, Option.some.inj hp⟩
  · rintro ⟨found, octets, hbody, hfound, hempty, hoctets, hp⟩
    refine ⟨hbody, found, hfound, ?_⟩
    rw [if_neg hempty, hoctets, Option.bind_some, hp]

/-- The lines of a block are some and a last one. -/
theorem Block.exists_lines_eq (b : Block) : ∃ init last, b.lines = init ++ [last] := by
  rcases List.eq_nil_or_concat' b.lines with hnil | h
  · have hsymbols := b.symbols_eq
    rw [hnil] at hsymbols
    exact absurd (Base64.encodePadded_eq_nil_iff.mp hsymbols.symm) b.octets_ne
  · exact h

/-- The lines of a block have symbols. -/
theorem Block.areSymbols (b : Block) : ∀ l ∈ b.lines, AreSymbols l.1 :=
  fun l hl => ⟨b.symbols_ne l hl, b.isPadded_of_mem hl⟩

/-- A block goes on with a symbol after the first boundary. -/
theorem Block.ne_of_head?_rest (b : Block) (label more : List Char) :
    ∀ c ∈ (b.rest label ++ more).head?, c ≠ '\n' := by
  obtain ⟨init, l, hlines⟩ := b.exists_lines_eq
  have hall := b.areSymbols
  rw [hlines] at hall
  obtain ⟨hinit, hlast⟩ := List.forall_mem_append.mp hall
  have hl := hlast l (List.mem_singleton_self l)
  have hne : linesText init ++ l.1 ≠ [] := by simp [hl.1]
  have htext : b.rest label ++ more = (linesText init ++ l.1) ++
      (l.2.chars ++ (lastBoundary label ++ (b.closing.flatMap LineEnd.chars ++ more))) := by
    simp [Block.rest, hlines, linesText]
  intro c hc
  rw [htext, List.head?_append_of_ne_nil _ hne] at hc
  exact (ne_of_isPadded (isPadded_of_head? hinit hl c hc)).1

/-- What stands before the last boundary of a block, if at most one line ends behind it. -/
theorem Block.beforeEnd?_rest (h : IsEnd (b.closing.flatMap LineEnd.chars))
    {init : List (List Char × LineEnd)} {l : List Char × LineEnd} (hlines : b.lines = init ++ [l]) :
    beforeEnd? label (b.rest label) = some (linesText init ++ l.1) := by
  have hl : AreSymbols l.1 := b.areSymbols l (by simp [hlines])
  have htext : b.rest label = (linesText init ++ l.1) ++
      (l.2.chars ++ (lastBoundary label ++ b.closing.flatMap LineEnd.chars)) := by
    simp [Block.rest, hlines, linesText]
  rw [htext]
  refine beforeEnd?_block l.2 (fun c hc => ?_) h
  rw [List.getLast?_append_of_ne_nil _ hl.1] at hc
  exact (ne_of_isPadded (hl.2 c (List.mem_of_getLast? hc))).2

/-- A document is read as its octets. -/
theorem Block.IsDocument.decode?_eq (h : b.IsDocument) (hlabel : isLabel label = true) :
    decode? (.ofList (b.chars label)) = some (.ofList label, b.octets) := by
  obtain ⟨init, l, hlines⟩ := b.exists_lines_eq
  have hall := b.areSymbols
  have hfull := h.full
  have hlast := h.last
  rw [hlines] at hall
  rw [hlines, List.dropLast_concat] at hfull
  rw [hlines, List.getLast?_concat] at hlast
  obtain ⟨hinit, hl⟩ := List.forall_mem_append.mp hall
  have hsymbols : init.flatMap (·.1) ++ l.1 = Base64.encodePadded b.octets := by
    rw [← b.symbols_eq, hlines]
    simp
  refine (decode?_eq_some_iff hlabel b.opening ?_).mpr ⟨_, _, b.octets,
    Block.beforeEnd?_rest h.closing hlines, symbolsFrom_linesText hinit
      (hl l (List.mem_singleton_self l)) hfull (hlast l rfl) ?_, ?_, ?_, rfl⟩
  · have hhead := b.ne_of_head?_rest label []
    rwa [List.append_nil] at hhead
  · have hlines := length_le_linesText init
    rw [List.length_append]
    omega
  · rw [hsymbols]
    exact fun hnil => b.octets_ne (Base64.encodePadded_eq_nil_iff.mp hnil)
  · rw [hsymbols]
    exact Base64.decodePadded?_encodePadded b.octets

/-- A block that is read is a document. -/
theorem Block.isDocument_of_decode? (hlabel : isLabel label = true)
    (h : decode? (.ofList (b.chars label)) = some p) : b.IsDocument := by
  have hhead := b.ne_of_head?_rest label []
  rw [List.append_nil] at hhead
  obtain ⟨body, found, octets, hbody, hfound, -, hoctets, -⟩ :=
    (decode?_eq_some_iff hlabel b.opening hhead).mp h
  obtain ⟨init, l, hlines⟩ := b.exists_lines_eq
  have hclosing : IsEnd (b.closing.flatMap LineEnd.chars) := by
    obtain ⟨opening, closing, hrest, -, hend⟩ := exists_of_beforeEnd? hbody
    rw [Block.rest, ← List.append_assoc body] at hrest
    rwa [eq_of_append_lastBoundary hrest (fun c hc => ?_) fun c => hend.eq_of_mem]
    obtain ⟨e, -, hc⟩ := List.mem_flatMap.mp hc
    exact e.eq_of_mem_chars hc
  rw [Block.beforeEnd?_rest hclosing hlines] at hbody
  cases hbody
  have hall := b.areSymbols
  rw [hlines] at hall
  obtain ⟨hinit, hl⟩ := List.forall_mem_append.mp hall
  obtain ⟨hfull, hlast⟩ := length_of_symbolsFrom hinit (hl l (List.mem_singleton_self l)) hfound
    (Base64.isPadded_of_decodePadded? hoctets)
  refine ⟨?_, ?_, hclosing⟩
  · rwa [hlines, List.dropLast_concat]
  · rw [hlines, List.getLast?_concat]
    rintro _ ⟨⟩
    exact hlast

/-- A hyphen stays before the last boundary if there is enough text behind it. -/
theorem mem_of_beforeEnd? {front back : List Char}
    (h : beforeEnd? label (front ++ '-' :: back) = some body)
    (hback : (lastBoundary label).length + 4 ≤ back.length) : '-' ∈ body := by
  obtain ⟨opening, closing, htext, hopening, hclosing⟩ := exists_of_beforeEnd? h
  have hopening := hopening.length_le
  have hclosing := hclosing.length_le
  have hlength (more : List Char)
      (h : opening ++ (lastBoundary label ++ closing) = more ++ '-' :: back) : False := by
    have hlengths := congrArg List.length h
    simp only [List.length_append, List.length_cons] at hlengths
    omega
  rcases List.append_eq_append_iff.mp htext.symm with ⟨more, -, htail⟩ | ⟨more, hbody, htail⟩
  · exact (hlength _ htail).elim
  · cases more with
    | nil => exact (hlength [] htail.symm).elim
    | cons c more =>
      obtain ⟨rfl, -⟩ := List.cons.inj htail
      rw [hbody]
      exact List.mem_append_right _ List.mem_cons_self

/-- Blocks in a row are no document. -/
theorem decode?_row (hlabel : isLabel label = true) (b b' : Block) (more : List Char) :
    decode? (.ofList (b.chars label ++ (b'.chars label ++ more))) = none := by
  refine Option.eq_none_iff_forall_ne_some.mpr fun p hp => ?_
  have htext : b.chars label ++ (b'.chars label ++ more) = beginMark ++ (label ++ (dashes ++
      (b.opening.chars ++ (b.rest label ++ (b'.chars label ++ more))))) := by
    simp only [Block.chars, List.append_assoc]
  rw [htext] at hp
  obtain ⟨body, found, octets, hbody, hfound, -, hoctets, -⟩ :=
    (decode?_eq_some_iff hlabel b.opening (b.ne_of_head?_rest _ _)).mp hp
  have hmark : endMark = '-' :: "----END ".toList := rfl
  have hhyphen : '-' ∈ body := by
    simp only [Block.rest, lastBoundary, hmark, List.append_assoc, List.cons_append] at hbody
    refine mem_of_beforeEnd? hbody ?_
    have hend : "----END ".toList.length = 8 := rfl
    have hbegin : beginMark.length = 11 := rfl
    simp only [lastBoundary, hmark, Block.chars, List.length_append, List.length_cons, hend, hbegin]
    omega
  have hpadded := Base64.isPadded_of_decodePadded? hoctets '-'
    (mem_of_symbolsFrom hhyphen (by decide) hfound)
  exact hpadded.isGraphic.2 rfl

end Decoding

section Encoding

variable {octets : Bytes}

/-- Symbols in full lines and a last one; the first argument bounds their number. -/
def fullLines : Nat → List Char → List (List Char × LineEnd)
  | 0, _ => []
  | lines + 1, cs =>
    if cs = [] then [] else (cs.take lineWidth, .lf) :: fullLines lines (cs.drop lineWidth)

/-- The text of full lines is that of a document. -/
theorem linesText_fullLines (n : Nat) (cs : List Char) :
    linesText (fullLines n cs) = linesFrom n cs := by
  induction n generalizing cs with
  | zero => rfl
  | succ n ih =>
    rw [fullLines, linesFrom]
    split
    · rfl
    · rw [← ih, linesText, List.flatMap_cons]
      simp [LineEnd.chars, linesText]

/-- No line is empty, and none is too wide. -/
theorem length_of_mem_fullLines {n : Nat} {l : List Char × LineEnd} (h : l ∈ fullLines n cs) :
    l.1 ≠ [] ∧ l.1.length ≤ lineWidth := by
  induction n generalizing cs with
  | zero => cases h
  | succ n ih =>
    rw [fullLines] at h
    split at h
    · cases h
    · rename_i hne
      rcases List.mem_cons.mp h with rfl | h
      · exact ⟨by simp [hne, lineWidth], List.length_take_le _ _⟩
      · exact ih h

/-- The symbols stay as they are, if there are enough lines for them. -/
theorem flatMap_fullLines {n : Nat} (h : cs.length ≤ n) : (fullLines n cs).flatMap (·.1) = cs := by
  induction n generalizing cs with
  | zero => exact (List.length_eq_zero_iff.mp (Nat.le_zero.mp h)).symm
  | succ n ih =>
    rw [fullLines]
    split
    · rename_i hnil
      exact hnil.symm
    · rename_i hne
      have hpos := List.length_pos_iff.mpr hne
      have hdrop : (cs.drop lineWidth).length ≤ n := by
        rw [List.length_drop, lineWidth]
        omega
      rw [List.flatMap_cons, ih hdrop, List.take_append_drop]

/-- Only the last line may be shorter. -/
theorem length_of_mem_dropLast {n : Nat} {l : List Char × LineEnd}
    (h : l ∈ (fullLines n cs).dropLast) : l.1.length = lineWidth := by
  induction n generalizing cs with
  | zero => cases h
  | succ n ih =>
    rw [fullLines] at h
    split at h
    · cases h
    · cases hmore : fullLines n (cs.drop lineWidth) with
      | nil =>
        rw [hmore] at h
        cases h
      | cons next more =>
        rw [hmore, List.dropLast_cons_cons] at h
        rcases List.mem_cons.mp h with rfl | h
        · have hne : cs.drop lineWidth ≠ [] := by
            intro hnil
            rw [hnil] at hmore
            cases n <;> cases hmore
          have hlong := List.length_pos_iff.mpr hne
          rw [List.length_drop] at hlong
          exact List.length_take_of_le (by omega)
        · exact ih (hmore ▸ h)

/-- The block that is written for octets. -/
def Block.ofOctets (octets : Bytes) (h : octets ≠ []) : Block where
  octets
  opening := .lf
  lines := fullLines ((Base64.encodePadded octets).length + 1) (Base64.encodePadded octets)
  closing := [.lf]
  octets_ne := h
  symbols_ne := fun _ hl => (length_of_mem_fullLines hl).1
  symbols_eq := flatMap_fullLines (Nat.le_succ _)

/-- What is written for octets are the characters of a block. -/
theorem encode_eq (label : String) (h : octets ≠ []) :
    encode label octets = .ofList ((Block.ofOctets octets h).chars label.toList) := by
  have htext := linesText_fullLines ((Base64.encodePadded octets).length + 1)
    (Base64.encodePadded octets)
  rw [encode, Block.chars, Block.rest]
  change String.ofList _ =
    String.ofList (_ ++ (_ ++ (_ ++ (['\n'] ++ (linesText (fullLines _ _) ++ _)))))
  rw [htext]
  simp [lastBoundary, Block.ofOctets, LineEnd.chars]

/-- What is written for octets is a document. -/
theorem Block.isDocument_ofOctets (h : octets ≠ []) : (Block.ofOctets octets h).IsDocument where
  full := fun _ => length_of_mem_dropLast
  last := fun _ hl => (length_of_mem_fullLines (List.mem_of_getLast? hl)).2
  closing := .inr ⟨.lf, rfl⟩

/-- What is written for octets is read back. -/
theorem decode?_encode {label : String} (hlabel : isLabel label.toList = true) (h : octets ≠ []) :
    decode? (encode label octets) = some (label, octets) := by
  rw [encode_eq label h, (Block.isDocument_ofOctets h).decode?_eq hlabel, String.ofList_toList]
  rfl

/-- What is written for the octets of a certificate has a single section. -/
theorem certificates?_encode (h : octets ≠ []) :
    certificates? (encode "CERTIFICATE" octets) = some [octets] := by
  have hchain : chainChars [Block.ofOctets octets h] =
      (Block.ofOctets octets h).chars "CERTIFICATE".toList := List.flatMap_singleton _ _
  rw [encode_eq "CERTIFICATE" h, ← hchain]
  exact certificates?_chainChars nofun

end Encoding

end AcmeClient.Pem

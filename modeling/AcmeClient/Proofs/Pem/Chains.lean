import AcmeClient.Pem.Sections
import AcmeClient.Proofs.Encoding.Base64
import AcmeClient.Proofs.Text.Octets

/-!
# Chains in PEM form

A block holds octets as symbols in lines of any width, between two boundaries. Blocks in a row are a
chain. The sections that are found in a chain of certificates are its blocks, in their order.
-/

namespace AcmeClient.Pem

/-- What ends a line. -/
inductive LineEnd where
  | lf
  | cr
  | crlf
  deriving DecidableEq, Repr

/-- The characters at the end of a line. -/
def LineEnd.chars : LineEnd → List Char
  | lf => ['\n']
  | cr => ['\r']
  | crlf => ['\r', '\n']

/-- The characters of lines with their ends. -/
def linesText (lines : List (List Char × LineEnd)) : List Char :=
  lines.flatMap fun l => l.1 ++ l.2.chars

/-- Octets as symbols in lines. -/
structure Block where
  octets : Bytes
  /-- The end of the first boundary. -/
  opening : LineEnd
  lines : List (List Char × LineEnd)
  /-- The ends of lines behind the last boundary. -/
  closing : List LineEnd
  octets_ne : octets ≠ []
  symbols_ne : ∀ l ∈ lines, l.1 ≠ []
  symbols_eq : lines.flatMap (·.1) = Base64.encodePadded octets

/-- The last boundary. -/
def lastBoundary (label : List Char) : List Char := endMark ++ label ++ dashes

/-- Boundaries end in five dashes. -/
theorem dashes_eq : dashes = List.replicate 5 '-' := rfl

/-- What follows the first boundary of a block. -/
def Block.rest (label : List Char) (b : Block) : List Char :=
  linesText b.lines ++ (lastBoundary label ++ b.closing.flatMap LineEnd.chars)

/-- The characters of a block with a label. -/
def Block.chars (label : List Char) (b : Block) : List Char :=
  beginMark ++ (label ++ (dashes ++ (b.opening.chars ++ b.rest label)))

/-- The characters of blocks of certificates in a row. -/
def chainChars (blocks : List Block) : List Char :=
  blocks.flatMap (Block.chars "CERTIFICATE".toList)

/-- Whether blocks are a chain: there are some, and a line ends between each two. -/
def IsChain (blocks : List Block) : Prop :=
  blocks ≠ [] ∧ ∀ b ∈ blocks.dropLast, b.closing ≠ []

variable {line rest : List Char} {symbols : List Char} {more : List (List Char)} {b : Block}

/-- Whether no line ends among characters. -/
def IsLine (cs : List Char) : Prop := ∀ c ∈ cs, c ≠ '\n' ∧ c ≠ '\r'

instance (cs : List Char) : Decidable (IsLine cs) := List.decidableBAll _ cs

/-- No line ends at a symbol. -/
theorem ne_of_isPadded {c : Char} (h : Base64.IsPadded c) : c ≠ '\n' ∧ c ≠ '\r' := by
  constructor
  · rintro rfl
    exact absurd h.isGraphic.1 (by decide)
  · rintro rfl
    exact absurd h.isGraphic.1 (by decide)

/-- Symbols in base 64 are a line. -/
theorem isLine_of_isPadded (h : ∀ c ∈ line, Base64.IsPadded c) : IsLine line :=
  fun c hc => ne_of_isPadded (h c hc)

/-- The lines of a block have symbols in base 64 only. -/
theorem Block.isPadded_of_mem (b : Block) {l : List Char × LineEnd} (hl : l ∈ b.lines) :
    ∀ c ∈ l.1, Base64.IsPadded c := by
  intro c hc
  have hmem : c ∈ Base64.encodePadded b.octets := by
    rw [← b.symbols_eq]
    exact List.mem_flatMap.mpr ⟨l, hl, hc⟩
  exact Base64.isPadded_of_mem_encodePadded c hmem

section Sections

/-- A line at the end of a text is its last line. -/
theorem textLines_of_isLine (h : IsLine line) : textLines line = [line] := by
  have hsame : line.map (fun c => if c = '\r' then '\n' else c) = line :=
    (List.map_congr_left fun c hc => if_neg (h c hc).2).trans (List.map_id line)
  rw [textLines, hsame, Text.splitOn_of_not_mem _ fun hmem => (h '\n' hmem).1 rfl]

/-- Lines are cut at either of the characters that end them. -/
theorem textLines_append_cons (cs : List Char) {c : Char} (hc : c = '\n' ∨ c = '\r') :
    textLines (cs ++ c :: rest) = textLines cs ++ textLines rest := by
  have hbreak : (if c = '\r' then '\n' else c) = '\n' := by
    rcases hc with rfl | rfl <;> rfl
  rw [textLines, List.map_append, List.map_cons, hbreak, Text.splitOn_append_cons]
  rfl

/-- Empty lines do not matter. -/
theorem certificatesFrom_nil_cons (current : Option Section) :
    certificatesFrom current ([] :: more) = certificatesFrom current more := by
  cases current with
  | none => rfl
  | some s =>
    have hend : (Text.after? (endMark ++ s.label ++ dashes) []).isSome = false := rfl
    rw [certificatesFrom]
    change (if (Text.after? (endMark ++ s.label ++ dashes) []).isSome = true then _ else _) = _
    rw [hend, if_neg Bool.false_ne_true, show trimmedLine [] = [] from rfl, List.append_nil]

/-- What is done with a line does not depend on how the line ends. -/
theorem certificatesFrom_ended {current next : Option Section}
    (f : Option (List Bytes) → Option (List Bytes)) (h : IsLine line)
    (hstep : ∀ more, certificatesFrom current (line :: more) = f (certificatesFrom next more))
    (e : LineEnd) (rest : List Char) :
    certificatesFrom current (textLines (line ++ (e.chars ++ rest))) =
      f (certificatesFrom next (textLines rest)) := by
  have hone := textLines_of_isLine h
  cases e with
  | lf =>
    rw [LineEnd.chars, List.singleton_append, textLines_append_cons _ (.inl rfl), hone]
    exact hstep _
  | cr =>
    rw [LineEnd.chars, List.singleton_append, textLines_append_cons _ (.inr rfl), hone]
    exact hstep _
  | crlf =>
    have hblank : textLines ('\n' :: rest) = [] :: textLines rest :=
      textLines_append_cons [] (.inl rfl)
    rw [LineEnd.chars, List.cons_append, List.singleton_append,
      textLines_append_cons _ (.inr rfl), hone, hblank]
    exact (hstep _).trans (congrArg f (certificatesFrom_nil_cons next))

/-- After a line a text goes on with another section. -/
theorem certificatesFrom_line {current next : Option Section} (h : IsLine line)
    (hstep : ∀ more, certificatesFrom current (line :: more) = certificatesFrom next more)
    (e : LineEnd) (rest : List Char) :
    certificatesFrom current (textLines (line ++ (e.chars ++ rest))) =
      certificatesFrom next (textLines rest) :=
  certificatesFrom_ended id h hstep e rest

/-- The section of a certificate that has begun. -/
def certificateSection (symbols : List Char) : Section := ⟨"CERTIFICATE".toList, symbols⟩

/-- The first boundary begins a section. -/
theorem certificatesFrom_begin (more : List (List Char)) :
    certificatesFrom none ((beginMark ++ ("CERTIFICATE".toList ++ dashes)) :: more) =
      certificatesFrom (some (certificateSection [])) more := by
  rfl

/-- Symbols go on with a section. -/
theorem certificatesFrom_symbols (h : ∀ c ∈ line, Base64.IsPadded c) (more : List (List Char)) :
    certificatesFrom (some (certificateSection symbols)) (line :: more) =
      certificatesFrom (some (certificateSection (symbols ++ line))) more := by
  have hstart {mark : List Char} : Text.after? ('-' :: mark) line = none := by
    cases line with
    | nil => rfl
    | cons c line =>
      exact if_neg fun hc => (h c List.mem_cons_self).isGraphic.2 hc.symm
  have htrimmed : trimmedLine line = line := by
    refine Text.dropEndWhile_of_getLast? fun c hc => ?_
    have hgraphic := (h c (List.mem_of_getLast? hc)).isGraphic.1
    refine decide_eq_false ?_
    rintro (rfl | rfl | rfl) <;> exact absurd hgraphic (by decide)
  have hfirst : Text.after? beginMark line = none := hstart
  have hlast : Text.after? (endMark ++ (certificateSection symbols).label ++ dashes) line = none :=
    hstart
  simp only [certificatesFrom, hfirst, hlast, htrimmed, Option.isSome_none, Bool.false_eq_true,
    if_false]
  rfl

/-- The last boundary ends a section. -/
theorem certificatesFrom_end (octets : Bytes) (more : List (List Char)) :
    certificatesFrom (some (certificateSection (Base64.encodePadded octets)))
        (lastBoundary "CERTIFICATE".toList :: more) =
      (octets :: ·) <$> certificatesFrom none more := by
  have hkept : (Base64.encodePadded octets).filter (!isSkipped ·) = Base64.encodePadded octets := by
    refine List.filter_eq_self.mpr fun c hc => ?_
    have hgraphic := (Base64.isPadded_of_mem_encodePadded c hc).isGraphic.1
    have hskipped : isSkipped c = false := by
      refine Bool.eq_false_iff.mpr fun hskipped => ?_
      simp only [isSkipped, Bool.or_eq_true, decide_eq_true_eq, or_assoc] at hskipped
      rcases hskipped with rfl | rfl | rfl | rfl | rfl | rfl <;> exact absurd hgraphic (by decide)
    rw [hskipped]
    rfl
  have hdecoded : Base64.decodeRelaxed?
      ((certificateSection (Base64.encodePadded octets)).symbols.filter (!isSkipped ·)) =
        some octets :=
    (congrArg Base64.decodeRelaxed? hkept).trans (Base64.decodeRelaxed?_encodePadded octets)
  have hfirst : Text.after? beginMark (lastBoundary "CERTIFICATE".toList) = none := rfl
  have hlast : Text.after? (endMark ++ "CERTIFICATE".toList ++ dashes)
      (lastBoundary "CERTIFICATE".toList) = some [] :=
    Text.after?_eq_some_iff.mpr (List.append_nil _).symm
  have hlabel : (certificateSection (Base64.encodePadded octets)).label = "CERTIFICATE".toList := rfl
  have hknown : knownLabels.contains (.ofList "CERTIFICATE".toList) = true := by decide
  simp only [certificatesFrom, hfirst, hlast, hdecoded, hlabel, hknown, Option.isSome_some, if_true]

/-- The lines of symbols go on with a section one after the other. -/
theorem certificatesFrom_linesText {lines : List (List Char × LineEnd)}
    (h : ∀ l ∈ lines, ∀ c ∈ l.1, Base64.IsPadded c) :
    certificatesFrom (some (certificateSection symbols)) (textLines (linesText lines ++ rest)) =
      certificatesFrom (some (certificateSection (symbols ++ lines.flatMap (·.1))))
        (textLines rest) := by
  induction lines generalizing symbols with
  | nil => rw [List.flatMap_nil, List.append_nil]; rfl
  | cons l lines ih =>
    obtain ⟨hl, hlines⟩ := List.forall_mem_cons.mp h
    rw [linesText, List.flatMap_cons, List.append_assoc, List.append_assoc,
      certificatesFrom_line (isLine_of_isPadded hl) (certificatesFrom_symbols hl) l.2]
    refine (ih hlines).trans ?_
    rw [List.flatMap_cons, List.append_assoc]

/-- The ends of lines between sections do not matter. -/
theorem certificatesFrom_ends (ends : List LineEnd) :
    certificatesFrom none (textLines (ends.flatMap LineEnd.chars ++ rest)) =
      certificatesFrom none (textLines rest) := by
  induction ends with
  | nil => rfl
  | cons e ends ih =>
    rw [List.flatMap_cons, List.append_assoc]
    have hblank : IsLine [] := nofun
    exact (certificatesFrom_line hblank (fun _ => certificatesFrom_nil_cons none) e _).trans ih

/-- A block of a certificate is found as a section, if a line ends behind it or nothing follows. -/
theorem certificatesFrom_block (b : Block) (h : b.closing = [] → rest = []) :
    certificatesFrom none (textLines (b.chars "CERTIFICATE".toList ++ rest)) =
      (b.octets :: ·) <$> certificatesFrom none (textLines rest) := by
  have hbegin : IsLine (beginMark ++ ("CERTIFICATE".toList ++ dashes)) := by decide
  have hlast : IsLine (lastBoundary "CERTIFICATE".toList) := by decide
  have hopened := certificatesFrom_line hbegin certificatesFrom_begin b.opening
    (linesText b.lines ++ (lastBoundary "CERTIFICATE".toList ++
      (b.closing.flatMap LineEnd.chars ++ rest)))
  rw [certificatesFrom_linesText fun l => b.isPadded_of_mem, List.nil_append, b.symbols_eq]
    at hopened
  simp only [Block.chars, Block.rest, List.append_assoc] at hopened ⊢
  rw [hopened]
  cases hclosing : b.closing with
  | nil =>
    rw [h hclosing, List.flatMap_nil, List.append_nil, List.append_nil, textLines_of_isLine hlast]
    exact certificatesFrom_end b.octets []
  | cons e ends =>
    rw [List.flatMap_cons, List.append_assoc]
    refine (certificatesFrom_ended _ hlast (certificatesFrom_end b.octets) e _).trans ?_
    rw [certificatesFrom_ends]

/-- The certificates in a chain are the octets of its blocks. -/
theorem certificates?_chainChars {blocks : List Block}
    (h : ∀ b ∈ blocks.dropLast, b.closing ≠ []) :
    certificates? (.ofList (chainChars blocks)) = some (blocks.map (·.octets)) := by
  rw [certificates?, String.toList_ofList]
  induction blocks with
  | nil => rfl
  | cons b blocks ih =>
    have hrest : certificatesFrom none (textLines (chainChars blocks)) =
        some (blocks.map (·.octets)) := by
      refine ih fun b' hb' => h b' ?_
      cases blocks with
      | nil => cases hb'
      | cons next blocks => exact List.mem_cons_of_mem b hb'
    have hlast : b.closing = [] → chainChars blocks = [] := by
      intro hclosing
      cases blocks with
      | nil => rfl
      | cons next blocks => exact absurd hclosing (h b List.mem_cons_self)
    rw [chainChars, List.flatMap_cons]
    refine (certificatesFrom_block b hlast).trans ?_
    rw [hrest]
    rfl

/-- The certificates in the octets of a text of ASCII are those in the text. -/
theorem certificatesIn?_encode {text : String} (h : ∀ c ∈ text.toList, c.toNat < 0x80) :
    certificatesIn? (Utf8.encode text) = certificates? text := by
  rw [certificatesIn?, Utf8.map_ofUInt8_encode h, certificates?]

/-- Whether characters are in ASCII can be computed. -/
theorem areAscii_of_all (chars : List Char) (h : chars.all (·.toNat < 0x80) = true) :
    ∀ c ∈ chars, c.toNat < 0x80 := fun c hc =>
  of_decide_eq_true (List.all_eq_true.mp h c hc)

/-- The characters at the end of a line are in ASCII. -/
theorem LineEnd.isAscii (e : LineEnd) : ∀ c ∈ e.chars, c.toNat < 0x80 := by
  cases e <;> simp [LineEnd.chars]

/-- The characters of a block of a certificate are in ASCII. -/
theorem Block.isAscii (b : Block) : ∀ c ∈ b.chars "CERTIFICATE".toList, c.toNat < 0x80 := by
  have hbegin := areAscii_of_all (beginMark ++ ("CERTIFICATE".toList ++ dashes)) (by decide)
  have hlast := areAscii_of_all (lastBoundary "CERTIFICATE".toList) (by decide)
  have hends : ∀ c ∈ b.closing.flatMap LineEnd.chars, c.toNat < 0x80 := by
    intro c hc
    obtain ⟨e, _, hc⟩ := List.mem_flatMap.mp hc
    exact e.isAscii c hc
  have hlines : ∀ c ∈ linesText b.lines, c.toNat < 0x80 := by
    intro c hc
    obtain ⟨l, hl, hc⟩ := List.mem_flatMap.mp hc
    rcases List.mem_append.mp hc with hc | hc
    · exact (b.isPadded_of_mem hl c hc).isAscii
    · exact l.2.isAscii c hc
  have hsplit : b.chars "CERTIFICATE".toList = beginMark ++ ("CERTIFICATE".toList ++ dashes) ++
      (b.opening.chars ++ b.rest "CERTIFICATE".toList) := by
    simp only [chars, List.append_assoc]
  rw [hsplit, rest]
  exact List.forall_mem_append.mpr ⟨hbegin, List.forall_mem_append.mpr ⟨b.opening.isAscii,
    List.forall_mem_append.mpr ⟨hlines, List.forall_mem_append.mpr ⟨hlast, hends⟩⟩⟩⟩

/-- The certificates in the octets of a chain are the octets of its blocks. -/
theorem certificatesIn?_chainChars {blocks : List Block}
    (h : ∀ b ∈ blocks.dropLast, b.closing ≠ []) :
    certificatesIn? (Utf8.encode (.ofList (chainChars blocks))) =
      some (blocks.map (·.octets)) := by
  rw [certificatesIn?_encode, certificates?_chainChars h]
  intro c hc
  rw [String.toList_ofList] at hc
  obtain ⟨b, _, hc⟩ := List.mem_flatMap.mp hc
  exact b.isAscii c hc

end Sections

end AcmeClient.Pem

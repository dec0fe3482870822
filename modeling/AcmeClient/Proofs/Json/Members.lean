import AcmeClient.Json.Codec
import AcmeClient.Proofs.Json.Text

/-!
# Members of objects

The text of an object is read member by member, each of which changes a state. What a member does
may depend on its key and its value, but not on what comes after them, as long as that cannot
belong to the value.
-/

namespace AcmeClient.Json

open Reader

/-- Whether octets cannot belong to a value that comes before them: they are none, or they start
with what separates or closes values. -/
def Ends (rest : Bytes) : Prop :=
  ∀ b ∈ rest.head?, b = octet ',' ∨ b = octet ']' ∨ b = octet '\x7d'

/-- The end of a text belongs to no value. -/
theorem ends_nil : Ends [] := by simp [Ends]

/-- A comma belongs to no value. -/
theorem ends_comma (rest : Bytes) : Ends (octet ',' :: rest) := by simp [Ends]

/-- A closing bracket belongs to no value before it. -/
theorem ends_bracket (rest : Bytes) : Ends (octet ']' :: rest) := by simp [Ends]

/-- A closing brace belongs to no value before it. -/
theorem ends_brace (rest : Bytes) : Ends (octet '\x7d' :: rest) := by simp [Ends]

/-- A text that is read to its end stands for what is read. -/
theorem decode_of_read {c : Codec α} {b : Bytes} {v : α}
    (h : c.read nestingLimit b = .ok (v, [])) : c.decode b = .ok v := by
  unfold Codec.decode runAll
  rw [h]
  rfl

/-- What comes after the opening quote of a member. -/
def afterQuote (m : String × Bytes) : Bytes :=
  (Utf8.encode m.1).flatMap escapeOctet ++ octet '"' :: octet ':' :: m.2

/-- The text of an object starts with a brace. -/
theorem writeObject_append (l : List (String × Bytes)) (rest : Bytes) :
    writeObject l ++ rest = octet '\x7b' :: (writeObject l ++ rest).tail := rfl

/-- Pieces after the first one follow commas. -/
theorem commaSeparated_cons (b : Bytes) (l : List Bytes) :
    commaSeparated (b :: l) = b ++ l.flatMap (octet ',' :: ·) := by
  induction l generalizing b with
  | nil => simp [commaSeparated]
  | cons c l ih =>
    rw [commaSeparated, ih, List.flatMap_cons, List.cons_append]
    exact List.cons_ne_nil c l

/-- The first member of an object comes after the brace, and the others after commas. -/
theorem writeObject_cons (m : String × Bytes) (l : List (String × Bytes)) (rest : Bytes) :
    writeObject (m :: l) ++ rest = octet '\x7b' :: octet '"' :: (afterQuote m ++
      (l.flatMap (fun m => octet ',' :: octet '"' :: afterQuote m) ++ octet '\x7d' :: rest)) := by
  have hobject : writeObject (m :: l) = octet '\x7b' ::
      commaSeparated ((m :: l).map fun m => octet '"' :: afterQuote m) ++ [octet '\x7d'] :=
    congrArg (fun pieces => octet '\x7b' :: commaSeparated pieces ++ [octet '\x7d'])
      (List.map_congr_left fun m _ => writeText_append m.1 _)
  rw [hobject, List.map_cons, commaSeparated_cons, List.flatMap_map]
  simp only [List.cons_append, List.append_assoc, List.nil_append]

/-- The first member is found after the opening brace. -/
theorem nextKey_quote (rest : Bytes) : nextKey true (octet '"' :: rest) = .ok (true, rest) := by
  unfold nextKey
  rw [bind_of_eq_ok (peek_cons (by decide) _)]
  rfl

/-- Any other member is found after a comma. -/
theorem nextKey_comma (rest : Bytes) :
    nextKey false (octet ',' :: octet '"' :: rest) = .ok (true, rest) := by
  unfold nextKey
  rw [bind_of_eq_ok (peek_cons (by decide) _)]
  dsimp only
  rw [if_neg (by decide), if_neg (by decide), if_pos rfl, bind_of_eq_ok (advance_cons _ _),
    bind_of_eq_ok (peek_cons (by decide) _)]
  rfl

/-- No member is found at the closing brace. -/
theorem nextKey_end (isFirst : Bool) (rest : Bytes) :
    nextKey isFirst (octet '\x7d' :: rest) = .ok (false, rest) := by
  unfold nextKey
  rw [bind_of_eq_ok (peek_cons (by decide) _)]
  rfl

/-- A key is read after its opening quote. -/
theorem text_afterQuote (m : String × Bytes) (rest : Bytes) :
    text (afterQuote m ++ rest) = .ok (m.1, octet ':' :: (m.2 ++ rest)) := by
  rw [afterQuote, List.append_assoc]
  exact text_flatMap m.1 _

/-- The colon after a key is passed. -/
theorem colon_cons (rest : Bytes) : colon (octet ':' :: rest) = .ok ((), rest) := by
  unfold colon
  rw [bind_of_eq_ok (peek_cons (by decide) _)]
  rfl

section Members

variable {member : σ → Reader σ} {steps : Nat} {state state' : σ} {s t u : Bytes} {isFirst : Bool}

/-- A member that is found is read, and the next ones after it. -/
theorem membersFrom_of_key (hkey : nextKey isFirst s = .ok (true, t))
    (hmember : member state t = .ok (state', u)) :
    membersFrom member (steps + 1) isFirst state s = membersFrom member steps false state' u := by
  rw [membersFrom, bind_of_eq_ok hkey]
  change (member state >>= fun state => membersFrom member steps false state) t = _
  rw [bind_of_eq_ok hmember]

/-- Nothing more is read if no member is found. -/
theorem membersFrom_of_end (hkey : nextKey isFirst s = .ok (false, t)) :
    membersFrom member (steps + 1) isFirst state s = .ok (state, t) := by
  rw [membersFrom, bind_of_eq_ok hkey]
  rfl

/-- There are no more members than octets. -/
theorem members_eq (member : σ → Reader σ) (state : σ) (s : Bytes) :
    Reader.members member state s = membersFrom member (s.length + 1) true state s := by
  unfold Reader.members
  rw [bind_of_eq_ok (show (get : Reader Bytes) s = .ok (s, s) from rfl)]

/-- Whether reading members one after another leads from one state to another. -/
inductive Folds (member : σ → Reader σ) : List (String × Bytes) → σ → σ → Prop
  | nil {state : σ} : Folds member [] state state
  | cons {m : String × Bytes} {l : List (String × Bytes)} {state between state' : σ}
    (head : ∀ rest, Ends rest → member state (afterQuote m ++ rest) = .ok (between, rest))
    (tail : Folds member l between state') : Folds member (m :: l) state state'

variable {l : List (String × Bytes)}

/-- What comes after a member cannot belong to its value. -/
theorem ends_members (l : List (String × Bytes)) (rest : Bytes) :
    Ends (l.flatMap (fun m => octet ',' :: octet '"' :: afterQuote m) ++ octet '\x7d' :: rest) := by
  cases l with
  | nil => exact ends_brace rest
  | cons m l =>
    rw [List.flatMap_cons, List.append_assoc, List.cons_append]
    exact ends_comma _

/-- The members after the first one are read. -/
theorem membersFrom_flatMap (h : Folds member l state state') (rest : Bytes) {steps : Nat}
    (hsteps : l.length < steps) :
    membersFrom member steps false state
        (l.flatMap (fun m => octet ',' :: octet '"' :: afterQuote m) ++ octet '\x7d' :: rest) =
      .ok (state', rest) := by
  induction h generalizing steps with
  | nil =>
    obtain ⟨steps, rfl⟩ := Nat.exists_eq_add_one.mpr hsteps
    exact membersFrom_of_end (nextKey_end false rest)
  | @cons m l _ _ _ head _ ih =>
    obtain ⟨steps, rfl⟩ := Nat.exists_eq_add_one.mpr (Nat.zero_lt_of_lt hsteps)
    rw [List.flatMap_cons, List.append_assoc, List.cons_append, List.cons_append,
      membersFrom_of_key (nextKey_comma _) (head _ (ends_members l rest))]
    exact ih (Nat.lt_of_succ_lt_succ hsteps)

/-- All members of an object are read after its opening brace. -/
theorem members_writeObject (h : Folds member l state state') (rest : Bytes) :
    Reader.members member state (writeObject l ++ rest).tail = .ok (state', rest) := by
  rw [members_eq]
  cases h with
  | nil => exact membersFrom_of_end (nextKey_end true rest)
  | @cons m l _ _ _ head tail =>
    have hsteps := length_le_length_flatMap (f := fun m => octet ',' :: octet '"' :: afterQuote m)
      (fun _ => Nat.succ_pos _) l
    rw [writeObject_cons, List.tail_cons,
      membersFrom_of_key (nextKey_quote _) (head _ (ends_members l rest))]
    refine membersFrom_flatMap tail rest ?_
    rw [List.length_cons, List.length_append, List.length_append, List.length_cons]
    omega

end Members

end AcmeClient.Json

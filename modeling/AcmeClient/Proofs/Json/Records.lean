import AcmeClient.Proofs.Json.Recovery

/-!
# Records that are read back

A record is written member by member, where members without a value may be left out. A reader with
members of the same names takes up what is written and keeps its defaults for what is not. If it
ends up with the record that was written, the record is read back; the reader may also belong to
another type of records, of which the writer's has a part.
-/

namespace AcmeClient.Json

open Reader

namespace Record

/-- The members of a record that are written, with their names. -/
def pieces (g : Record τ) (x : τ) : List (String × Bytes) :=
  g.members.filterMap fun m => (m.write x).map (m.name, ·)

/-- The names of the members that are written. -/
def present (g : Record τ) (x : τ) : List String := (g.pieces x).map (·.1)

/-- A member is written if it has something to write. -/
theorem mem_present_iff {g : Record τ} {x : τ} {name : String} :
    name ∈ g.present x ↔ ∃ m ∈ g.members, m.name = name ∧ (m.write x).isSome := by
  unfold present pieces
  simp only [List.mem_map, List.mem_filterMap, Option.map_eq_some_iff, Option.isSome_iff_exists]
  constructor
  · rintro ⟨_, ⟨m, hm, b, hb, rfl⟩, rfl⟩
    exact ⟨m, hm, rfl, b, hb⟩
  · rintro ⟨m, hm, rfl, b, hb⟩
    exact ⟨_, ⟨m, hm, b, hb, rfl⟩, rfl⟩

/-- The names of the members that objects must have. -/
def requirements (f : Record ρ) : List String := (f.members.filter (·.isRequired)).map (·.name)

/-- Whether what a writer makes of a value takes a reader from one record to another, member by
member. What is not written is no requirement. -/
inductive Fills (f : Record ρ) (depth : Nat) (x : τ) : List (Member τ) → ρ → ρ → Prop
  | nil {r : ρ} : Fills f depth x [] r r
  | written {m : Member τ} {ms : List (Member τ)} {m' : Member ρ} {b : Bytes} {update : ρ → ρ}
    {r r' : ρ} (hwrite : m.write x = some b) (hfind : f.members.find? (·.name = m.name) = some m')
    (hread : ∀ rest, Ends rest → m'.read depth (b ++ rest) = .ok (update, rest))
    (hmore : Fills f depth x ms (update r) r') : Fills f depth x (m :: ms) r r'
  | absent {m : Member τ} {ms : List (Member τ)} {r r' : ρ} (hwrite : m.write x = none)
    (hrequired : m.isRequired = false) (hmore : Fills f depth x ms r r') :
    Fills f depth x (m :: ms) r r'

section

variable {f : Record ρ} {g : Record τ} {depth : Nat} {x : τ} {r r' : ρ} {ms : List (Member τ)}
  {name : String} {c : Codec α} {put' : α → ρ → ρ}

/-- A member that is always written is taken up. -/
theorem Fills.required {get : τ → α} {put : α → τ → τ} {get' : ρ → α}
    (hfind : f.members.find? (·.name = name) = some (.required name c get' put'))
    (hc : Recovers c depth (get x)) (hmore : Fills f depth x ms (put' (get x) r) r') :
    Fills f depth x (.required name c get put :: ms) r r' :=
  .written rfl hfind (fun rest hrest => bind_of_eq_ok (hc.read rest hrest)) hmore

/-- A member that has a default is taken up. -/
theorem Fills.defaulted {get : τ → α} {put : α → τ → τ} {get' : ρ → α}
    (hfind : f.members.find? (·.name = name) = some (.defaulted name c get' put'))
    (hc : Recovers c depth (get x)) (hmore : Fills f depth x ms (put' (get x) r) r') :
    Fills f depth x (.defaulted name c get put :: ms) r r' :=
  .written rfl hfind (fun rest hrest => bind_of_eq_ok (hc.read rest hrest)) hmore

variable {get : τ → Option α} {put : Option α → τ → τ} {get' : ρ → Option α}
  {putOption : Option α → ρ → ρ}

/-- A member that may be left out is taken up, or is at its default. -/
theorem Fills.optional
    (hfind : f.members.find? (·.name = name) = some (.optional name c get' putOption))
    (hc : ∀ v, get x = some v → Recovers c depth v)
    (hnone : putOption none r = r) (hmore : Fills f depth x ms (putOption (get x) r) r') :
    Fills f depth x (.optional name c get put :: ms) r r' := by
  cases hget : get x with
  | none =>
    rw [hget, hnone] at hmore
    exact .absent (congrArg (Option.map c.write) hget) rfl hmore
  | some v =>
    have hread := (hc v hget).option.read
    rw [hget] at hmore
    exact .written (congrArg (Option.map c.write) hget) hfind
      (fun rest hrest => bind_of_eq_ok (hread rest hrest)) hmore

/-- A member that may have no value is taken up. -/
theorem Fills.nullable
    (hfind : f.members.find? (·.name = name) = some (.nullable name c get' putOption))
    (hc : ∀ v, get x = some v → Recovers c depth v)
    (hmore : Fills f depth x ms (putOption (get x) r) r') :
    Fills f depth x (.nullable name c get put :: ms) r r' := by
  refine .written rfl hfind (fun rest hrest => bind_of_eq_ok ?_) hmore
  cases hget : get x with
  | none => exact read_null c depth rest
  | some v => exact (hc v hget).option.read rest hrest

/-- What is written is read member by member, and the names are remembered. -/
theorem folds_of_fills (h : Fills f depth x ms r r') (hnodup : (ms.map (·.name)).Nodup)
    {seen : List String} (hseen : ∀ m ∈ ms, m.name ∉ seen) :
    ∃ seen', Folds (f.member depth) (ms.filterMap fun m => (m.write x).map (m.name, ·))
      (r, seen) (r', seen') ∧
      ∀ name, (name ∈ seen ∨ name ∈ (ms.filter (·.isRequired)).map (·.name)) → name ∈ seen' := by
  induction h generalizing seen with
  | nil => exact ⟨seen, .nil, by simp⟩
  | @written m ms m' b update r r' hwrite hfind hread _ ih =>
    obtain ⟨hm, hnodup⟩ := List.nodup_cons.mp hnodup
    have hnew : ∀ m₁ ∈ ms, m₁.name ∉ m.name :: seen := by
      intro m₁ hm₁ hin
      rcases List.mem_cons.mp hin with heq | hin
      · exact hm (List.mem_map.mpr ⟨m₁, hm₁, heq⟩)
      · exact hseen m₁ (List.mem_cons_of_mem m hm₁) hin
    obtain ⟨seen', hfolds, hall⟩ := ih hnodup hnew
    refine ⟨seen', ?_, fun name hname => hall name ?_⟩
    · rw [List.filterMap_cons, hwrite]
      refine .cons (fun rest hrest => ?_) hfolds
      have hnot : ¬seen.contains m.name = true := by
        simpa using hseen m List.mem_cons_self
      unfold member
      dsimp only
      rw [bind_of_eq_ok (text_afterQuote _ _)]
      dsimp only
      rw [hfind]
      dsimp only
      rw [if_neg hnot, bind_of_eq_ok (colon_cons _), bind_of_eq_ok (hread rest hrest)]
      rfl
    · rcases hname with hname | hname
      · exact Or.inl (List.mem_cons_of_mem _ hname)
      · obtain ⟨m₁, hm₁, rfl⟩ := List.mem_map.mp hname
        obtain ⟨hm₁, hrequired⟩ := List.mem_filter.mp hm₁
        rcases List.mem_cons.mp hm₁ with rfl | hm₁
        · exact Or.inl List.mem_cons_self
        · exact Or.inr (List.mem_map_of_mem (List.mem_filter.mpr ⟨hm₁, hrequired⟩))
  | @absent m ms r r' hwrite hrequired _ ih =>
    obtain ⟨-, hnodup⟩ := List.nodup_cons.mp hnodup
    obtain ⟨seen', hfolds, hall⟩ := ih hnodup fun m₁ hm₁ => hseen m₁ (List.mem_cons_of_mem m hm₁)
    refine ⟨seen', ?_, fun name hname => hall name ?_⟩
    · rw [List.filterMap_cons, hwrite]
      exact hfolds
    · rwa [List.filter_cons_of_neg (by simp [hrequired])] at hname

/-- What is written is read, if the reader has no more requirements than the writer. -/
theorem read_write (h : Fills f (depth + 1) x g.members f.blank r)
    (hnodup : (g.members.map (·.name)).Nodup) (hrequired : f.requirements ⊆ g.requirements)
    (rest : Bytes) : f.read (depth + 2) (g.write x ++ rest) = .ok (r, rest) := by
  obtain ⟨seen, hfolds, hall⟩ := folds_of_fills h hnodup (fun _ _ => List.not_mem_nil)
  have hmembers := members_writeObject (l := g.pieces x) hfolds rest
  have hseen : (f.members.all fun m => !m.isRequired || seen.contains m.name) = true := by
    rw [List.all_eq_true]
    intro m hm
    cases hrequires : m.isRequired with
    | false => rfl
    | true =>
      have hname : m.name ∈ f.requirements :=
        List.mem_map_of_mem (List.mem_filter.mpr ⟨hm, hrequires⟩)
      simpa using hall m.name (Or.inr (hrequired hname))
  unfold read
  change (peek >>= _) (writeObject (g.pieces x) ++ rest) = _
  rw [writeObject_append, bind_of_eq_ok (peek_cons (by decide) _)]
  dsimp only
  rw [if_pos rfl, nested_succ, bind_of_eq_ok (advance_cons _ _), bind_of_eq_ok hmembers]
  dsimp only
  rw [if_pos hseen]
  rfl

/-- A record that its own members fill is read back. -/
theorem recovers {f : Record ρ} {r : ρ} (h : Fills f (depth + 1) r f.members f.blank r)
    (hnodup : (f.members.map (·.name)).Nodup) : Recovers f.codec (depth + 2) r where
  starts := ⟨octet '\x7b', _, rfl, by decide, by decide, by decide⟩
  read rest _ := read_write h hnodup (List.Subset.refl _) rest

end

end Record

end AcmeClient.Json

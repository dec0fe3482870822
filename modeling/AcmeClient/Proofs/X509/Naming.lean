import AcmeClient.Proofs.Der.RoundTrip
import AcmeClient.Proofs.Results
import AcmeClient.X509.GeneralName
import Mathlib.Data.List.Perm.Basic

/-!
# Names are read back

The name with a text has attributes with proper types and tags, and no attribute twice in one set.
Such a name is read back from its octets, with the attributes of each set in the order in which sets
are written.
-/

namespace AcmeClient.X509

open Der.Reader

/-- Duplicates only make a list longer. -/
theorem length_eraseDups_le [BEq α] (l : List α) : l.eraseDups.length ≤ l.length := by
  induction hn : l.length using Nat.strongRecOn generalizing l with
  | ind n ih =>
    cases l with
    | nil => simp
    | cons a l =>
      have hle := List.length_filter_le (fun b => !b == a) l
      rw [List.length_cons] at hn
      have hrest := ih _ (by omega) (l.filter fun b => !b == a) rfl
      rw [List.eraseDups_cons, List.length_cons]
      omega

/-- A list without duplicates is as long as what is left without them, and no other is. -/
theorem length_eraseDups_eq_iff [BEq α] [LawfulBEq α] (l : List α) :
    l.eraseDups.length = l.length ↔ l.Nodup := by
  induction l with
  | nil => simp
  | cons a l ih =>
    have hkept (h : a ∉ l) : l.filter (fun b => !b == a) = l := by
      refine List.filter_eq_self.mpr fun b hb => ?_
      simpa using ne_of_mem_of_not_mem hb h
    rw [List.eraseDups_cons, List.length_cons, List.length_cons, List.nodup_cons]
    constructor
    · intro h
      have hdups := length_eraseDups_le (l.filter fun b => !b == a)
      have hle := List.length_filter_le (fun b => !b == a) l
      have hall := List.length_filter_eq_length_iff.mp
        (show (l.filter fun b => !b == a).length = l.length by omega)
      have hnot : a ∉ l := fun hmem => by simpa using hall a hmem
      rw [hkept hnot] at h
      exact ⟨hnot, ih.mp (Nat.succ.inj h)⟩
    · rintro ⟨hnot, hnodup⟩
      rw [hkept hnot, ih.mpr hnodup]

namespace Attribute

/-- Whether an attribute has a proper type, and a value whose tag may occur. -/
structure IsReadable (a : Attribute) : Prop where
  type : Der.isOid a.type = true
  tag : Der.isTag a.value.tag = true

variable {a : Attribute} {text key : Bytes}

/-- An attribute is read back. -/
theorem IsReadable.reads (h : a.IsReadable) : Reads read a.write a := by
  have hvalue : Reads (do return (⟨a.type, ← element⟩ : Attribute))
      (Der.write a.value.tag a.value.content) a := (reads_element h.tag).bind_pure rfl
  exact reads_within (by decide) ((reads_oid h.type).then hvalue.all)

/-- An attribute is written with some octets. -/
theorem write_ne_nil (a : Attribute) : a.write ≠ [] := List.cons_ne_nil _ _

/-- A type with a name or in dotted form is proper. -/
theorem isOid_of_typeOf? {type : Bytes} (h : typeOf? key = some type) : Der.isOid type = true := by
  have hnamed : ∀ p ∈ Oid.attributeNames, Der.isOid p.2 = true := by decide
  unfold typeOf? at h
  dsimp only at h
  split at h
  · rename_i hfound
    cases h
    exact hnamed _ (List.mem_of_find?_eq_some hfound)
  · obtain ⟨arcs, _, h⟩ := Option.bind_eq_some_iff.mp h
    unfold Der.oidOfArcs? at h
    split at h
    · dsimp only at h
      split at h
      · rename_i hproper
        cases h
        exact hproper.2.2.2
      · cases h
    · cases h

/-- The attribute with a text can be read back. -/
theorem isReadable_of_ofText? (h : ofText? text = some a) : a.IsReadable := by
  unfold ofText? at h
  dsimp only at h
  split at h
  · cases h
  · obtain ⟨type, htype, h⟩ := Option.bind_eq_some_iff.mp h
    have hoid := isOid_of_typeOf? htype
    split at h
    · obtain ⟨octets, _, h⟩ := Option.bind_eq_some_iff.mp h
      obtain ⟨e, he, h⟩ := Option.bind_eq_some_iff.mp h
      cases h
      refine ⟨hoid, ?_⟩
      unfold whole at he
      split at he
      · rename_i hread
        cases he
        exact isTag_of_element hread
      · cases he
    · obtain ⟨value, _, h⟩ := Option.bind_eq_some_iff.mp h
      cases h
      refine ⟨hoid, ?_⟩
      dsimp only
      unfold textTag
      split
      · decide
      · split <;> decide

end Attribute

namespace Name

variable {name : Name}

/-- Whether all attributes of a name can be read back and none is in a set twice. -/
def IsReadable (name : Name) : Prop := ∀ set ∈ name, set.Nodup ∧ ∀ a ∈ set, a.IsReadable

/-- A set of attributes in the order in which it is written. -/
def sortedSet (set : List Attribute) : List Attribute :=
  set.mergeSort fun a b => before a.write b.write

/-- A name with its sets in the order in which they are written. -/
def sorted (name : Name) : Name := name.map sortedSet

/-- A set is written attribute by attribute, once it is in order. -/
theorem writeSet_eq (set : List Attribute) :
    writeSet set = Der.write 0x31 ((sortedSet set).flatMap Attribute.write) := by
  have hmap := List.map_mergeSort (r := fun a b : Attribute => before a.write b.write)
    (s := before) (f := Attribute.write) (l := set) fun _ _ _ _ => rfl
  rw [writeSet, ← hmap, sortedSet, List.flatMap_def]

/-- A set is read back in order. -/
theorem reads_set {set : List Attribute} (hnodup : set.Nodup) (h : ∀ a ∈ set, a.IsReadable) :
    Reads readSet (writeSet set) (sortedSet set) := by
  have hperm : (sortedSet set).Perm set := List.mergeSort_perm _ _
  have hmany := readsAll_many (g := id) (l := sortedSet set) (fun a _ => a.write_ne_nil)
    fun a ha => (h a (hperm.mem_iff.mp ha)).reads
  rw [List.map_id] at hmany
  rw [writeSet_eq]
  exact (reads_within (by decide) hmany).bind_pure
    (if_pos ((length_eraseDups_eq_iff _).mpr (hperm.nodup_iff.mpr hnodup)))

/-- A name is read back with its sets in order. -/
theorem IsReadable.reads (h : IsReadable name) : Reads read name.write (sorted name) :=
  reads_list (fun _ _ => List.cons_ne_nil _ _)
    fun set hset => reads_set (h set hset).1 (h set hset).2

/-- The name with a text can be read back. -/
theorem isReadable_of_ofText? {s : String} (h : ofText? s = some name) : IsReadable name := by
  obtain ⟨sets, hsets, h⟩ := Option.bind_eq_some_iff.mp h
  cases h
  intro set hset
  obtain ⟨text, _, htext⟩ :=
    exists_of_mem_right (mapM_eq_some_iff.mp hsets) (List.mem_reverse.mp hset)
  obtain ⟨found, hfound, htext⟩ := Option.bind_eq_some_iff.mp htext
  split at htext
  · rename_i hlength
    cases htext
    refine ⟨(length_eraseDups_eq_iff _).mp hlength, fun a ha => ?_⟩
    obtain ⟨piece, _, hpiece⟩ := exists_of_mem_right (mapM_eq_some_iff.mp hfound) ha
    exact Attribute.isReadable_of_ofText? hpiece
  · cases htext

end Name

namespace GeneralName

/-- Whether a name is a domain in ASCII or an address. -/
def IsPlain : GeneralName → Prop
  | dns octets => isAscii octets = true
  | ip _ => True
  | other _ => False

/-- A domain or an address is read back. -/
theorem IsPlain.reads {g : GeneralName} (h : g.IsPlain) : Reads read g.write g := by
  cases g with
  | dns octets => exact (reads_element (by decide)).bind_pure (if_pos h)
  | ip octets => exact (reads_element (by decide)).bind_pure rfl
  | other e => cases h

/-- Domains and addresses are read back in their order. -/
theorem reads_list_plain {l : List GeneralName} (h : ∀ g ∈ l, g.IsPlain) :
    Reads (list read) (Der.write 0x30 (l.flatMap write)) l := by
  have hlist := reads_list (g := id) (l := l) (fun g hg => ?_) fun g hg => (h g hg).reads
  · rwa [List.map_id] at hlist
  · cases g with
    | dns octets => exact List.cons_ne_nil _ _
    | ip octets => exact List.cons_ne_nil _ _
    | other e => exact absurd (h _ hg) id

end GeneralName

end AcmeClient.X509

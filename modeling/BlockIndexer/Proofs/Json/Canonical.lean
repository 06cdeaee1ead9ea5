import BlockIndexer.Json.Canonical
import Mathlib.Data.String.Basic

/-! Values as documents are read into them. The members of an object come out in the order of their
keys, each key once, and nothing nests deeper than the reader allows. A value of this form is read
back from its document as it was, so that reading a second time changes nothing. -/

namespace BlockIndexer.Json

/-- Members in the order of their keys, each key once. -/
def Ordered (ms : List (String × Value)) : Prop := ms.Pairwise (·.1 < ·.1)

section

variable {k : String} {v : Value} {ms : List (String × Value)} {m : String × Value}

theorem mem_putMember (member : m ∈ putMember k v ms) : m = (k, v) ∨ m ∈ ms := by
  induction ms with
  | nil => exact .inl (List.mem_singleton.mp member)
  | cons m' ms ih =>
    obtain ⟨k', v'⟩ := m'
    unfold putMember at member
    split at member
    · exact List.mem_cons.mp member
    · split at member
      · exact (List.mem_cons.mp member).imp_right (List.mem_cons_of_mem _)
      · rcases List.mem_cons.mp member with rfl | later
        · exact .inr List.mem_cons_self
        · exact (ih later).imp_right (List.mem_cons_of_mem _)

theorem ordered_putMember (ordered : Ordered ms) : Ordered (putMember k v ms) := by
  induction ordered with
  | nil => exact List.pairwise_singleton ..
  | @cons m ms above ordered ih =>
    obtain ⟨k', v'⟩ := m
    unfold putMember
    split
    next below =>
      refine .cons (fun m member => ?_) (.cons above ordered)
      rcases List.mem_cons.mp member with rfl | later
      · exact below
      · exact String.lt_trans below (above m later)
    next notBelow =>
      split
      next same => exact .cons (fun m member => same ▸ above m member) ordered
      next other =>
        refine .cons (fun m member => ?_) ih
        rcases mem_putMember member with rfl | later
        · exact lt_of_le_of_ne (String.not_lt.mp notBelow) (Ne.symm other)
        · exact above m later

theorem putMember_of_above (above : ∀ m ∈ ms, m.1 < k) : putMember k v ms = ms ++ [(k, v)] := by
  induction ms with
  | nil => rfl
  | cons m ms ih =>
    have below : m.1 < k := above m List.mem_cons_self
    rw [putMember, if_neg (String.lt_asymm below), if_neg (ne_of_gt below),
      ih fun m member => above m (List.mem_cons_of_mem _ member)]
    rfl

end

theorem ordered_foldl_putMember (ms : List (String × Value)) {sorted : List (String × Value)}
    (ordered : Ordered sorted) :
    Ordered (ms.foldl (fun sorted m => putMember m.1 m.2 sorted) sorted) := by
  induction ms generalizing sorted with
  | nil => exact ordered
  | cons m ms ih => exact ih (ordered_putMember ordered)

theorem mem_foldl_putMember {m : String × Value} {ms sorted : List (String × Value)}
    (member : m ∈ ms.foldl (fun sorted m => putMember m.1 m.2 sorted) sorted) :
    m ∈ ms ∨ m ∈ sorted := by
  induction ms generalizing sorted with
  | nil => exact .inr member
  | cons m' ms ih =>
    rcases ih member with later | before
    · exact .inl (List.mem_cons_of_mem _ later)
    · rcases mem_putMember before with rfl | before
      · exact .inl List.mem_cons_self
      · exact .inr before

theorem foldl_putMember_of_ordered {ms sorted : List (String × Value)}
    (ordered : Ordered (sorted ++ ms)) :
    ms.foldl (fun sorted m => putMember m.1 m.2 sorted) sorted = sorted ++ ms := by
  induction ms generalizing sorted with
  | nil => exact (List.append_nil _).symm
  | cons m ms ih =>
    have above : ∀ m' ∈ sorted, m'.1 < m.1 := fun m' member =>
      (List.pairwise_append.mp ordered).2.2 m' member m List.mem_cons_self
    rw [List.foldl_cons, putMember_of_above above]
    have rest := ih (by rwa [List.append_assoc] : Ordered ((sorted ++ [m]) ++ ms))
    rwa [List.append_assoc] at rest

theorem ordered_sortMembers (ms : List (String × Value)) : Ordered (sortMembers ms) :=
  ordered_foldl_putMember ms .nil

theorem mem_of_mem_sortMembers {m : String × Value} {ms : List (String × Value)}
    (member : m ∈ sortMembers ms) : m ∈ ms :=
  (mem_foldl_putMember member).resolve_right List.not_mem_nil

theorem sortMembers_of_ordered {ms : List (String × Value)} (ordered : Ordered ms) :
    sortMembers ms = ms :=
  foldl_putMember_of_ordered (show Ordered ([] ++ ms) from ordered)

namespace Document

mutual

/-- No object of the document uses the key that is set apart. -/
def Untagged : Document → Prop
  | .array items => ItemsUntagged items
  | .object members => MembersUntagged members
  | _ => True

def ItemsUntagged : List Document → Prop
  | [] => True
  | d :: ds => Untagged d ∧ ItemsUntagged ds

def MembersUntagged : List (Option String × Document) → Prop
  | [] => True
  | (k, d) :: ms => k ≠ some numberKey ∧ Untagged d ∧ MembersUntagged ms

end

theorem itemsUntagged_iff {ds : List Document} : ItemsUntagged ds ↔ ∀ d ∈ ds, d.Untagged := by
  induction ds with
  | nil => simp [ItemsUntagged]
  | cons d ds ih => simp [ItemsUntagged, ih]

theorem membersUntagged_iff {ms : List (Option String × Document)} :
    MembersUntagged ms ↔ ∀ m ∈ ms, m.1 ≠ some numberKey ∧ m.2.Untagged := by
  induction ms with
  | nil => simp [MembersUntagged]
  | cons m ms ih => simp [MembersUntagged, ih, and_assoc]

theorem not_isTagged {ms : List (Option String × Document)} (untagged : MembersUntagged ms) :
    isTagged ms = false := by
  rcases ms with _ | ⟨⟨_ | k, d⟩, ms⟩
  · rfl
  · rfl
  · have other : k ≠ numberKey := fun same => untagged.1 (congrArg some same)
    exact beq_false_of_ne other

end Document

mutual

/-- A value with at most `levels` levels whose objects have their members in order, none of them
under the key that is set apart. -/
def Canonical (levels : Nat) : Value → Prop
  | .array vs => levels ≠ 0 ∧ ItemsCanonical (levels - 1) vs
  | .object ms => levels ≠ 0 ∧ Ordered ms ∧ MembersCanonical (levels - 1) ms
  | _ => True

def ItemsCanonical (levels : Nat) : List Value → Prop
  | [] => True
  | v :: vs => Canonical levels v ∧ ItemsCanonical levels vs

def MembersCanonical (levels : Nat) : List (String × Value) → Prop
  | [] => True
  | (k, v) :: ms => k ≠ numberKey ∧ Canonical levels v ∧ MembersCanonical levels ms

end

theorem membersCanonical_iff {levels : Nat} {ms : List (String × Value)} :
    MembersCanonical levels ms ↔ ∀ m ∈ ms, m.1 ≠ numberKey ∧ Canonical levels m.2 := by
  induction ms with
  | nil => simp [MembersCanonical]
  | cons m ms ih => simp [MembersCanonical, ih, and_assoc]

theorem MembersCanonical.sortMembers {levels : Nat} {ms : List (String × Value)}
    (canonical : MembersCanonical levels ms) : MembersCanonical levels (sortMembers ms) :=
  membersCanonical_iff.mpr fun m member =>
    membersCanonical_iff.mp canonical m (mem_of_mem_sortMembers member)

namespace Document

mutual

/-- What is read of a document is in canonical form. -/
theorem canonical_of_value? : ∀ {d : Document} {levels : Nat} {v : Value}, d.Untagged →
    d.value? levels = some v → Canonical levels v
  | .null, _, _, _, read | .bool _, _, _, _, read | .number _, _, _, _, read => by
    cases read
    trivial
  | .string s, _, _, _, read => by
    obtain ⟨_, _, rfl⟩ := Option.map_eq_some_iff.mp read
    trivial
  | .array ds, levels, v, untagged, read => by
    rw [value?] at read
    obtain ⟨room, read⟩ := Option.ite_none_left_eq_some.mp read
    obtain ⟨vs, items, rfl⟩ := Option.map_eq_some_iff.mp read
    exact ⟨room, itemsCanonical_of_values? untagged items⟩
  | .object ms, levels, v, untagged, read => by
    rw [value?, if_neg (Bool.eq_false_iff.mp (not_isTagged untagged))] at read
    obtain ⟨room, read⟩ := Option.ite_none_left_eq_some.mp read
    obtain ⟨vs, members, rfl⟩ := Option.map_eq_some_iff.mp read
    exact ⟨room, ordered_sortMembers vs,
      (membersCanonical_of_namedValues? untagged members).sortMembers⟩

theorem itemsCanonical_of_values? : ∀ {ds : List Document} {levels : Nat} {vs : List Value},
    ItemsUntagged ds → values? levels ds = some vs → ItemsCanonical levels vs
  | [], _, _, _, read => by
    cases read
    trivial
  | d :: ds, levels, vs, untagged, read => by
    obtain ⟨v, first, following⟩ := Option.bind_eq_some_iff.mp read
    obtain ⟨vs, rest, rfl⟩ := Option.map_eq_some_iff.mp following
    exact ⟨canonical_of_value? untagged.1 first, itemsCanonical_of_values? untagged.2 rest⟩

theorem membersCanonical_of_namedValues? : ∀ {ms : List (Option String × Document)}
    {levels : Nat} {vs : List (String × Value)},
    MembersUntagged ms → namedValues? levels ms = some vs → MembersCanonical levels vs
  | [], _, _, _, read => by
    cases read
    trivial
  | (k, d) :: ms, levels, vs, untagged, read => by
    obtain ⟨key, rfl, named⟩ := Option.bind_eq_some_iff.mp read
    obtain ⟨v, first, following⟩ := Option.bind_eq_some_iff.mp named
    obtain ⟨vs, rest, rfl⟩ := Option.map_eq_some_iff.mp following
    exact ⟨fun same => untagged.1 (congrArg some same), canonical_of_value? untagged.2.1 first,
      membersCanonical_of_namedValues? untagged.2.2 rest⟩

end

theorem not_isTagged_namedDocuments {levels : Nat} {ms : List (String × Value)}
    (canonical : MembersCanonical levels ms) : isTagged (namedDocuments ms) = false := by
  rcases ms with _ | ⟨⟨k, v⟩, ms⟩
  · rfl
  · exact beq_false_of_ne canonical.1

mutual

/-- A value in canonical form is read back from its document. -/
theorem value?_document : ∀ {v : Value} {levels : Nat}, Canonical levels v →
    (document v).value? levels = some v
  | .null, _, _ | .bool _, _, _ | .number _, _, _ | .string _, _, _ => rfl
  | .array vs, levels, canonical => by
    rw [document, value?, if_neg canonical.1, values?_documents canonical.2, Option.map_some]
  | .object ms, levels, ⟨room, ordered, canonical⟩ => by
    rw [document, value?, if_neg room,
      if_neg (Bool.eq_false_iff.mp (not_isTagged_namedDocuments canonical)),
      namedValues?_namedDocuments canonical, Option.map_some, sortMembers_of_ordered ordered]

theorem values?_documents : ∀ {vs : List Value} {levels : Nat}, ItemsCanonical levels vs →
    values? levels (documents vs) = some vs
  | [], _, _ => rfl
  | v :: vs, levels, canonical => by
    rw [documents, values?, value?_document canonical.1, Option.bind_some,
      values?_documents canonical.2, Option.map_some]

theorem namedValues?_namedDocuments : ∀ {ms : List (String × Value)} {levels : Nat},
    MembersCanonical levels ms → namedValues? levels (namedDocuments ms) = some ms
  | [], _, _ => rfl
  | (k, v) :: ms, levels, canonical => by
    rw [namedDocuments, namedValues?, Option.bind_some, value?_document canonical.2.1,
      Option.bind_some, namedValues?_namedDocuments canonical.2.2, Option.map_some]

end

end Document

end BlockIndexer.Json

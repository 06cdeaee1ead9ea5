import BlockIndexer.Record
import Mathlib.Data.List.Nodup

/-! What is read of a record with named members. The fields are the members that the record knows,
each under its own name, wherever they stand and whatever stands between them; if two of them have
one name, nothing is read. -/

namespace BlockIndexer

namespace Shape

variable {α : Type} {shape : Shape} {ms : List (String × α)} {fields : Fields α} {name : String}
  {a : α}

def names (shape : Shape) : List String := shape.members.map (·.name)

/-- The members that a record knows among those that are given, under their own names. -/
def known (shape : Shape) (ms : List (String × α)) : Fields α :=
  ms.filterMap fun m => (shape.name? m.1).map (·, m.2)

theorem mem_known : (name, a) ∈ shape.known ms ↔ ∃ k, (k, a) ∈ ms ∧ shape.name? k = some name := by
  simp only [known, List.mem_filterMap, Option.map_eq_some_iff, Prod.mk.injEq]
  constructor
  · rintro ⟨⟨k, a'⟩, member, name', found, rfl, rfl⟩
    exact ⟨k, member, found⟩
  · rintro ⟨k, member, found⟩
    exact ⟨(k, a), member, name, found, rfl, rfl⟩

end Shape

namespace Fields

variable {α : Type} {fields : Fields α} {name : String} {a : α}

theorem lookup_isSome_iff_mem : (fields.lookup name).isSome = true ↔ name ∈ fields.map (·.1) := by
  rw [List.lookup_isSome_iff, List.mem_map]
  exact exists_congr fun field => and_congr_right fun _ => beq_iff_eq.trans eq_comm

theorem mem_of_lookup (found : fields.lookup name = some a) : (name, a) ∈ fields := by
  obtain ⟨before, after, rfl, _⟩ := List.lookup_eq_some_iff.mp found
  exact List.mem_append_right before List.mem_cons_self

/-- Of the values under a name, the first one is found. -/
theorem lookup_eq_head? :
    fields.lookup name = ((fields.filter (·.1 == name)).map (·.2)).head? := by
  induction fields with
  | nil => rfl
  | cons field fields ih =>
    obtain ⟨name', a'⟩ := field
    rw [List.lookup_cons, List.filter_cons, BEq.comm (a := name)]
    cases same : name' == name with
    | false => simpa [same] using ih
    | true => simp

end Fields

namespace Shape

variable {α : Type} {shape : Shape} {ms : List (String × α)} {fields : Fields α} {name : String}
  {a : α}

theorem known_cons_of_none {k : String} (unknown : shape.name? k = none) :
    shape.known ((k, a) :: ms) = shape.known ms := by
  simp only [known, List.filterMap_cons, unknown, Option.map_none]

theorem known_cons_of_some {k : String} (found : shape.name? k = some name) :
    shape.known ((k, a) :: ms) = (name, a) :: shape.known ms := by
  simp only [known, List.filterMap_cons, found, Option.map_some]

theorem named?_eq_some_iff : shape.named? ms = some fields ↔
    ((shape.known ms).map (·.1)).Nodup ∧ shape.known ms = fields := by
  induction ms generalizing fields with
  | nil => simp [named?, known]
  | cons m ms ih =>
    obtain ⟨k, a⟩ := m
    -- A member is compared with the fields of those after it, which are read first.
    rw [named?, Option.bind_eq_some_iff]
    cases found : shape.name? k with
    | none =>
      rw [known_cons_of_none found, ← ih]
      simp
    | some name =>
      rw [known_cons_of_some found, List.map_cons, List.nodup_cons]
      simp only [ih]
      constructor
      · rintro ⟨_, ⟨distinct, rfl⟩, read⟩
        obtain ⟨fresh, same⟩ := Option.ite_none_left_eq_some.mp read
        rw [Fields.lookup_isSome_iff_mem] at fresh
        exact ⟨⟨fresh, distinct⟩, Option.some.inj same⟩
      · rintro ⟨⟨fresh, distinct⟩, rfl⟩
        refine ⟨_, ⟨distinct, rfl⟩, if_neg ?_⟩
        rwa [Fields.lookup_isSome_iff_mem]

/-! ### Members under any of their spellings -/

/-- No spelling stands for two members. -/
structure WellSpelled (shape : Shape) : Prop where
  own : ∀ m ∈ shape.members, ∀ spelling ∈ m.name :: m.aliases, shape.name? spelling = some m.name
  distinct : shape.names.Nodup

namespace WellSpelled

theorem name?_of_mem (spelled : shape.WellSpelled) (member : name ∈ shape.names) :
    shape.name? name = some name := by
  obtain ⟨m, present, rfl⟩ := List.mem_map.mp member
  exact spelled.own m present m.name List.mem_cons_self

theorem known_eq (spelled : shape.WellSpelled)
    (own : ∀ field ∈ fields, field.1 ∈ shape.names) : shape.known fields = fields := by
  induction fields with
  | nil => rfl
  | cons field fields ih =>
    obtain ⟨name, a⟩ := field
    have found : shape.name? name = some name := spelled.name?_of_mem (own _ List.mem_cons_self)
    rw [known_cons_of_some found, ih fun other member => own other (List.mem_cons_of_mem _ member)]

/-- Members under distinct names of their own are the fields. -/
theorem named?_of_names (spelled : shape.WellSpelled)
    (own : ∀ field ∈ fields, field.1 ∈ shape.names) (distinct : (fields.map (·.1)).Nodup) :
    shape.named? fields = some fields := by
  have same := spelled.known_eq own
  exact named?_eq_some_iff.mpr ⟨same.symm ▸ distinct, same⟩

end WellSpelled

end Shape

namespace Member

variable {α : Type} {m : Member} {spelling : String}

/-- What is given for a member under any of its spellings. -/
def given (m : Member) (ms : List (String × α)) : List α :=
  (ms.filter fun given => m.accepts given.1).map (·.2)

theorem mem_given {ms : List (String × α)} {a : α} :
    a ∈ m.given ms ↔ ∃ k, (k, a) ∈ ms ∧ m.accepts k = true := by
  simp [given]

theorem accepts_iff : m.accepts spelling = true ↔ spelling ∈ m.name :: m.aliases := by
  rw [accepts, Bool.or_eq_true, beq_iff_eq, List.contains_iff_mem, List.mem_cons]

end Member

namespace Shape

variable {α : Type} {shape : Shape} {ms : List (String × α)} {fields : Fields α} {m : Member}
  {spelling : String}

theorem exists_member_of_name? {name : String} (found : shape.name? spelling = some name) :
    ∃ m ∈ shape.members, m.accepts spelling = true ∧ m.name = name := by
  obtain ⟨m, found, same⟩ := Option.map_eq_some_iff.mp found
  have accepts := List.find?_some (p := fun m : Member => m.accepts spelling) found
  exact ⟨m, List.mem_of_find?_eq_some found, accepts, same⟩

namespace WellSpelled

theorem name?_eq_some_iff (spelled : shape.WellSpelled) (member : m ∈ shape.members) :
    shape.name? spelling = some m.name ↔ m.accepts spelling = true := by
  constructor
  · intro found
    obtain ⟨m', member', accepts, same⟩ := exists_member_of_name? found
    rwa [← List.inj_on_of_nodup_map spelled.distinct member' member same]
  · intro accepts
    exact spelled.own m member spelling (Member.accepts_iff.mp accepts)

/-- What is given for a member is what the fields have under its name. -/
theorem given_eq (spelled : shape.WellSpelled) (member : m ∈ shape.members) :
    m.given ms = ((shape.known ms).filter (·.1 == m.name)).map (·.2) := by
  induction ms with
  | nil => rfl
  | cons field ms ih =>
    obtain ⟨k, a⟩ := field
    rw [Member.given] at ih
    rw [Member.given, List.filter_cons]
    cases found : shape.name? k with
    | none =>
      have other : m.accepts k ≠ true := fun accepts => by
        rw [(spelled.name?_eq_some_iff member).mpr accepts] at found
        contradiction
      rw [if_neg other, known_cons_of_none found, ih]
    | some name =>
      rw [known_cons_of_some found, List.filter_cons]
      by_cases same : name = m.name
      · have accepts := (spelled.name?_eq_some_iff member).mp (same ▸ found)
        rw [if_pos accepts, if_pos (beq_iff_eq.mpr same), List.map_cons, List.map_cons, ih]
      · have other : m.accepts k ≠ true := fun accepts => by
          rw [(spelled.name?_eq_some_iff member).mpr accepts] at found
          exact same (Option.some.inj found).symm
        rw [if_neg other, if_neg (mt beq_iff_eq.mp same), ih]

theorem count_known (spelled : shape.WellSpelled) (member : m ∈ shape.members) :
    ((shape.known ms).map (·.1)).count m.name = (m.given ms).length := by
  rw [spelled.given_eq member, List.length_map, List.count, List.countP_map,
    List.countP_eq_length_filter]
  rfl

/-- A record is read if no member is given twice. -/
theorem named?_of_given (spelled : shape.WellSpelled)
    (once : ∀ m ∈ shape.members, (m.given ms).length ≤ 1) :
    shape.named? ms = some (shape.known ms) := by
  refine named?_eq_some_iff.mpr ⟨List.nodup_iff_count_le_one.mpr fun name => ?_, rfl⟩
  by_cases present : name ∈ (shape.known ms).map (·.1)
  · obtain ⟨⟨_, a⟩, known, rfl⟩ := List.mem_map.mp present
    obtain ⟨k, _, found⟩ := mem_known.mp known
    obtain ⟨m, member, _, same⟩ := exists_member_of_name? found
    rw [← same, spelled.count_known member]
    exact once m member
  · rw [List.count_eq_zero.mpr present]
    exact Nat.zero_le 1

theorem lookup_known (spelled : shape.WellSpelled) (member : m ∈ shape.members) :
    (shape.known ms).lookup m.name = (m.given ms).head? := by
  rw [spelled.given_eq member]
  exact Fields.lookup_eq_head?

/-- The one value that a record which can be read gives for a member is the field of this name. -/
theorem given_of_named? (spelled : shape.WellSpelled) (member : m ∈ shape.members)
    (read : shape.named? ms = some fields) : m.given ms = (fields.lookup m.name).toList := by
  obtain ⟨distinct, rfl⟩ := named?_eq_some_iff.mp read
  have once := List.nodup_iff_count_le_one.mp distinct m.name
  rw [spelled.count_known member] at once
  rw [spelled.lookup_known member]
  match given : m.given ms, once with
  | [], _ => rfl
  | [_], _ => rfl

theorem named?_of_positional? (spelled : shape.WellSpelled) {items : List α}
    (read : shape.positional? items = some fields) :
    shape.named? (shape.names.zip items) = some fields := by
  obtain ⟨_, read⟩ := Option.ite_none_right_eq_some.mp read
  obtain rfl : shape.names.zip items = fields := Option.some.inj read
  refine spelled.named?_of_names (fun field present => (List.of_mem_zip present).1) ?_
  rw [List.zip_eq_zip_take_min, List.map_fst_zip (by simp)]
  exact spelled.distinct.sublist (List.take_sublist ..)

end WellSpelled

end Shape

namespace Fields

variable {α β γ : Type} {fields : Fields α} {name : String} {a : α} {b : β} {default : β}
  {read : α → Option β} {next : β → Option γ} {result : Option γ}

/-- A field that was read is handed on. -/
theorem bind_of_eq_some {x : Option β} (found : x = some b) (rest : next b = result) :
    (x >>= next) = result := by
  rw [found]
  exact rest

theorem required?_bind (found : fields.lookup name = some a) (reads : read a = some b)
    (rest : next b = result) : (fields.required? name read >>= next) = result := by
  refine bind_of_eq_some ?_ rest
  rw [required?, found, Option.bind_some, reads]

theorem orElse?_bind (found : fields.lookup name = some a) (reads : read a = some b)
    (rest : next b = result) : (fields.orElse? name default read >>= next) = result := by
  refine bind_of_eq_some ?_ rest
  rw [orElse?, found]
  exact reads

end Fields

/-! ### Records that are written -/

/-- A member that is to be written: what may stand for its value, and whether it may be left out. -/
structure Slot (α : Type) where
  member : Member
  stands : α → Prop
  omitted : Prop

namespace Slot

variable {α β : Type}

/-- The member is given once, as it may be, or it is left out and may be. -/
inductive Filled (slot : Slot α) (ms : List (String × α)) : Prop where
  | missing (none : slot.member.given ms = []) (omitted : slot.omitted)
  | once {a : α} (one : slot.member.given ms = [a]) (stands : slot.stands a)

/-- The same of the fields that are read of a record. -/
inductive Found (slot : Slot α) (fields : Fields α) : Prop where
  | missing (none : fields.lookup slot.member.name = none) (omitted : slot.omitted)
  | once {a : α} (one : fields.lookup slot.member.name = some a) (stands : slot.stands a)

variable {shape : Shape} {slot : Slot α} {slots : List (Slot α)} {ms : List (String × α)}

theorem Filled.length_le (filled : slot.Filled ms) : (slot.member.given ms).length ≤ 1 := by
  cases filled with
  | missing none => simp [none]
  | once one => simp [one]

theorem Filled.found (filled : slot.Filled ms) (spelled : shape.WellSpelled)
    (member : slot.member ∈ shape.members) : slot.Found (shape.known ms) := by
  have lookup : (shape.known ms).lookup slot.member.name = (slot.member.given ms).head? :=
    spelled.lookup_known member
  cases filled with
  | missing none omitted =>
    rw [none] at lookup
    exact .missing lookup omitted
  | once one stands =>
    rw [one] at lookup
    exact .once lookup stands

/-- A record whose members are written as they may be is read, and each is found in its fields. -/
theorem exists_fields (spelled : shape.WellSpelled) (same : slots.map (·.member) = shape.members)
    (filled : ∀ slot ∈ slots, slot.Filled ms) :
    ∃ fields, shape.named? ms = some fields ∧ ∀ slot ∈ slots, slot.Found fields := by
  refine ⟨shape.known ms, spelled.named?_of_given fun m member => ?_, fun slot member => ?_⟩
  · rw [← same] at member
    obtain ⟨slot, present, rfl⟩ := List.mem_map.mp member
    exact (filled slot present).length_le
  · exact (filled slot member).found spelled (same ▸ List.mem_map_of_mem member)

variable {fields : Fields α} {default b : β} {read : α → Option β}

theorem Found.orElse? (found : slot.Found fields) (omitted : slot.omitted → default = b)
    (reads : ∀ a, slot.stands a → read a = some b) :
    fields.orElse? slot.member.name default read = some b := by
  cases found with
  | missing none holds => rw [Fields.orElse?, none, omitted holds]
  | once one stands =>
    rw [Fields.orElse?, one]
    exact reads _ stands

theorem Found.required? (found : slot.Found fields) (required : ¬slot.omitted)
    (reads : ∀ a, slot.stands a → read a = some b) :
    fields.required? slot.member.name read = some b := by
  cases found with
  | missing _ omitted => exact absurd omitted required
  | once one stands => rw [Fields.required?, one, Option.bind_some, reads _ stands]

/-- A member that may be left out when it has its usual value. -/
def usual (member : Member) (spells : β → α → Prop) (b default : β) : Slot α where
  member
  stands := spells b
  omitted := b = default

/-- A member that may not be left out. -/
def required (member : Member) (spells : β → α → Prop) (b : β) : Slot α where
  member
  stands := spells b
  omitted := False

variable {member : Member} {spells : β → α → Prop}

theorem Found.usual (found : (Slot.usual member spells b default).Found fields)
    (reads : ∀ {a}, spells b a → read a = some b) :
    fields.orElse? member.name default read = some b :=
  found.orElse? Eq.symm fun _ => reads

theorem Found.required (found : (Slot.required member spells b).Found fields)
    (reads : ∀ {a}, spells b a → read a = some b) :
    fields.required? member.name read = some b :=
  found.required? id fun _ => reads

end Slot

end BlockIndexer

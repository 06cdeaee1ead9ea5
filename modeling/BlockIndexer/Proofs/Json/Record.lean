import BlockIndexer.Proofs.Json.Decode
import BlockIndexer.Proofs.Record

/-! What a document gives for the members of a record. A record that is read gives each of its
members once at most; a field is what is read of its member, or its usual value where the record
leaves the member out. -/

namespace BlockIndexer

open Json (Document)

namespace Json.Document

/-- What a record gives for a member, under any of its spellings or in its place. -/
def given (shape : Shape) (m : Member) : Document → List Document
  | .object members => m.given (members.filterMap fun member => member.1.map (·, member.2))
  | .array items => m.given (shape.names.zip items)
  | _ => []

/-- A record gives a member twice, under one of its spellings or under several. -/
def RepeatsMember (d : Document) (shape : Shape) : Prop :=
  ∃ m ∈ shape.members, 1 < (d.given shape m).length

/-- A record gives a list for a member, and this is one of its items. -/
def GivesItem (d : Document) (shape : Shape) (m : Member) (item : Document) : Prop :=
  ∃ items, .array items ∈ d.given shape m ∧ item ∈ items

variable {shape : Shape} {m : Member} {d : Document} {fields : Fields Document}

theorem given_of_fields? (spelled : shape.WellSpelled) (member : m ∈ shape.members)
    (read : d.fields? shape = some fields) : d.given shape m = (fields.lookup m.name).toList := by
  cases d with
  | object members =>
    obtain ⟨named, names, read⟩ := Option.bind_eq_some_iff.mp read
    obtain rfl := namedMembers?_eq_some_iff.mp names
    rw [given, List.filterMap_map]
    refine (congrArg m.given List.filterMap_some).trans ?_
    exact spelled.given_of_named? member ((fields?_of_lists shape rfl).symm.trans read)
  | array items => exact spelled.given_of_named? member (spelled.named?_of_positional? read)
  | null | bool | number | string => contradiction

variable {β : Type}

/-- A record of which anything was read gives no member twice. -/
theorem not_repeatsMember_of_bind (spelled : shape.WellSpelled)
    {next : Fields Document → Option β} {b : β} (read : (d.fields? shape >>= next) = some b) :
    ¬d.RepeatsMember shape := by
  rintro ⟨m, member, twice⟩
  obtain ⟨fields, read, _⟩ := Option.bind_eq_some_iff.mp read
  rw [given_of_fields? spelled member read] at twice
  exact Nat.not_lt.mpr Option.length_toList_le twice

theorem RepeatsMember.ne_null (repeats : d.RepeatsMember shape) : d ≠ .null := by
  rintro rfl
  obtain ⟨_, _, twice⟩ := repeats
  exact Nat.not_lt_zero 1 twice

theorem lookup_of_given (spelled : shape.WellSpelled) (member : m ∈ shape.members)
    (read : d.fields? shape = some fields) {content : Document}
    (given : content ∈ d.given shape m) : fields.lookup m.name = some content := by
  rwa [given_of_fields? spelled member read, Option.mem_toList] at given

variable {reads : Document → Option β} {bs : List β} {item : Document}

theorem exists_of_array? {items : List Document} (read : array? reads (.array items) = some bs)
    (inside : item ∈ items) : ∃ b, reads item = some b := by
  rw [array?] at read
  induction items generalizing bs with
  | nil => contradiction
  | cons first items ih =>
    rw [List.mapM_cons] at read
    obtain ⟨b, found, read⟩ := Option.bind_eq_some_iff.mp read
    obtain ⟨bs, others, _⟩ := Option.bind_eq_some_iff.mp read
    rcases List.mem_cons.mp inside with rfl | inside
    · exact ⟨b, found⟩
    · exact ih others inside

/-- Each item of a list that could be read could be read. -/
theorem exists_of_givesItem (spelled : shape.WellSpelled) (member : m ∈ shape.members)
    (read : d.fields? shape = some fields) (gives : d.GivesItem shape m item)
    (list : fields.orElse? m.name [] (array? reads) = some bs) : ∃ b, reads item = some b := by
  obtain ⟨items, given, inside⟩ := gives
  rw [Fields.orElse?, lookup_of_given spelled member read given] at list
  exact exists_of_array? list inside

/-- What a member with an optional value gives could be read, unless it is null. -/
theorem exists_of_given (spelled : shape.WellSpelled) (member : m ∈ shape.members)
    (read : d.fields? shape = some fields) (given : item ∈ d.given shape m)
    (present : item ≠ .null) {value : Option β}
    (optional : fields.orElse? m.name none (nullable? reads) = some value) :
    ∃ b, reads item = some b := by
  rw [Fields.orElse?, lookup_of_given spelled member read given] at optional
  have optional : nullable? reads item = some value := optional
  unfold nullable? at optional
  split at optional
  next => contradiction
  next => exact (Option.map_eq_some_iff.mp optional).imp fun _ => And.left

end Json.Document

/-! ### Fields that are read -/

/-- A value that is read of a document in this way. -/
def Reads {β : Type} (read : Document → Option β) (b : β) (d : Document) : Prop := read d = some b

/-- A record gives the member once, as it may be, or it leaves it out and may. -/
inductive Slot.GivenBy (shape : Shape) (d : Document) (slot : Slot Document) : Prop where
  | missing (none : d.given shape slot.member = []) (omitted : slot.omitted)
  | once {a : Document} (one : d.given shape slot.member = [a]) (stands : slot.stands a)

/-- The document is a record of this shape, and gives its members as they may be. -/
structure Json.Document.Fills (d : Document) (shape : Shape) (slots : List (Slot Document)) :
    Prop where
  record : (d.fields? shape).isSome = true
  given : ∀ slot ∈ slots, slot.GivenBy shape d

namespace Slot

variable {β : Type} {shape : Shape} {slot : Slot Document} {slots : List (Slot Document)}
  {fields : Fields Document} {d : Document} {m : Member} {read : Document → Option β}
  {b default : β}

theorem givenBy_iff_found (spelled : shape.WellSpelled) (member : slot.member ∈ shape.members)
    (record : d.fields? shape = some fields) : slot.GivenBy shape d ↔ slot.Found fields := by
  have given := Document.given_of_fields? spelled member record
  constructor
  · intro givenBy
    cases givenBy with
    | missing none omitted =>
      exact .missing (Option.toList_eq_nil_iff.mp (given.symm.trans none)) omitted
    | once one stands =>
      exact .once (Option.toList_eq_singleton_iff.mp (given.symm.trans one)) stands
  · intro found
    cases found with
    | missing none omitted => exact .missing (by rw [given, none]; rfl) omitted
    | once one stands => exact .once (by rw [given, one]; rfl) stands

theorem fills_iff (spelled : shape.WellSpelled) (same : slots.map (·.member) = shape.members) :
    d.Fills shape slots ↔
      ∃ fields, d.fields? shape = some fields ∧ ∀ slot ∈ slots, slot.Found fields := by
  have member {slot : Slot Document} (present : slot ∈ slots) : slot.member ∈ shape.members :=
    same ▸ List.mem_map_of_mem present
  constructor
  · rintro ⟨record, given⟩
    obtain ⟨fields, record⟩ := Option.isSome_iff_exists.mp record
    exact ⟨fields, record, fun slot present =>
      (givenBy_iff_found spelled (member present) record).mp (given slot present)⟩
  · rintro ⟨fields, record, found⟩
    exact ⟨Option.isSome_iff_exists.mpr ⟨fields, record⟩, fun slot present =>
      (givenBy_iff_found spelled (member present) record).mpr (found slot present)⟩

/-- A record is read of what fills its slots, if each field is. -/
theorem bind_eq_some_iff_fills {γ : Type} {next : Fields Document → Option γ} {c : γ}
    (spelled : shape.WellSpelled) (same : slots.map (·.member) = shape.members)
    (each : ∀ fields, next fields = some c ↔ ∀ slot ∈ slots, slot.Found fields) :
    (d.fields? shape >>= next) = some c ↔ d.Fills shape slots := by
  rw [fills_iff spelled same, Option.bind_eq_bind, Option.bind_eq_some_iff]
  exact exists_congr fun fields => and_congr_right fun _ => each fields

theorem required?_eq_some_iff :
    fields.required? m.name read = some b ↔ (Slot.required m (Reads read) b).Found fields := by
  constructor
  · intro found
    obtain ⟨a, given, reads⟩ := Option.bind_eq_some_iff.mp found
    exact .once given reads
  · exact fun found => found.required id

theorem orElse?_eq_some_iff :
    fields.orElse? m.name default read = some b ↔
      (Slot.usual m (Reads read) b default).Found fields := by
  constructor
  · intro found
    rw [Fields.orElse?] at found
    cases given : fields.lookup m.name with
    | none =>
      rw [given] at found
      exact .missing given (Option.some.inj found).symm
    | some a =>
      rw [given] at found
      exact .once given found
  · exact fun found => found.usual id

end Slot

end BlockIndexer

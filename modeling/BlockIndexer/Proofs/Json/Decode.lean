import BlockIndexer.Json.Decode
import BlockIndexer.Proofs.Record

/-! Readers of fields give back what is written for them. -/

namespace BlockIndexer

open Json (Document Value document)

namespace Json

theorem Number.plainInt?_eq_some_iff {n : Number} {i : Int} :
    n.plainInt? = some i ↔ n = .ofInt i := by
  constructor
  · intro read
    obtain ⟨negative, whole, fraction, exponent⟩ := n
    obtain ⟨usual, read⟩ := Option.ite_none_left_eq_some.mp read
    cases fraction <;> cases exponent <;> try contradiction
    obtain rfl := Option.some.inj read
    simp only [not_and] at usual
    cases negative
    · simp [ofInt]
    · have positive : whole ≠ 0 := usual rfl
      simp only [ofInt, if_true, Number.mk.injEq, and_true, Int.natAbs_neg, Int.natAbs_natCast]
      exact (decide_eq_true (by omega)).symm
  · rintro rfl
    have usual : ¬((ofInt i).negative = true ∧ (ofInt i).whole = 0) := by
      simp only [ofInt, decide_eq_true_eq]
      omega
    rw [plainInt?, if_neg usual]
    simp only [toInt?, ofInt, decide_eq_true_eq, Option.some.injEq]
    split <;> omega

namespace Document

theorem namedMembers?_eq_some_iff {ms : List (Option String × Document)}
    {named : List (String × Document)} :
    namedMembers? ms = some named ↔ ms = named.map fun m => (some m.1, m.2) := by
  induction ms generalizing named with
  | nil => cases named <;> simp [namedMembers?]
  | cons m ms ih =>
    obtain ⟨_ | k, d⟩ := m
    · cases named <;> simp [namedMembers?]
    · rw [namedMembers?, Option.map_eq_some_iff]
      simp only [ih]
      cases named with
      | nil => simp
      | cons m named =>
        simp only [List.map_cons, List.cons.injEq, Option.some.injEq, Prod.ext_iff]
        constructor
        · rintro ⟨_, rfl, ⟨rfl, rfl⟩, rfl⟩
          exact ⟨⟨rfl, rfl⟩, rfl⟩
        · rintro ⟨⟨rfl, rfl⟩, rfl⟩
          exact ⟨_, rfl, ⟨rfl, rfl⟩, rfl⟩

theorem namedMembers?_document (ms : List (String × Value)) :
    namedMembers? (namedDocuments ms) = some (ms.map fun m => (m.1, document m.2)) := by
  induction ms with
  | nil => rfl
  | cons m ms ih => rw [namedDocuments, namedMembers?, ih, Option.map_some, List.map_cons]

/-- An object lists its members. -/
def Lists (d : Document) (ms : List (String × Document)) : Prop :=
  d = .object (ms.map fun m => (some m.1, m.2))

theorem fields?_of_lists {d : Document} {ms : List (String × Document)} (shape : Shape)
    (lists : d.Lists ms) : d.fields? shape = shape.named? ms := by
  rw [lists, fields?, namedMembers?_eq_some_iff.mpr rfl, Option.bind_some]

theorem lists_document (ms : List (String × Value)) :
    (document (.object ms)).Lists (ms.map fun m => (m.1, document m.2)) := by
  rw [Lists, document, namedMembers?_eq_some_iff.mp (namedMembers?_document ms)]

/-- An object with members of a record in their order has them as its fields. -/
theorem fields?_document_of_sublist {shape : Shape} (spelled : shape.WellSpelled)
    {ms : List (String × Value)} (keys : (ms.map (·.1)).Sublist shape.names) :
    (document (.object ms)).fields? shape = some (ms.map fun m => (m.1, document m.2)) := by
  have keys' : ((ms.map fun m => (m.1, document m.2)).map (·.1)).Sublist shape.names := by
    rw [List.map_map]
    exact keys
  rw [fields?_of_lists shape (lists_document ms)]
  refine spelled.named?_of_names (fun field member => ?_) (keys'.nodup spelled.distinct)
  exact keys'.subset (List.mem_map_of_mem member)

theorem fields?_document {shape : Shape} (spelled : shape.WellSpelled) {ms : List (String × Value)}
    (keys : ms.map (·.1) = shape.names) :
    (document (.object ms)).fields? shape = some (ms.map fun m => (m.1, document m.2)) :=
  fields?_document_of_sublist spelled (keys ▸ .refl _)

theorem int?_document (i : Int) : (document (Json.int i)).int? = some i :=
  Number.plainInt?_eq_some_iff.mpr rfl

theorem nat?_document {bits n : Nat} (fits : FitsIn bits n) :
    (document (Json.nat n)).nat? bits = some n := by
  have int : (document (Json.nat n)).int? = some (n : Int) := int?_document n
  have natural : Int.toNat? n = some n := rfl
  rw [nat?, int, Option.bind_some, natural, Option.filter_some, if_pos (decide_eq_true fits)]

theorem uint8?_document (n : UInt8) : (document (Json.nat n.toNat)).uint8? = some n := by
  rw [uint8?, nat?_document n.toNat_lt, Option.map_some, UInt8.ofNat_toNat]

theorem uint32?_document (n : UInt32) : (document (Json.nat n.toNat)).uint32? = some n := by
  rw [uint32?, nat?_document n.toNat_lt, Option.map_some, UInt32.ofNat_toNat]

theorem uint64?_document (n : UInt64) : (document (Json.nat n.toNat)).uint64? = some n := by
  rw [uint64?, nat?_document n.toNat_lt, Option.map_some, UInt64.ofNat_toNat]

theorem int64?_document (n : Int64) : (document (Json.int n.toInt)).int64? = some n := by
  rw [int64?, int?_document, Option.bind_some, if_pos ⟨n.minValue_le_toInt, n.toInt_le⟩,
    Int64.ofInt_toInt]

end Document

end Json

end BlockIndexer

import BlockIndexer.Proofs.Json.Canonical
import BlockIndexer.Proofs.Json.Decode
import BlockIndexer.Proofs.Json.RoundTrip
import BlockIndexer.Rpc.Envelope

/-! Envelopes that were read are written and read again without a change. This is true of what is
read only: an envelope may also be built with a null result, which is read back as none. So it is
said first what the values in an envelope are once it has been read, and then that envelopes with
such values are read back from their texts. -/

namespace BlockIndexer

open Json (Canonical Document Value document)

namespace Json.Document

variable {d d' : Document} {levels : Nat} {shape : Shape} {fields : Fields Document} {name : String}

theorem Untagged.field (untagged : d.Untagged) (read : d.fields? shape = some fields)
    (found : fields.lookup name = some d') : d'.Untagged := by
  have member := Fields.mem_of_lookup found
  unfold fields? at read
  split at read
  next ms =>
    obtain ⟨named, names, read⟩ := Option.bind_eq_some_iff.mp read
    rw [namedMembers?_eq_some_iff.mp names, Untagged, membersUntagged_iff] at untagged
    rw [← (Shape.named?_eq_some_iff.mp read).2] at member
    obtain ⟨k, member, _⟩ := Shape.mem_known.mp member
    exact (untagged _ (List.mem_map_of_mem member)).2
  next ds =>
    obtain ⟨_, same⟩ := Option.ite_none_right_eq_some.mp read
    cases same
    rw [Untagged, itemsUntagged_iff] at untagged
    exact untagged d' (List.of_mem_zip member).2
  next => contradiction

theorem eq_null_of_value? (read : d.value? levels = some .null) : d = .null := by
  cases d with
  | null => rfl
  | bool | number => cases read
  | string s =>
    obtain ⟨_, _, null⟩ := Option.map_eq_some_iff.mp read
    cases null
  | array ds =>
    obtain ⟨_, read⟩ := Option.ite_none_left_eq_some.mp read
    obtain ⟨_, _, null⟩ := Option.map_eq_some_iff.mp read
    cases null
  | object ms =>
    rw [value?] at read
    obtain ⟨_, read⟩ := Option.ite_none_left_eq_some.mp read
    split at read
    all_goals
      obtain ⟨_, _, null⟩ := Option.map_eq_some_iff.mp read
      cases null

end Json.Document

namespace Rpc

/-! ### Ids -/

namespace Id

/-- The number is an unsigned word in its usual spelling. -/
def IsWord (n : Json.Number) (i : UInt64) : Prop := n = .ofNat i.toNat

theorem ofNumber_of_isWord {n : Json.Number} {i : UInt64} (word : IsWord n i) :
    ofNumber n = .number i := by
  have read : (document (Json.nat i.toNat)).nat? 64 = some i.toNat :=
    Document.nat?_document i.toNat_lt
  rw [Document.nat?, Json.nat, document, Document.int?] at read
  rw [word, ofNumber, read]
  simp only [UInt64.ofNat_toNat]

theorem ofNumber_of_forall_not_isWord {n : Json.Number} (other : ∀ i, ¬IsWord n i) :
    ofNumber n = .string n.text := by
  unfold ofNumber
  split
  next k read =>
    obtain ⟨read, fits⟩ := Option.filter_eq_some_iff.mp read
    obtain ⟨i, plain, natural⟩ := Option.bind_eq_some_iff.mp read
    obtain rfl := Int.mem_toNat?.mp natural
    have same : (UInt64.ofNat k).toNat = k := UInt64.toNat_ofNat_of_lt (of_decide_eq_true fits)
    refine absurd ?_ (other (.ofNat k))
    rw [IsWord, same]
    exact Json.Number.plainInt?_eq_some_iff.mp plain
  next => rfl

/-- What becomes of a number in the place of an id. -/
def OfNumber (n : Json.Number) (id : Id) : Prop :=
  (∃ i, IsWord n i ∧ id = .number i) ∨ (∀ i, ¬IsWord n i) ∧ id = .string n.text

theorem ofNumber_spec (n : Json.Number) : OfNumber n (ofNumber n) := by
  by_cases word : ∃ i, IsWord n i
  · obtain ⟨i, word⟩ := word
    exact .inl ⟨i, word, ofNumber_of_isWord word⟩
  · have other : ∀ i, ¬IsWord n i := not_exists.mp word
    exact .inr ⟨other, ofNumber_of_forall_not_isWord other⟩

/-- A number that was read as the id has become what it should. -/
def ReadFrom (d : Document) (id : Id) : Prop := ∀ n, d = .number n → OfNumber n id

theorem readFrom_of_ofDocument? {d : Document} {id : Id} (read : ofDocument? d = some id) :
    id.ReadFrom d := by
  rintro n rfl
  obtain rfl : ofNumber n = id := Option.some.inj read
  exact ofNumber_spec n

theorem readFrom_of_required? {fields : Fields Document} {name : String} {d : Document} {id : Id}
    (read : fields.required? name ofDocument? = some id) (found : fields.lookup name = some d) :
    id.ReadFrom d := by
  rw [Fields.required?, found, Option.bind_some] at read
  exact readFrom_of_ofDocument? read

theorem ofValue?_toValue (id : Id) : ofValue? id.toValue = some id := by
  cases id with
  | number i => exact congrArg some (ofNumber_of_isWord rfl)
  | string s => rfl
  | null => rfl

theorem value?_document (id : Id) (levels : Nat) :
    (document id.toValue).value? levels = some id.toValue := by
  cases id <;> rfl

theorem ofDocument?_document (id : Id) : ofDocument? (document id.toValue) = some id := by
  rw [ofDocument?, id.value?_document, Option.bind_some, ofValue?_toValue]

/-- The id that a text writes. -/
def ofString? (s : String) : Option Id := (Json.ofString? s).bind ofValue?

theorem ofString?_text (id : Id) : ofString? id.toValue.text = some id := by
  rw [ofString?, Json.ofString?, Document.ofString?, Document.ofText?_text (Json.suits_free _),
    Option.bind_some, id.value?_document, Option.bind_some, ofValue?_toValue]

end Id

/-! ### Values in optional places -/

/-- What a value in an optional place is once it has been read. -/
def Settled (levels : Nat) (a : Option Value) : Prop := ∀ v ∈ a, Canonical levels v ∧ v ≠ .null

section

variable {levels : Nat} {d : Document} {a : Option Value} {v : Value}

theorem settled_of_optionalValue? (untagged : d.Untagged)
    (read : optionalValue? levels d = some a) : Settled levels a := by
  rintro v rfl
  unfold optionalValue? Document.nullable? at read
  split at read
  next => cases read
  next present =>
    obtain ⟨_, read, same⟩ := Option.map_eq_some_iff.mp read
    cases same
    refine ⟨d.canonical_of_value? untagged read, ?_⟩
    rintro rfl
    exact present (Document.eq_null_of_value? read)

theorem optionalValue?_document (settled : Settled levels (some v)) :
    optionalValue? levels (document v) = some (some v) := by
  obtain ⟨canonical, present⟩ := settled v rfl
  have read := Document.value?_document canonical
  unfold optionalValue? Document.nullable?
  split
  next null =>
    rw [null] at read
    cases read
    contradiction
  next => rw [read, Option.map_some]

variable {fields : Fields Document} {name : String}

theorem settled_of_orElse? (untagged : ∀ d, fields.lookup name = some d → d.Untagged)
    (read : fields.orElse? name none (optionalValue? levels) = some a) : Settled levels a := by
  unfold Fields.orElse? at read
  split at read
  next =>
    cases read
    nofun
  next d found => exact settled_of_optionalValue? (untagged d found) read

theorem eq_none_of_orElse?_null (read : fields.orElse? name none (optionalValue? levels) = some a)
    (null : fields.lookup name = some .null) : a = none := by
  rw [Fields.orElse?, null] at read
  exact (Option.some.inj read).symm

theorem Settled.ne_null (settled : Settled levels a) : a ≠ some .null := by
  rintro rfl
  exact (settled .null rfl).2 rfl

theorem orElse?_optionalValue? (settled : Settled levels a)
    (found : fields.lookup name = a.map document) :
    fields.orElse? name none (optionalValue? levels) = some a := by
  rw [Fields.orElse?, found]
  cases a with
  | none => rfl
  | some v => exact optionalValue?_document settled

/-- An optional member is there or not. -/
theorem sublist_optional {α : Type} (name : String) (write : α → Value) (a : Option α) :
    ((a.map fun x => (name, write x)).toList.map (·.1)).Sublist [name] := by
  cases a with
  | none => exact List.nil_sublist _
  | some x => exact .refl _

end

/-! ### Faults -/

namespace Fault

variable {levels : Nat} {f : Fault}

theorem shape_wellSpelled : shape.WellSpelled := ⟨by decide, by decide⟩

/-- Null that was read as the data has become absent. -/
def ReadFrom (d : Document) (f : Fault) : Prop :=
  ∀ fields, d.fields? shape = some fields → fields.lookup "data" = some .null → f.data = none

theorem data_of_ofDocument? {d : Document} (read : ofDocument? levels d = some f) :
    ∃ fields, d.fields? shape = some fields ∧
      fields.orElse? "data" none (optionalValue? levels) = some f.data := by
  obtain ⟨fields, fieldsRead, read⟩ := Option.bind_eq_some_iff.mp read
  obtain ⟨code, _, read⟩ := Option.bind_eq_some_iff.mp read
  obtain ⟨message, _, read⟩ := Option.bind_eq_some_iff.mp read
  obtain ⟨data, dataRead, same⟩ := Option.bind_eq_some_iff.mp read
  cases same
  exact ⟨fields, fieldsRead, dataRead⟩

theorem readFrom_of_ofDocument? {d : Document} (read : ofDocument? levels d = some f) :
    f.ReadFrom d := by
  intro fields' fieldsRead' null
  obtain ⟨fields, fieldsRead, dataRead⟩ := data_of_ofDocument? read
  obtain rfl := Option.some.inj (fieldsRead.symm.trans fieldsRead')
  exact eq_none_of_orElse?_null dataRead null

theorem settled_of_ofDocument? {d : Document} (untagged : d.Untagged)
    (read : ofDocument? levels d = some f) : Settled levels f.data := by
  obtain ⟨fields, fieldsRead, dataRead⟩ := data_of_ofDocument? read
  exact settled_of_orElse? (fun _ found => untagged.field fieldsRead found) dataRead

theorem sublist_keys (f : Fault) :
    (([("code", Json.int f.code.toInt), ("message", .string f.message)]
      ++ (f.data.map fun data => ("data", data)).toList).map (·.1)).Sublist shape.names := by
  rw [List.map_append]
  exact (List.Sublist.refl ["code", "message"]).append (sublist_optional "data" (·) f.data)

theorem ofDocument?_document (settled : Settled levels f.data) :
    ofDocument? levels (document f.toValue) = some f := by
  obtain ⟨code, message, data⟩ := f
  rw [ofDocument?, toValue, Document.fields?_document_of_sublist shape_wellSpelled (sublist_keys _)]
  refine Fields.required?_bind rfl (Document.int64?_document code) ?_
  refine (congrArg (· >>= _) (orElse?_optionalValue? settled ?_)).trans rfl
  cases data <;> rfl

/-- The fault that a text writes. -/
def ofString? (s : String) : Option Fault := (Document.ofString? s).bind (ofDocument? valueDepth)

theorem ofString?_text (settled : Settled valueDepth f.data) :
    ofString? f.toValue.text = some f := by
  rw [ofString?, Document.ofString?, Document.ofText?_text (Json.suits_free _), Option.bind_some,
    ofDocument?_document settled]

end Fault

/-! ### Requests -/

namespace Request

variable {r : Request}

theorem shape_wellSpelled : shape.WellSpelled := ⟨by decide, by decide⟩

/-- A number that was read as the id has become what it should. -/
def ReadFrom (d : Document) (r : Request) : Prop :=
  ∀ fields id, d.fields? shape = some fields → fields.lookup "id" = some id → r.id.ReadFrom id

theorem values_of_ofDocument? {d : Document} (read : ofDocument? d = some r) :
    ∃ fields, d.fields? shape = some fields ∧
      fields.required? "params" (Document.value? valueDepth) = some r.params ∧
      fields.required? "id" Id.ofDocument? = some r.id := by
  obtain ⟨fields, fieldsRead, read⟩ := Option.bind_eq_some_iff.mp read
  obtain ⟨version, _, read⟩ := Option.bind_eq_some_iff.mp read
  obtain ⟨method, _, read⟩ := Option.bind_eq_some_iff.mp read
  obtain ⟨params, paramsRead, read⟩ := Option.bind_eq_some_iff.mp read
  obtain ⟨id, idRead, same⟩ := Option.bind_eq_some_iff.mp read
  cases same
  exact ⟨fields, fieldsRead, paramsRead, idRead⟩

theorem readFrom_of_ofDocument? {d : Document} (read : ofDocument? d = some r) : r.ReadFrom d := by
  intro fields' id fieldsRead' found
  obtain ⟨fields, fieldsRead, _, idRead⟩ := values_of_ofDocument? read
  obtain rfl := Option.some.inj (fieldsRead.symm.trans fieldsRead')
  exact Id.readFrom_of_required? idRead found

theorem canonical_of_ofDocument? {d : Document} (untagged : d.Untagged)
    (read : ofDocument? d = some r) : Canonical valueDepth r.params := by
  obtain ⟨fields, fieldsRead, paramsRead, _⟩ := values_of_ofDocument? read
  obtain ⟨d', found, paramsRead⟩ := Option.bind_eq_some_iff.mp paramsRead
  exact d'.canonical_of_value? (untagged.field fieldsRead found) paramsRead

theorem ofDocument?_document (canonical : Canonical valueDepth r.params) :
    ofDocument? (document r.toValue) = some r := by
  obtain ⟨version, method, params, id⟩ := r
  rw [ofDocument?, toValue, Document.fields?_document shape_wellSpelled rfl]
  refine Fields.required?_bind rfl (Document.value?_document canonical) ?_
  refine Fields.required?_bind rfl id.ofDocument?_document ?_
  rfl

/-- The request that a text writes. -/
def ofString? (s : String) : Option Request := (Document.ofString? s).bind ofDocument?

theorem ofString?_text (canonical : Canonical valueDepth r.params) :
    ofString? r.toValue.text = some r := by
  rw [ofString?, Document.ofString?, Document.ofText?_text (Json.suits_free _), Option.bind_some,
    ofDocument?_document canonical]

end Request

/-! ### Responses -/

namespace Response

variable {r : Response}

theorem shape_wellSpelled : shape.WellSpelled := ⟨by decide, by decide⟩

/-- What a response is once it has been read. -/
structure Settled (r : Response) : Prop where
  result : Rpc.Settled valueDepth r.result
  fault : ∀ f ∈ r.fault, Rpc.Settled (valueDepth - 1) f.data

/-- A number that was read as the id has become what it should, and null that was read as the result
or as the data of the fault has become absent. -/
def ReadFrom (d : Document) (r : Response) : Prop :=
  ∀ fields, d.fields? shape = some fields →
    (∀ id, fields.lookup "id" = some id → r.id.ReadFrom id) ∧
    (fields.lookup "result" = some .null → r.result = none) ∧
    ∀ f ∈ r.fault, ∃ error, fields.lookup "error" = some error ∧ f.ReadFrom error

theorem values_of_ofDocument? {d : Document} (read : ofDocument? d = some r) :
    ∃ fields, d.fields? shape = some fields ∧
      fields.required? "id" Id.ofDocument? = some r.id ∧
      fields.orElse? "result" none (optionalValue? valueDepth) = some r.result ∧
      fields.orElse? "error" none (Document.nullable? (Fault.ofDocument? (valueDepth - 1))) =
        some r.fault := by
  obtain ⟨fields, fieldsRead, read⟩ := Option.bind_eq_some_iff.mp read
  obtain ⟨version, _, read⟩ := Option.bind_eq_some_iff.mp read
  obtain ⟨id, idRead, read⟩ := Option.bind_eq_some_iff.mp read
  obtain ⟨result, resultRead, read⟩ := Option.bind_eq_some_iff.mp read
  obtain ⟨fault, faultRead, same⟩ := Option.bind_eq_some_iff.mp read
  cases same
  exact ⟨fields, fieldsRead, idRead, resultRead, faultRead⟩

/-- A fault that was read stands in its place. -/
theorem fault_of_orElse? {fields : Fields Document} {name : String} {levels : Nat} {f : Fault}
    (read : fields.orElse? name none (Document.nullable? (Fault.ofDocument? levels)) =
      some (some f)) :
    ∃ d, fields.lookup name = some d ∧ Fault.ofDocument? levels d = some f := by
  unfold Fields.orElse? at read
  split at read
  next => cases read
  next d found =>
    unfold Document.nullable? at read
    split at read
    next => cases read
    next =>
      obtain ⟨_, read, same⟩ := Option.map_eq_some_iff.mp read
      cases same
      exact ⟨d, found, read⟩

theorem readFrom_of_ofDocument? {d : Document} (read : ofDocument? d = some r) : r.ReadFrom d := by
  intro fields' fieldsRead'
  obtain ⟨fields, fieldsRead, idRead, resultRead, faultRead⟩ := values_of_ofDocument? read
  obtain rfl := Option.some.inj (fieldsRead.symm.trans fieldsRead')
  refine ⟨fun _ found => Id.readFrom_of_required? idRead found,
    eq_none_of_orElse?_null resultRead, fun f present => ?_⟩
  rw [Option.mem_def.mp present] at faultRead
  obtain ⟨d', found, read⟩ := fault_of_orElse? faultRead
  exact ⟨d', found, Fault.readFrom_of_ofDocument? read⟩

theorem settled_of_ofDocument? {d : Document} (untagged : d.Untagged)
    (read : ofDocument? d = some r) : r.Settled := by
  obtain ⟨fields, fieldsRead, idRead, resultRead, faultRead⟩ := values_of_ofDocument? read
  refine ⟨settled_of_orElse? (fun _ found => untagged.field fieldsRead found) resultRead,
    fun f present => ?_⟩
  rw [Option.mem_def.mp present] at faultRead
  obtain ⟨d', found, read⟩ := fault_of_orElse? faultRead
  exact Fault.settled_of_ofDocument? (untagged.field fieldsRead found) read

theorem sublist_keys (r : Response) :
    (([("jsonrpc", .string r.version), ("id", r.id.toValue)]
      ++ (r.result.map fun result => ("result", result)).toList
      ++ (r.fault.map fun fault => ("error", fault.toValue)).toList).map (·.1)).Sublist
        shape.names := by
  rw [List.map_append, List.map_append]
  have required := List.Sublist.refl ["jsonrpc", "id"]
  exact (required.append (sublist_optional "result" (·) r.result)).append
    (sublist_optional "error" Fault.toValue r.fault)

theorem ofDocument?_document (settled : r.Settled) :
    ofDocument? (document r.toValue) = some r := by
  obtain ⟨version, id, result, fault⟩ := r
  rw [ofDocument?, toValue, Document.fields?_document_of_sublist shape_wellSpelled (sublist_keys _)]
  refine Fields.required?_bind rfl id.ofDocument?_document ?_
  refine (congrArg (· >>= _) (orElse?_optionalValue? settled.result ?_)).trans ?_
  · cases result <;> cases fault <;> rfl
  cases fault with
  | none => cases result <;> rfl
  | some f =>
    have read := Fault.ofDocument?_document (settled.fault f rfl)
    refine Fields.orElse?_bind (a := document f.toValue) (b := some f) ?_ ?_ ?_
    · cases result <;> rfl
    · exact congrArg (Option.map some) read
    · rfl

theorem ofString?_text (settled : r.Settled) : ofString? r.toValue.text = some r := by
  rw [ofString?, Document.ofString?, Document.ofText?_text (Json.suits_free _), Option.bind_some,
    ofDocument?_document settled]

end Response

/-! ### Texts -/

/-- What is read of a text as a response, a fault, a request or an id is written as a text that the
same is read of. Numbers in the place of an id have become words or their texts, and null in an
optional place has become absent, so that neither changes any more. -/
theorem reencoding_stable {s : String} {d : Document} (written : Document.ofString? s = some d)
    (untagged : d.Untagged) :
    (∀ r, Response.ofString? s = some r →
      Response.ofString? r.toValue.text = some r ∧ r.ReadFrom d ∧
        r.result ≠ some .null ∧ ∀ f ∈ r.fault, f.data ≠ some .null) ∧
    (∀ f, Fault.ofString? s = some f →
      Fault.ofString? f.toValue.text = some f ∧ f.ReadFrom d ∧ f.data ≠ some .null) ∧
    (∀ r, Request.ofString? s = some r →
      Request.ofString? r.toValue.text = some r ∧ r.ReadFrom d) ∧
    ∀ id, Id.ofString? s = some id → Id.ofString? id.toValue.text = some id ∧ id.ReadFrom d := by
  refine ⟨fun r read => ?_, fun f read => ?_, fun r read => ?_, fun id read => ?_⟩
  · rw [Response.ofString?, written, Option.bind_some] at read
    have settled := Response.settled_of_ofDocument? untagged read
    exact ⟨Response.ofString?_text settled, Response.readFrom_of_ofDocument? read,
      settled.result.ne_null, fun f present => (settled.fault f present).ne_null⟩
  · rw [Fault.ofString?, written, Option.bind_some] at read
    have settled := Fault.settled_of_ofDocument? untagged read
    exact ⟨Fault.ofString?_text settled, Fault.readFrom_of_ofDocument? read, settled.ne_null⟩
  · rw [Request.ofString?, written, Option.bind_some] at read
    exact ⟨Request.ofString?_text (Request.canonical_of_ofDocument? untagged read),
      Request.readFrom_of_ofDocument? read⟩
  · refine ⟨id.ofString?_text, ?_⟩
    rintro n rfl
    rw [Id.ofString?, Json.ofString?, written] at read
    obtain rfl : Id.ofNumber n = id := Option.some.inj read
    exact Id.ofNumber_spec n

/-- A response with a negative id and null for its result. -/
theorem reencoding_stable_negative_id :
    let value : Value := .object [("jsonrpc", .string "2.0"), ("id", Json.int (-7)),
      ("result", .null),
      ("error", .object [("code", Json.int (-32000)), ("message", .string "gone"),
        ("data", .array [.null, .number ⟨false, 1, some ⟨5, [0]⟩, none⟩])])]
    ∃ d r, Document.ofString? value.text = some d ∧ d.Untagged ∧
      Response.ofString? value.text = some r ∧ r.id = .string "-7" ∧ r.result = none ∧
      Response.ofString? r.toValue.text = some r := by
  intro value
  have written : Document.ofString? value.text = some (document value) :=
    Document.ofText?_text (Json.suits_free _)
  have untagged : (document value).Untagged := by
    simp [value, document, Json.namedDocuments, Json.documents, Document.Untagged,
      Document.MembersUntagged, Document.ItemsUntagged, Json.numberKey, Json.int]
  have read : ∃ r, Response.ofString? value.text = some r ∧ r.id = .string "-7" ∧
      r.result = none := by
    rw [Response.ofString?, written]
    exact ⟨_, rfl, rfl, rfl⟩
  obtain ⟨r, read, id, result⟩ := read
  have again := ((reencoding_stable written untagged).1 r read).1
  exact ⟨_, r, written, untagged, read, id, result, again⟩

end Rpc

end BlockIndexer

import BlockIndexer.Config.Encode
import BlockIndexer.Proofs.Config.Document
import BlockIndexer.Proofs.Json.RoundTrip

/-! The layers of a configuration: settings over overrides over a document over the usual values. -/

namespace BlockIndexer

open Json (Document Value document)

/-! ### Encoding -/

theorem NumericPolicy.ofName?_name (policy : NumericPolicy) :
    ofName? policy.name = some policy := by
  cases policy <;> rfl

namespace IndexerConfig

theorem gives_document (c : IndexerConfig) :
    Gives (document c.toValue) fun f => some (c.get f) := by
  have word32 (m : Member) (n : UInt32) :
      (Kind.word32.slot m (some n)).stands (document (Json.nat n.toNat)) :=
    ⟨n, rfl, Document.uint32?_document n⟩
  have word64 (m : Member) (n : UInt64) :
      (Kind.word64.slot m (some n)).stands (document (Json.nat n.toNat)) :=
    ⟨n, rfl, Document.uint64?_document n⟩
  have url (m : Member) (url : Option String) :
      (Kind.url.slot m (some url)).stands (document (Json.ofOption .string url)) :=
    ⟨url, rfl, by cases url <;> rfl⟩
  have rpc : Fills (document c.rpc.toValue) (RpcConfig.slots fun f => some (c.rpc.get f)) := by
    refine ⟨_, Document.lists_document _, ?_⟩
    simp only [RpcConfig.slots, List.map_cons, List.map_nil, List.forall_mem_cons]
    exact ⟨.once rfl (word32 _ _), .once rfl (word64 _ _), .once rfl (word64 _ _),
      .once rfl (word64 _ _), List.forall_mem_nil _⟩
  have pool : Fills (document c.pool.toValue) (PoolConfig.slots fun f => some (c.pool.get f)) := by
    refine ⟨_, Document.lists_document _, ?_⟩
    simp only [PoolConfig.slots, List.map_cons, List.map_nil, List.forall_mem_cons]
    exact ⟨.once rfl (word32 _ _), .once rfl (word32 _ _), .once rfl (word64 _ _),
      List.forall_mem_nil _⟩
  have policy :
      Kind.policy.read? (document (.string c.numericPolicy.name)) = some c.numericPolicy :=
    c.numericPolicy.ofName?_name
  refine ⟨_, Document.lists_document _, ?_⟩
  simp only [slots, OwnField.all, List.map_cons, List.map_nil, List.cons_append, List.nil_append,
    List.forall_mem_cons]
  exact ⟨.once rfl (url _ _), .once rfl (url _ _), .once rfl (word64 _ _), .once rfl (word64 _ _),
    .once rfl (word64 _ _), .once rfl (word64 _ _), .once rfl (word64 _ _), .once rfl (word64 _ _),
    .once rfl ⟨_, rfl, policy⟩, .once rfl ⟨_, rfl, rfl⟩, .once rfl (word64 _ _),
    .once rfl (word64 _ _), .once rfl rpc, .once rfl pool, List.forall_mem_nil _⟩

theorem ofJson?_text (c : IndexerConfig) : ofJson? c.toValue.text = some c := by
  rw [ofJson?, Document.ofString?, Document.ofText?_text (Json.suits_free _), Option.bind_some,
    ofDocument?_of_gives c.gives_document]
  rfl

/-! ### Layers -/

/-- The value of a field: what the last setting makes of it, else the override, else what the
document gives, else the usual value. -/
def layered (settings : List Setting) (o : Overrides) (given : (f : Field) → Option f.kind.Value)
    (f : Field) : f.kind.Value :=
  ((lastValue? settings f).or ((o.value? f).or (given f))).getD (default.get f)

theorem get_layers (settings : List Setting) (o : Overrides)
    (given : (f : Field) → Option f.kind.Value) (f : Field) :
    (((ofValues fun f => (given f).getD (default.get f)).override o).setAll settings).get f =
      layered settings o given f := by
  rw [get_setAll, get_override, get_ofValues, layered, Option.getD_or, Option.getD_or]

theorem load_of_gives {s : String} {d : Yaml.Document} {given : (f : Field) → Option f.kind.Value}
    (written : Text.trim s.toList ≠ []) (read : Yaml.Document.ofString? s = some d)
    (gives : Gives d.element given) (o : Overrides) (file : FileReport) :
    load (.text s) o file =
      .ok ((ofValues fun f => (given f).getD (default.get f)).override o) := by
  have unblank : ¬(Text.trim s.toList).isEmpty = true := mt List.isEmpty_iff.mp written
  have parsed : ofYaml? s = some (ofValues fun f => (given f).getD (default.get f)) := by
    rw [ofYaml?, if_neg unblank, read, Option.bind_some, ofDocument?_of_gives gives]
  simp only [load, parsed]

theorem load_of_blank {s : String} (blank : Text.trim s.toList = []) (o : Overrides)
    (file : FileReport) : load (.text s) o file = .ok (default.override o) := by
  have parsed : ofYaml? s = some default := by
    rw [ofYaml?, if_pos (List.isEmpty_iff.mpr blank)]
  simp only [load, parsed]

/-- An error names the file, and what is wrong with it. -/
theorem load_eq_error_iff {origin : Origin} {o : Overrides} {file : FileReport} {e : Error} :
    load origin o file = .error e ↔
      origin = .unreadable ∧ e = .config s!"cannot read {file.path}: {file.unreadable}" ∨
      ∃ s, origin = .text s ∧ ofYaml? s = none ∧
        e = .config s!"{file.path}: {file.malformed s}" := by
  cases origin with
  | none => simp [load]
  | unreadable => simp [load, eq_comm]
  | text s => cases read : ofYaml? s <;> simp [load, read, eq_comm]

theorem build_eq (c : IndexerConfig) (settings : List Setting) :
    c.build settings = (c.setAll settings).validate.map fun _ => c.setAll settings := by
  rw [build]
  cases (c.setAll settings).validate <;> rfl

/-- Each field has the value of the uppermost layer that says anything of it, whether the document
is JSON or YAML, blank or none. A file that is no configuration is an error that names it. Settings
that change no common field may change places, the checks decide whether the configuration is built,
and none is changed by writing and reading it. -/
theorem layering (settings : List Setting) (o : Overrides)
    (given : (f : Field) → Option f.kind.Value) :
    (∀ s d, Document.ofString? s = some d → Gives d given →
      ∃ c, ofJson? s = some c ∧
        ∀ f, ((c.override o).setAll settings).get f = layered settings o given f) ∧
    (∀ s d, Text.trim s.toList ≠ [] → Yaml.Document.ofString? s = some d →
      Gives d.element given →
      ∃ c, (∀ file, load (.text s) o file = .ok c) ∧
        ∀ f, (c.setAll settings).get f = layered settings o given f) ∧
    (∀ origin, (origin = .none ∨ ∃ s, origin = .text s ∧ Text.trim s.toList = []) →
      ∃ c, (∀ file, load origin o file = .ok c) ∧
        ∀ f, (c.setAll settings).get f = layered settings o (fun _ => none) f) ∧
    (∀ (origin : Origin) (file : FileReport) (e : Error), load origin o file = .error e ↔
      origin = .unreadable ∧ e = .config s!"cannot read {file.path}: {file.unreadable}" ∨
      ∃ s, origin = .text s ∧ ofYaml? s = none ∧
        e = .config s!"{file.path}: {file.malformed s}") ∧
    (∀ (c : IndexerConfig) (s t : Setting), s.Apart t → (c.set s).set t = (c.set t).set s) ∧
    (∀ c c' : IndexerConfig, c.build settings = .ok c' ↔
      c'.validate = .ok () ∧ c' = c.setAll settings) ∧
    (∀ (c : IndexerConfig) (e : Error), c.build settings = .error e ↔
      (c.setAll settings).validate = .error e) ∧
    ∀ c : IndexerConfig, ofJson? c.toValue.text = some c := by
  refine ⟨fun s d read gives => ?_, fun s d written read gives => ?_, fun origin nothing => ?_,
    fun origin file e => load_eq_error_iff, fun c s t apart => set_comm apart c, fun c c' => ?_,
    fun c e => ?_, ofJson?_text⟩
  · refine ⟨_, ?_, get_layers settings o given⟩
    rw [ofJson?, read, Option.bind_some, ofDocument?_of_gives gives]
  · exact ⟨_, load_of_gives written read gives o, get_layers settings o given⟩
  · refine ⟨default.override o, fun file => ?_, get_layers settings o fun _ => none⟩
    rcases nothing with rfl | ⟨s, rfl, blank⟩
    · rfl
    · exact load_of_blank blank o file
  · rw [build_eq]
    constructor
    · intro built
      cases checked : (c.setAll settings).validate with
      | error e =>
        rw [checked] at built
        cases built
      | ok u =>
        rw [checked] at built
        cases built
        exact ⟨checked, rfl⟩
    · rintro ⟨checked, rfl⟩
      rw [checked]
      rfl
  · rw [build_eq]
    cases (c.setAll settings).validate <;> simp [Except.map]

/-- One field of a group and two others. -/
def partialGroup : (f : Field) → Option f.kind.Value
  | .own .databaseUrl => some (some "db")
  | .own .chainId => some (5 : UInt64)
  | .rpc .maxRetries => some (9 : UInt32)
  | _ => none

/-- The two notations may give them with the other spelling of a member and one that is unknown. -/
theorem gives_partialGroup {α : Type} [RecordNotation α] {a rpc retries id url other : α}
    (own : RecordNotation.Lists a
      [("verbose", other), ("rpc", rpc), ("chain_id", id), ("database", url)])
    (group : RecordNotation.Lists rpc [("max_retries", retries)])
    (nine : ConfigDocument.uint32? retries = some 9)
    (five : ConfigDocument.uint64? id = some 5)
    (db : ConfigDocument.optionalText? url = some (some "db")) : Gives a partialGroup := by
  have rpc : Fills rpc (RpcConfig.slots fun f => partialGroup (.rpc f)) := by
    refine ⟨_, group, ?_⟩
    simp only [RpcConfig.slots, List.map_cons, List.map_nil, List.forall_mem_cons]
    exact ⟨.once rfl ⟨_, rfl, nine⟩, .missing rfl rfl, .missing rfl rfl, .missing rfl rfl,
      List.forall_mem_nil _⟩
  refine ⟨_, own, ?_⟩
  simp only [slots, OwnField.all, List.map_cons, List.map_nil, List.cons_append, List.nil_append,
    List.forall_mem_cons]
  exact ⟨.once rfl ⟨_, rfl, db⟩, .missing rfl rfl, .once rfl ⟨_, rfl, five⟩, .missing rfl rfl,
    .missing rfl rfl, .missing rfl rfl, .missing rfl rfl, .missing rfl rfl, .missing rfl rfl,
    .missing rfl rfl, .missing rfl rfl, .missing rfl rfl, .once rfl rpc,
    .missing rfl fun f => rfl, List.forall_mem_nil _⟩

def partialYaml : String := "verbose:\nrpc:\n  max_retries: 9\nchain_id: 5\ndatabase: db\n"

def partialTree : Yaml :=
  let plain (text : String) : Yaml := .scalar ⟨text, .plain, none⟩
  .mapping [(plain "verbose", plain ""), (plain "rpc", .mapping [(plain "max_retries", plain "9")]),
    (plain "chain_id", plain "5"), (plain "database", plain "db")]

/-- The same configuration in both notations, under overrides and settings. -/
theorem layering_partial_group :
    let value : Value := .object
      [("verbose", .null), ("rpc", .object [("max_retries", Json.nat 9)]),
        ("chain_id", Json.nat 5), ("database", .string "db")]
    let d : Yaml.Document := ⟨partialTree, []⟩
    let settings : List Setting := [.chainId 6, .chainId 7]
    let o : Overrides := ⟨none, some "node"⟩
    Document.ofString? value.text = some (document value) ∧ Gives (document value) partialGroup ∧
    Yaml.Document.ofString? partialYaml = some d ∧ Gives d.element partialGroup ∧
      ∃ c c', ofJson? value.text = some c ∧ load (.text partialYaml) o = .ok c' ∧
        (c.override o).setAll settings = c'.setAll settings ∧
        (c'.setAll settings).rpc = ⟨9, 100, 10000, 30000⟩ ∧
        (c'.setAll settings).chainId = 7 ∧ (c'.setAll settings).databaseUrl = some "db" ∧
        load .unreadable o ⟨"a.yaml", "no such file", id⟩ =
          .error (.config "cannot read a.yaml: no such file") := by
  intro value d settings o
  have readJson : Document.ofString? value.text = some (document value) :=
    Document.ofText?_text (Json.suits_free _)
  have givesJson : Gives (document value) partialGroup :=
    gives_partialGroup (Document.lists_document _) (Document.lists_document _) rfl rfl rfl
  have readYaml : Yaml.Document.ofString? partialYaml = some d := rfl
  have group : Yaml.Element.Lists ⟨d, .mapping [(.scalar ⟨"max_retries", .plain, none⟩,
      .scalar ⟨"9", .plain, none⟩)]⟩ [("max_retries", ⟨d, .scalar ⟨"9", .plain, none⟩⟩)] :=
    .mapping rfl (.cons ⟨⟨_, rfl, rfl⟩, rfl⟩ .nil)
  have givesYaml : Gives d.element partialGroup :=
    gives_partialGroup (.mapping rfl (.cons ⟨⟨_, rfl, rfl⟩, rfl⟩ (.cons ⟨⟨_, rfl, rfl⟩, rfl⟩
      (.cons ⟨⟨_, rfl, rfl⟩, rfl⟩ (.cons ⟨⟨_, rfl, rfl⟩, rfl⟩ .nil))))) group rfl rfl rfl
  obtain ⟨json, yaml, -, errors, -⟩ := layering settings o partialGroup
  obtain ⟨c, parsed, fields⟩ := json _ _ readJson givesJson
  obtain ⟨c', loaded, fields'⟩ := yaml _ _ (by decide +kernel) readYaml givesYaml
  refine ⟨readJson, givesJson, readYaml, givesYaml, c, c', parsed, loaded {}, ?_, ?_,
    fields' (.own .chainId), fields' (.own .databaseUrl), (errors _ _ _).mpr (.inl ⟨rfl, rfl⟩)⟩
  · exact eq_of_get fun f => (fields f).trans (fields' f).symm
  · have group := congrArg RpcConfig.ofValues (funext fun f => fields' (.rpc f))
    exact group

end IndexerConfig

end BlockIndexer

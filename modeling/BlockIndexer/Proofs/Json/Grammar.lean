import BlockIndexer.Json.Reader
import BlockIndexer.Proofs.Json.Token

/-! The texts of documents: their tokens in order, with blanks before, between and after them. The
reader finds a document in each of its texts. The one thing it may miss is an array with more items
than the run of bytes that is expected in its place, since such a run ends by its length. -/

namespace BlockIndexer.Json

open BlockIndexer.Text

/-- Tokens in a row, with blanks around them. -/
inductive Lexes : List Symbol → List Token → Prop where
  | nil : Lexes [] []
  | blank {s : Symbol} {cs : List Symbol} {ts : List Token} (blank : isSpace s = true)
      (rest : Lexes cs ts) : Lexes (s :: cs) ts
  | token {cs rest : List Symbol} {t : Token} {ts : List Token} (written : t.Written cs)
      (ends : t.Ends rest) (following : Lexes rest ts) : Lexes (cs ++ rest) (t :: ts)

namespace Document

mutual

def tokens : Document → List Token
  | .null => [.null]
  | .bool b => [.bool b]
  | .number n => [.number n]
  | .string s => [.string s]
  | .array [] => [.beginArray, .endArray]
  | .array (d :: ds) => .beginArray :: (tokens d ++ itemsTokens ds)
  | .object [] => [.beginObject, .endObject]
  | .object ((k, d) :: ms) => .beginObject :: .string k :: .colon :: (tokens d ++ membersTokens ms)

/-- The items after the first, with the bracket that ends them. -/
def itemsTokens : List Document → List Token
  | [] => [.endArray]
  | d :: ds => .comma :: (tokens d ++ itemsTokens ds)

/-- The members after the first, with the brace that ends them. -/
def membersTokens : List (Option String × Document) → List Token
  | [] => [.endObject]
  | (k, d) :: ms => .comma :: .string k :: .colon :: (tokens d ++ membersTokens ms)

end

/-- The text is one of those that write the document. -/
def WrittenBy (d : Document) (cs : List Symbol) : Prop := Lexes cs d.tokens

end Document

/-! ### Layouts -/

mutual

/-- No array has more items than the run of bytes that the layout expects in its place. -/
def Suits : Layout → Document → Prop
  | layout, .array ds => ItemsSuit layout.items ds
  | layout, .object ms => MembersSuit layout ms
  | _, _ => True

def ItemsSuit : Items → List Document → Prop
  | _, [] => True
  | .bytes 0, _ :: _ => False
  | items, d :: ds => Suits items.next d ∧ ItemsSuit items.afterNext ds

def MembersSuit : Layout → List (Option String × Document) → Prop
  | _, [] => True
  | layout, (k, d) :: ms => Suits (layout.member k) d ∧ MembersSuit layout ms

end

theorem ItemsSuit.cons {items : Items} {d : Document} {ds : List Document}
    (suits : ItemsSuit items (d :: ds)) :
    items ≠ .bytes 0 ∧ Suits items.next d ∧ ItemsSuit items.afterNext ds := by
  cases items with
  | each item => exact ⟨nofun, by simpa only [ItemsSuit] using suits⟩
  | inTurn items => exact ⟨nofun, by simpa only [ItemsSuit] using suits⟩
  | bytes left =>
    cases left with
    | zero => rw [ItemsSuit] at suits; contradiction
    | succ left => exact ⟨nofun, by simpa only [ItemsSuit] using suits⟩

theorem itemsSuit_each {item : Layout} {ds : List Document} (each : ∀ d ∈ ds, Suits item d) :
    ItemsSuit (.each item) ds := by
  induction ds with
  | nil => simp only [ItemsSuit]
  | cons d ds ih =>
    have rest := ih fun d' member => each d' (List.mem_cons_of_mem d member)
    exact ⟨each d List.mem_cons_self, rest⟩

theorem membersSuit_iff {layout : Layout} {ms : List (Option String × Document)} :
    MembersSuit layout ms ↔ ∀ m ∈ ms, Suits (layout.member m.1) m.2 := by
  induction ms with
  | nil => simp [MembersSuit]
  | cons m ms ih => simp [MembersSuit, ih]

mutual

theorem suits_free : ∀ d : Document, Suits .free d
  | .null | .bool _ | .number _ | .string _ => by simp only [Suits]
  | .array ds => by
    rw [Suits]
    exact itemsSuit_free ds
  | .object ms => by
    rw [Suits]
    exact membersSuit_free ms

theorem itemsSuit_free : ∀ ds : List Document, ItemsSuit (.each .free) ds
  | [] => by simp only [ItemsSuit]
  | d :: ds => ⟨suits_free d, itemsSuit_free ds⟩

theorem membersSuit_free : ∀ ms : List (Option String × Document), MembersSuit .free ms
  | [] => trivial
  | (_, d) :: ms => ⟨suits_free d, membersSuit_free ms⟩

end

/-! ### Reading -/

namespace Reading

/-- A token takes the reader from one state to the next, unless it is the comma at which a full run
of bytes must end. -/
theorem run_token {r r' : Reading} {cs rest : List Symbol} {t : Token}
    (read : Token.next? cs = some (t, rest)) (unclosed : t = .comma → r.closeRun? = none)
    (step : r.step t = some r') : r.run cs = r'.run rest := by
  cases cs with
  | nil => contradiction
  | cons s cs =>
    -- No token starts with a blank, so the reader takes its next part right here.
    have visible : isSpace s = false := by
      cases space : isSpace s with
      | false => rfl
      | true =>
        unfold isSpace at space
        split at space <;> contradiction
    have next : r.next? (s :: cs) = some (r', rest) := by
      unfold next?
      split
      next rest' closed start closes =>
        cases start
        have comma : t = .comma := (congrArg Prod.fst (Option.some.inj read)).symm
        rw [unclosed comma] at closes
        contradiction
      next => simp only [read, Option.bind_some, step, Option.map_some]
    rw [run, visible]
    simp only [Bool.false_eq_true, if_false]
    split
    next r'' rest' next' =>
      rw [next] at next'
      cases next'
      rfl
    next none =>
      rw [next] at none
      contradiction

/-- The tokens take the reader from one state to another, and none of them is a comma at which a run
of bytes must end. -/
inductive Path : Reading → List Token → Reading → Prop where
  | nil (r : Reading) : Path r [] r
  | step {r r' r'' : Reading} {t : Token} {ts : List Token} (step : r.step t = some r')
      (unclosed : t = .comma → r.closeRun? = none) (rest : Path r' ts r'') : Path r (t :: ts) r''

theorem Path.append {r r' r'' : Reading} {ts ts' : List Token} (path : Path r ts r')
    (path' : Path r' ts' r'') : Path r (ts ++ ts') r'' := by
  induction path with
  | nil => exact path'
  | step step unclosed _ ih => exact .step step unclosed (ih path')

theorem run_of_path {cs : List Symbol} {ts : List Token} (lexes : Lexes cs ts) {r r' : Reading}
    (path : Path r ts r') : r.run cs = r'.result? := by
  induction lexes generalizing r with
  | nil =>
    cases path
    rw [run]
  | blank blank _ ih =>
    rw [run, if_pos blank]
    exact ih path
  | token written ends _ ih =>
    cases path with
    | step step unclosed rest =>
      rw [run_token (Token.next?_of_written written ends) unclosed step]
      exact ih rest

/-- The reader expects a value. -/
def Awaits (r : Reading) (layout : Layout) (within : List Container) : Prop :=
  ∀ t, t ≠ .endArray → r.step t = start layout within t

theorem awaits_value (layout : Layout) (within : List Container) :
    (value layout within).Awaits layout within := fun _ _ => rfl

theorem awaits_firstItem (items : Items) (within : List Container) :
    (firstItem items within).Awaits items.next (.array items.afterNext [] :: within) := by
  intro t other
  cases t <;> first | rfl | contradiction

theorem closeRun?_of_ne {more : Items} (room : more ≠ .bytes 0) (d : Document)
    (items : List Document) (within : List Container) :
    (after d (.array more items :: within)).closeRun? = none := by
  cases more with
  | each | inTurn => rfl
  | bytes left =>
    cases left with
    | zero => contradiction
    | succ => rfl

mutual

theorem path_document : ∀ (d : Document) {layout : Layout} {within : List Container} {r : Reading},
    Suits layout d → r.Awaits layout within → Path r d.tokens (after d within)
  | .null, _, _, _, _, awaits => .step (awaits _ nofun) nofun (.nil _)
  | .bool _, _, _, _, _, awaits => .step (awaits _ nofun) nofun (.nil _)
  | .number _, _, _, _, _, awaits => .step (awaits _ nofun) nofun (.nil _)
  | .string _, _, _, _, _, awaits => .step (awaits _ nofun) nofun (.nil _)
  | .array [], _, _, _, _, awaits =>
    .step (awaits .beginArray nofun) nofun (.step rfl nofun (.nil _))
  | .array (d :: ds), layout, within, _, suits, awaits => by
    rw [Suits] at suits
    obtain ⟨_, first, rest⟩ := suits.cons
    exact .step (awaits .beginArray nofun) nofun
      ((path_document d first (awaits_firstItem _ within)).append (path_items ds rest))
  | .object [], _, _, _, _, awaits =>
    .step (awaits .beginObject nofun) nofun (.step rfl nofun (.nil _))
  | .object ((k, d) :: ms), layout, within, _, suits, awaits => by
    rw [Suits, MembersSuit] at suits
    exact .step (awaits .beginObject nofun) nofun (.step rfl nofun (.step rfl nofun
      ((path_document d suits.1 (awaits_value _ _)).append (path_members ms suits.2))))

theorem path_items : ∀ (ds : List Document) {more : Items} {d : Document} {items : List Document}
    {within : List Container}, ItemsSuit more ds →
    Path (after d (.array more items :: within)) (Document.itemsTokens ds)
      (after (.array ((d :: items).reverse ++ ds)) within)
  | [], _, _, _, _, _ => by
    rw [List.append_nil]
    exact .step rfl nofun (.nil _)
  | d' :: ds, more, d, items, within, suits => by
    obtain ⟨room, first, rest⟩ := suits.cons
    have path : Path (after d' (.array more.afterNext (d :: items) :: within)) _ _ :=
      path_items ds rest
    rw [List.reverse_cons, List.append_assoc] at path
    exact .step rfl (fun _ => closeRun?_of_ne room d items within)
      ((path_document d' first (awaits_value _ _)).append path)

theorem path_members : ∀ (ms : List (Option String × Document)) {layout : Layout} {d : Document}
    {members : List (Option String × Document)} {k : Option String} {within : List Container},
    MembersSuit layout ms →
    Path (after d (.object layout members k :: within)) (Document.membersTokens ms)
      (after (.object (((k, d) :: members).reverse ++ ms)) within)
  | [], _, _, _, _, _, _ => by
    rw [List.append_nil]
    exact .step rfl nofun (.nil _)
  | (k', d') :: ms, layout, d, members, k, within, suits => by
    have path : Path (after d' (.object layout ((k, d) :: members) k' :: within)) _ _ :=
      path_members ms suits.2
    rw [List.reverse_cons, List.append_assoc] at path
    exact .step rfl (fun _ => rfl) (.step rfl nofun (.step rfl nofun
      ((path_document d' suits.1 (awaits_value _ _)).append path)))

end

end Reading

namespace Document

variable {layout : Layout} {d : Document}

theorem ofSymbols?_of_written {cs : List Symbol} (written : d.WrittenBy cs)
    (suits : Suits layout d) : ofSymbols? layout cs = some d :=
  Reading.run_of_path written (Reading.path_document d suits (Reading.awaits_value layout []))

end Document

end BlockIndexer.Json

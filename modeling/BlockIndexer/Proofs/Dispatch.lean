import BlockIndexer.Dispatch
import BlockIndexer.Proofs.Store.WriteOnce

/-! What dispatches leave in the store. No height is ever lost, and a height that is dispatched is
stored afterwards, or its event says that it was dropped. -/

namespace BlockIndexer

/-- A source that answers a height with an error or with a block of that height. -/
def Source.Faithful (source : Source) : Prop := ∀ h b, source h = .ok b → b.height.toNat = h

namespace DispatchEvent

/-- The height that was dispatched. -/
def height? : DispatchEvent → Option Nat
  | .indexed height _ | .alreadyIndexed height | .dropped height _ => some height
  | .undecodable _ => none

def droppedHeight? : DispatchEvent → Option Nat
  | .dropped height _ => some height
  | .indexed _ _ | .alreadyIndexed _ | .undecodable _ => none

theorem mem_filterMap_droppedHeight? {events : List DispatchEvent} {h : Nat} :
    h ∈ events.filterMap droppedHeight? ↔ ∃ cause, .dropped h cause ∈ events := by
  rw [List.mem_filterMap]
  constructor
  · rintro ⟨event, hevent, eq⟩
    cases event <;> cases eq
    exact ⟨_, hevent⟩
  · rintro ⟨cause, hevent⟩
    exact ⟨_, hevent, rfl⟩

end DispatchEvent

theorem Tables.contains_addRows (t : Tables) (rows : BlockRows) (h : Nat) :
    (t.addRows rows).1.contains h = true ↔ h = rows.height ∨ t.contains h = true := by
  rw [contains_iff, blocks_addRows, contains_iff]
  constructor
  · rintro ⟨b, hb, rfl⟩
    rcases mem_placeBlock.mp hb with rfl | hb
    · exact .inl rfl
    · exact .inr ⟨b, hb, rfl⟩
  · rintro (rfl | ⟨b, hb, rfl⟩)
    · exact ⟨_, mem_placeBlock.mpr (.inl rfl), rfl⟩
    · exact ⟨b, mem_placeBlock.mpr (.inr hb), rfl⟩

namespace Store

variable {s : Store}

theorem contains_insert_of_contains {h : Nat} (stored : s.contains h = true) (b : Block) :
    (s.insert b).2.contains h = true := by
  rcases s.tables_insert b with same | ⟨rows, -, -, eq⟩
  · rw [contains, same]
    exact stored
  · rw [eq]
    exact (s.tables.contains_addRows rows h).mpr (.inr stored)

/-- After an insert that succeeds, the height of the block is stored. -/
theorem contains_of_insert_ok {b : Block} {o : Outcome} (ok : (s.insert b).1 = .ok o) :
    (s.insert b).2.contains b.height.toNat = true := by
  rcases s.insert_cases b with ⟨e, h⟩ | ⟨rows, h, hs⟩ | ⟨rows, position, h, hs, hp⟩ |
    ⟨rows, h, hs, hp⟩
  · rw [insert_unmapped h] at ok
    contradiction
  · rw [insert_repeated h hs, ← Block.height_of_toRows h]
    exact hs
  · rw [insert_failed h hs hp] at ok
    contradiction
  · rw [insert_written h hs hp, ← Block.height_of_toRows h]
    exact (s.tables.contains_addRows rows rows.height).mpr (.inl rfl)

end Store

namespace Database

variable {db : Database}

/-- An insert into a database is refused and changes nothing, or is the insert into its store. -/
theorem insert_cases (db : Database) (b : Block) :
    (∃ e, db.insert b = (.error e, db)) ∨
    db.insert b = ((db.store.insert b).1, { db with store := (db.store.insert b).2 }) := by
  unfold insert ask
  cases db.refusals.lookup .insertBlock with
  | some reason => exact .inl ⟨_, rfl⟩
  | none => exact .inr rfl

theorem contains_insert_of_contains {h : Nat} (stored : db.store.contains h = true) (b : Block) :
    (db.insert b).2.store.contains h = true := by
  rcases db.insert_cases b with ⟨e, eq⟩ | eq
  · rw [eq]
    exact stored
  · rw [eq]
    exact Store.contains_insert_of_contains stored b

theorem contains_of_insert_ok {b : Block} {o : Outcome} (ok : (db.insert b).1 = .ok o) :
    (db.insert b).2.store.contains b.height.toNat = true := by
  rcases db.insert_cases b with ⟨e, eq⟩ | eq
  · rw [eq] at ok
    contradiction
  · rw [eq] at ok ⊢
    exact Store.contains_of_insert_ok ok

theorem store?_snd (db : Database) (height : Nat) (b : Block) :
    (db.store? height b).2 = (db.insert b).2 := by
  unfold store?
  split
  next h => rw [h]
  next h =>
    rw [h]
    split <;> rfl

theorem store?_fst (db : Database) (height : Nat) (b : Block) :
    (∃ o, (db.insert b).1 = .ok o) ∨ ∃ cause, (db.store? height b).1 = .dropped height cause := by
  unfold store?
  split
  next e db' h => exact .inr ⟨e, rfl⟩
  next o db' h => exact .inl ⟨o, by rw [h]⟩

/-- Storing a block leaves the tables alone, because its height is stored or for a cause that is
reported, or it adds the rows of the block. -/
theorem store?_cases (c : db.store.tables.Consistent) (height : Nat) (b : Block) :
    ((db.store? height b).2.store.tables = db.store.tables ∧
      ((db.store? height b).1 = .alreadyIndexed height ∧
          db.store.contains b.height.toNat = true ∨
        ∃ cause, (db.store? height b).1 = .dropped height cause)) ∨
    ∃ rows, b.toRows db.store.policy = .ok rows ∧ db.store.contains rows.height = false ∧
      (db.store? height b).1 = .indexed height rows.outcome ∧
      (db.store? height b).2.store.tables = (db.store.tables.addRows rows).1 := by
  rw [store?_snd]
  rcases db.insert_cases b with ⟨e, eq⟩ | eq
  · exact .inl ⟨by rw [eq], .inr ⟨e, by simp only [store?, eq]⟩⟩
  · rcases db.store.insert_cases b with ⟨e, h⟩ | ⟨rows, h, hs⟩ | ⟨rows, position, h, hs, hp⟩ |
      ⟨rows, h, hs, hp⟩
    · rw [Store.insert_unmapped h] at eq
      exact .inl ⟨by rw [eq], .inr ⟨e, by simp only [store?, eq]⟩⟩
    · rw [Store.insert_repeated h hs] at eq
      rw [Block.height_of_toRows h] at hs
      refine .inl ⟨by rw [eq], .inl ⟨?_, hs⟩⟩
      simp only [store?, eq]
      rfl
    · rw [Store.insert_failed h hs hp] at eq
      exact .inl ⟨by rw [eq], .inr ⟨Store.injectedFailure rows.height position,
        by simp only [store?, eq]⟩⟩
    · rw [Store.insert_written_eq c h hs hp] at eq
      refine .inr ⟨rows, h, hs, ?_, by rw [eq]⟩
      simp only [store?, eq]
      rfl

theorem height?_store? (db : Database) (height : Nat) (b : Block) :
    (db.store? height b).1.height? = some height := by
  unfold store?
  split
  · rfl
  · split <;> rfl

/-- Each dispatch reports on its height. -/
theorem height?_dispatch (db : Database) (source : Source) (height : Nat) :
    (db.dispatch source height).1.height? = some height := by
  unfold dispatch
  split
  · rfl
  · exact db.height?_store? height _

/-- A dispatch inserts the block that its source gives, or leaves the database alone. -/
theorem dispatch_snd (db : Database) (source : Source) (height : Nat) :
    (db.dispatch source height).2 = db ∨
      ∃ b, source height = .ok b ∧ (db.dispatch source height).2 = (db.insert b).2 := by
  unfold dispatch
  split
  · exact .inl rfl
  next b fetched => exact .inr ⟨b, fetched, db.store?_snd height b⟩

theorem contains_dispatch_of_contains {h : Nat} (stored : db.store.contains h = true)
    (source : Source) (height : Nat) : (db.dispatch source height).2.store.contains h = true := by
  unfold dispatch
  split
  · exact stored
  next b _ =>
    rw [store?_snd]
    exact contains_insert_of_contains stored b

/-- A dispatched height is stored or dropped. -/
theorem contains_or_dropped {source : Source} (faithful : source.Faithful) (db : Database)
    (height : Nat) :
    (db.dispatch source height).2.store.contains height = true ∨
      ∃ cause, (db.dispatch source height).1 = .dropped height cause := by
  unfold dispatch
  split
  next e _ => exact .inr ⟨e, rfl⟩
  next b fetched =>
    rcases db.store?_fst height b with ⟨o, ok⟩ | dropped
    · rw [store?_snd, ← faithful height b fetched]
      exact .inl (contains_of_insert_ok ok)
    · exact .inr dropped

end Database

end BlockIndexer

import BlockIndexer.Proofs.Queue
import Mathlib.Algebra.Order.Group.Multiset
import Mathlib.Data.Multiset.Sort

/-! A queue that several parties share. They take turns in any order, each of them with as many
pushes and pops as it likes. Whatever the order, every height that was put in is handed out once or
still waits, the highest one first, and a queue that is drained gives what is left in falling
order. -/

namespace BlockIndexer.Queue

/-- What one of the parties does while the queue is its own. -/
inductive Turn (party : Type) where
  | push (who : party) (height : Nat)
  | pop (who : party)
  deriving DecidableEq, Repr

def Turn.pushed? {party : Type} : Turn party → Option Nat
  | .push _ h => some h
  | .pop _ => none

/-- A queue with the account of its pops, the first one first: who asked, and what it got. -/
structure Shared (party : Type) where
  queue : Queue
  answers : List (party × Option Nat)
  deriving DecidableEq, Repr

variable {party : Type}

namespace Shared

def start : Shared party := ⟨empty, []⟩

def turn (s : Shared party) : Turn party → Shared party
  | .push _ h => { s with queue := s.queue.push h }
  | .pop who =>
    match s.queue.pop? with
    | none => { s with answers := s.answers ++ [(who, none)] }
    | some (h, q) => ⟨q, s.answers ++ [(who, some h)]⟩

def run (s : Shared party) (turns : List (Turn party)) : Shared party := turns.foldl turn s

end Shared

/-- The heights in the queue, each as often as it is there. -/
def contents (q : Queue) : Multiset Nat := q.toList

/-- The heights that turns put into a queue. -/
def pushed (turns : List (Turn party)) : Multiset Nat := turns.filterMap Turn.pushed?

/-- The heights that answers handed out, in their order. -/
def handedOut (answers : List (party × Option Nat)) : List Nat := answers.filterMap (·.2)

/-! ### What the queue holds -/

theorem contents_push (q : Queue) (h : Nat) : (q.push h).contents = h ::ₘ q.contents :=
  Multiset.coe_eq_coe.mpr (place_perm h q.toList)

theorem contents_of_head {q q' : Queue} {h : Nat} (head : q.toList = h :: q'.toList) :
    q.contents = h ::ₘ q'.contents := by
  rw [contents, head]
  rfl

theorem pop?_eq_none_iff {q : Queue} : q.pop? = none ↔ q.toList = [] := by
  obtain ⟨hs, sorted⟩ := q
  cases hs <;> simp [pop?]

theorem card_contents (q : Queue) : q.contents.card = q.size := Multiset.coe_card q.toList

theorem sort_contents (q : Queue) : q.contents.sort (· ≥ ·) = q.toList := by
  apply List.Perm.eq_of_pairwise' (r := (· ≥ ·))
  · exact Multiset.pairwise_sort q.contents (· ≥ ·)
  · exact q.sorted
  · exact Multiset.coe_eq_coe.mp (Multiset.sort_eq q.contents (· ≥ ·))

/-! ### Turns -/

namespace Shared

variable {s : Shared party}

theorem run_append (s : Shared party) (turns more : List (Turn party)) :
    s.run (turns ++ more) = (s.run turns).run more :=
  List.foldl_append

/-- A pop gets nothing from an empty queue, and else takes its head. -/
theorem pop_cases (s : Shared party) (who : party) :
    (s.queue.toList = [] ∧ s.turn (.pop who) = ⟨s.queue, s.answers ++ [(who, none)]⟩) ∨
    ∃ h q, s.queue.toList = h :: q.toList ∧
      s.turn (.pop who) = ⟨q, s.answers ++ [(who, some h)]⟩ := by
  rw [turn]
  cases popped : s.queue.pop? with
  | none => exact .inl ⟨pop?_eq_none_iff.mp popped, rfl⟩
  | some answer =>
    obtain ⟨h, q⟩ := answer
    exact .inr ⟨h, q, pop?_eq_some_iff.mp popped, rfl⟩

/-- A turn moves heights, and neither makes nor loses one. -/
theorem turn_conserves (s : Shared party) (t : Turn party) :
    (handedOut (s.turn t).answers : Multiset Nat) + (s.turn t).queue.contents =
      pushed [t] + (handedOut s.answers + s.queue.contents) := by
  cases t with
  | push who h =>
    rw [turn, contents_push, Multiset.add_cons]
    exact (Multiset.singleton_add h _).symm
  | pop who =>
    rcases s.pop_cases who with ⟨nothing, after⟩ | ⟨h, q, head, after⟩
    · rw [after]
      simp [pushed, handedOut, Turn.pushed?]
    · rw [after, contents_of_head head]
      simp [pushed, handedOut, Turn.pushed?, ← Multiset.coe_add, add_assoc]

theorem run_conserves (s : Shared party) (turns : List (Turn party)) :
    (handedOut (s.run turns).answers : Multiset Nat) + (s.run turns).queue.contents =
      pushed turns + (handedOut s.answers + s.queue.contents) := by
  induction turns generalizing s with
  | nil => exact (zero_add _).symm
  | cons t turns ih =>
    have all : pushed (t :: turns) = pushed turns + pushed [t] := by
      rw [add_comm, pushed, pushed, pushed, Multiset.coe_add, ← List.filterMap_append]
      rfl
    rw [all, add_assoc, ← turn_conserves]
    exact ih (s.turn t)

/-- What is put into an empty queue has been handed out or waits in it. -/
theorem pushed_eq (turns : List (Turn party)) :
    pushed turns = handedOut (start.run turns).answers + (start.run turns).queue.contents :=
  ((run_conserves start turns).trans (add_zero _)).symm

theorem turn_pop (s : Shared party) (who : party) :
    s.turn (.pop who) = ⟨s.queue.drop 1, s.answers ++ [(who, s.queue.toList.head?)]⟩ := by
  rcases s.pop_cases who with ⟨nothing, after⟩ | ⟨h, q, head, after⟩
  · have unchanged : s.queue.drop 1 = s.queue := by
      apply toList_inj.mp
      rw [toList_drop, nothing, List.drop_nil]
    rw [after, unchanged, nothing, List.head?_nil]
  · have rest : s.queue.drop 1 = q := by
      apply toList_inj.mp
      rw [toList_drop, head, List.drop_succ_cons, List.drop_zero]
    rw [after, rest, head, List.head?_cons]

/-- Pops in a row hand out the queue from its head on, each to the party that asks. -/
theorem run_pops (s : Shared party) (parties : List party) :
    ∃ more, s.run (parties.map .pop) = ⟨s.queue.drop parties.length, s.answers ++ more⟩ ∧
      more.map (·.1) = parties ∧ handedOut more = s.queue.toList.take parties.length := by
  induction parties generalizing s with
  | nil => exact ⟨[], by rw [List.append_nil]; rfl, rfl, rfl⟩
  | cons who parties ih =>
    obtain ⟨more, after, asked, heights⟩ := ih (s.turn (.pop who))
    rw [turn_pop] at after heights
    refine ⟨(who, s.queue.toList.head?) :: more, ?_, ?_, ?_⟩
    · rw [List.map_cons, run, List.foldl_cons, turn_pop, ← run, after, drop_drop, Nat.add_comm,
        List.append_assoc]
      rfl
    · rw [List.map_cons, asked]
    · rw [toList_drop] at heights
      cases toList : s.queue.toList with
      | nil =>
        rw [toList, List.drop_nil, List.take_nil] at heights
        exact heights
      | cons h hs =>
        rw [toList, List.drop_succ_cons, List.drop_zero] at heights
        rw [List.length_cons, List.take_succ_cons, ← heights]
        rfl

/-- However the parties take turns, a pop gets nothing only from an empty queue, and else one copy
of the highest height. What was put in has been handed out or waits, pops in a row fall, and enough
of them hand out all that waits, in falling order. -/
theorem lossless (turns : List (Turn party)) :
    let s : Shared party := start.run turns
    (∀ who, ∃ answer, (s.turn (.pop who)).answers = s.answers ++ [(who, answer)] ∧
      (answer = none ↔ s.queue.isEmpty = true) ∧
      (answer = none → (s.turn (.pop who)).queue = s.queue) ∧
      ∀ h, answer = some h → (∀ x ∈ s.queue.contents, x ≤ h) ∧
        s.queue.contents = h ::ₘ (s.turn (.pop who)).queue.contents) ∧
    pushed turns = handedOut s.answers + s.queue.contents ∧
    s.queue.size = s.queue.contents.card ∧
    ∀ parties : List party, ∃ more,
      (start.run (turns ++ parties.map .pop)).answers = s.answers ++ more ∧
      more.map (·.1) = parties ∧ (handedOut more).Pairwise (· ≥ ·) ∧
      (s.queue.size ≤ parties.length →
        handedOut more = (pushed turns - handedOut s.answers).sort (· ≥ ·) ∧
        (start.run (turns ++ parties.map .pop)).queue.isEmpty = true) := by
  intro s
  refine ⟨fun who => ?_, pushed_eq turns, (card_contents s.queue).symm, fun parties => ?_⟩
  · rcases s.pop_cases who with ⟨nothing, after⟩ | ⟨h, q, head, after⟩
    · refine ⟨none, by rw [after], ?_, fun _ => by rw [after], nofun⟩
      simp [isEmpty_iff, nothing]
    · refine ⟨some h, by rw [after], ?_, nofun, ?_⟩
      · simp [isEmpty_iff, head]
      · rintro _ ⟨⟩
        rw [after]
        exact ⟨fun x mem => le_head head (Multiset.mem_coe.mp mem), contents_of_head head⟩
  · obtain ⟨more, after, asked, heights⟩ := s.run_pops parties
    rw [run_append, after]
    refine ⟨more, rfl, asked, ?_, fun enough => ?_⟩
    · rw [heights]
      exact s.queue.sorted.take
    · have left : pushed turns - handedOut s.answers = s.queue.contents := by
        rw [pushed_eq, add_tsub_cancel_left]
      rw [left, sort_contents, heights, isEmpty_iff, toList_drop]
      exact ⟨List.take_of_length_le enough, List.drop_eq_nil_of_le enough⟩

/-- Two producers and two consumers. -/
example : (start.run [.push 0 12, .push 1 11, .push 1 12, .pop 2, .pop 3, .push 0 9, .pop 3,
      .pop 2, .pop 2]).answers =
    [(2, some 12), (3, some 12), (3, some 11), (2, some 9), (2, none)] := by
  decide

end Shared

end BlockIndexer.Queue

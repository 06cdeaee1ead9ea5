import BlockIndexer.Proofs.Rpc.Exchange
import Mathlib.Data.ENat.Lattice

/-! How calls use up the replies of a node. Each call sends its request once, and again for each
reply at the head that is no response, as often as the client retries. It takes no other replies,
so the next call finds those that follow, and retries take no ids. -/

namespace BlockIndexer.Rpc

open Json (Document Value)

instance (reply : Reply) : Decidable reply.Fails :=
  inferInstanceAs (Decidable (reply.status < 200 ∨ 300 ≤ reply.status ∨
    Response.ofString? reply.body = none))

/-- What the request in place `i`, counted from 0, gets from a node that has these replies. -/
def answerAt (replies : List Reply) (i : Nat) : Except TransportFailure Response :=
  match replies[i]? with
  | some reply => reply.response
  | none => .error .noAnswer

/-- How many requests in a row get no response. A node that has no replies left never gives one. -/
def failures : List Reply → ℕ∞
  | [] => ⊤
  | reply :: replies => if reply.Fails then failures replies + 1 else 0

/-- The result of a call is the one that the response decides on: the fault, if it has one, or else
what its value reads as, where no value counts as null. -/
structure Settles {α : Type} (method : String) (read : Document → Option α) (response : Response)
    (result : Except CallError α) : Prop where
  fault : ∀ fault, response.fault = some fault → result = .error (.fault fault)
  value : response.fault = none → ∀ a, read (response.result.getD .null).document = some a →
    result = .ok a
  garbled : response.fault = none → read (response.result.getD .null).document = none →
    result = .error (.decode method)

/-! ### Failures at the head -/

theorem answerAt_drop (replies : List Reply) (i : Nat) :
    answerAt (replies.drop 1) i = answerAt replies (i + 1) := by
  rw [answerAt, answerAt, List.getElem?_drop, Nat.add_comm]

theorem failures_of_ok {replies : List Reply} {response : Response}
    (ok : answerAt replies 0 = .ok response) : failures replies = 0 := by
  cases replies with
  | nil => contradiction
  | cons reply replies =>
    have answered : reply.response = .ok response := ok
    apply if_neg
    intro fails
    obtain ⟨failure, failed⟩ := Reply.fails_iff.mp fails
    rw [answered] at failed
    contradiction

theorem failures_cons_of_fails {reply : Reply} (fails : reply.Fails) (replies : List Reply) :
    failures (reply :: replies) = failures replies + 1 := if_pos fails

theorem failures_of_error {replies : List Reply} {failure : TransportFailure}
    (error : answerAt replies 0 = .error failure) :
    failures replies = failures (replies.drop 1) + 1 := by
  cases replies with
  | nil => rfl
  | cons reply replies =>
    have fails : reply.Fails := Reply.fails_iff.mpr ⟨failure, error⟩
    exact failures_cons_of_fails fails replies

/-- The requests before the first response are those that fail. -/
theorem answerAt_of_lt {replies : List Reply} {n : Nat} (before : (n : ℕ∞) < failures replies) :
    ∃ failure, answerAt replies n = .error failure := by
  induction n generalizing replies with
  | zero =>
    cases first : answerAt replies 0 with
    | ok response =>
      rw [failures_of_ok first] at before
      exact absurd before (lt_irrefl _)
    | error failure => exact ⟨failure, rfl⟩
  | succ n ih =>
    cases first : answerAt replies 0 with
    | ok response =>
      rw [failures_of_ok first] at before
      exact absurd before not_lt_zero
    | error failure =>
      rw [failures_of_error first, Nat.cast_succ] at before
      rw [← answerAt_drop]
      exact ih ((ENat.add_lt_add_iff_right ENat.one_ne_top).mp before)

theorem answerAt_of_eq {replies : List Reply} {n : Nat} (first : failures replies = n) :
    ∃ response, answerAt replies n = .ok response := by
  induction n generalizing replies with
  | zero =>
    cases head : answerAt replies 0 with
    | ok response => exact ⟨response, rfl⟩
    | error failure =>
      rw [failures_of_error head] at first
      exact absurd first (by simp)
  | succ n ih =>
    cases head : answerAt replies 0 with
    | ok response =>
      rw [failures_of_ok head] at first
      exact absurd first.symm (by simp)
    | error failure =>
      rw [failures_of_error head, Nat.cast_succ] at first
      rw [← answerAt_drop]
      exact ih (ENat.add_left_injective_of_ne_top ENat.one_ne_top first)

/-! ### One call -/

/-- The node after it has got a request so many times. -/
def Node.afterRequests (node : Node) (request : Request) (count : Nat) : Node :=
  { node with
    replies := node.replies.drop count
    requests := node.requests ++ List.replicate count request }

theorem Node.post_eq {node : Node} (reachable : node.reachable = true) (request : Request) :
    node.post request = (answerAt node.replies 0, node.afterRequests request 1) := by
  rw [post, if_pos reachable]
  cases replies : node.replies with
  | nil =>
    rw [afterRequests, replies]
    rfl
  | cons reply rest =>
    rw [afterRequests, replies]
    rfl

theorem Node.afterRequests_afterRequests (node : Node) (request : Request) (m n : Nat) :
    (node.afterRequests request m).afterRequests request n =
      node.afterRequests request (m + n) := by
  simp only [afterRequests, List.drop_drop, List.append_assoc, List.replicate_append_replicate]

namespace Client

theorem exchange_of_ok {backoff : Backoff} {request : Request} {attempt : Nat} {node : Node}
    {response : Response} (reachable : node.reachable = true)
    (ok : answerAt node.replies 0 = .ok response) :
    exchange backoff request attempt node = (.ok response, node.afterRequests request 1) := by
  rw [exchange, Node.post_eq reachable request, ok]

/-- A request is sent again after each failure at the head, as long as retries are left. -/
theorem exchange_eq {backoff : Backoff} (request : Request) {attempt retries : Nat}
    (positive : 0 < attempt) (left : attempt + retries = backoff.maxRetries + 1) {node : Node}
    (reachable : node.reachable = true) :
    ∃ n : Nat, (n : ℕ∞) = min (retries : ℕ∞) (failures node.replies) ∧
      exchange backoff request attempt node =
        (answerAt node.replies n, node.afterRequests request (n + 1)) := by
  induction retries generalizing attempt node with
  | zero =>
    refine ⟨0, by simp, ?_⟩
    cases first : answerAt node.replies 0 with
    | ok response => exact exchange_of_ok reachable first
    | error failure =>
      have post := Node.post_eq reachable request
      rw [first] at post
      rw [exchange_of_fails post, if_neg (by omega)]
  | succ retries ih =>
    cases first : answerAt node.replies 0 with
    | ok response =>
      refine ⟨0, by simp [failures_of_ok first], ?_⟩
      rw [first]
      exact exchange_of_ok reachable first
    | error failure =>
      have post := Node.post_eq reachable request
      rw [first] at post
      have next : (node.afterRequests request 1).reachable = true := reachable
      obtain ⟨n, least, exchanged⟩ := ih (Nat.succ_pos attempt) (by omega) next
      refine ⟨n + 1, ?_, ?_⟩
      · rw [failures_of_error first, Nat.cast_succ, Nat.cast_succ, min_add_add_right, least]
        rfl
      · rw [exchange_of_fails post, if_pos (by omega), exchanged,
          Node.afterRequests_afterRequests, Nat.add_comm 1 (n + 1)]
        exact congrArg (Prod.mk · _) (answerAt_drop node.replies n)

variable {α : Type} {c c' : Client}

/-- The result of a call whose last request gets this answer. -/
def settled (method : String) (read : Document → Option α) :
    Except TransportFailure Response → Except CallError α
  | .error failure => .error (.transport failure)
  | .ok response => match response.outcome with
    | .error fault => .error (.fault fault)
    | .ok value => match read value.document with
      | some a => .ok a
      | none => .error (.decode method)

theorem settles_settled (method : String) (read : Document → Option α) (response : Response) :
    Settles method read response (settled method read (.ok response)) := by
  constructor
  case fault =>
    intro fault faulty
    rw [settled, Response.outcome, faulty]
  case value =>
    intro sound a decoded
    rw [settled, Response.outcome, sound]
    simp only [decoded]
  case garbled =>
    intro sound undecoded
    rw [settled, Response.outcome, sound]
    simp only [undecoded]

theorem call_eq (reachable : c.node.reachable = true) (method : String) (params : Value)
    (read : Document → Option α) :
    ∃ n : Nat, (n : ℕ∞) = min (c.backoff.maxRetries : ℕ∞) (failures c.node.replies) ∧
      c.call method params read = (settled method read (answerAt c.node.replies n),
        ⟨c.backoff, c.nextId + 1,
          c.node.afterRequests (.call c.nextId method params) (n + 1)⟩) := by
  obtain ⟨n, least, exchanged⟩ := exchange_eq (.call c.nextId method params) Nat.one_pos
    (Nat.add_comm 1 c.backoff.maxRetries) reachable
  refine ⟨n, least, ?_⟩
  rw [call, exchanged]
  cases answerAt c.node.replies n with
  | error failure => rfl
  | ok response =>
    dsimp only [settled]
    cases response.outcome with
    | error fault => rfl
    | ok value => cases decoded : read value.document <;> simp only [decoded]

/-! ### Calls one after the other -/

/-- The client has made so many calls, whatever they asked for and whatever they came to. -/
inductive Called (start : Client) : Nat → Client → Prop where
  | none : Called start 0 start
  | next {calls : Nat} {c : Client} {α : Type} (method : String) (params : Value)
      (read : Document → Option α) :
      Called start calls c → Called start (calls + 1) (c.call method params read).2

/-- What all calls leave as it is, and what they count: the ids the calls, and the replies that are
left the requests. -/
structure Keeps (backoff : Backoff) (script : List Reply) (calls : Nat) (c : Client) : Prop where
  backoff : c.backoff = backoff
  nextId : c.nextId = .ofNat (calls + 1)
  reachable : c.node.reachable = true
  replies : c.node.replies = script.drop c.node.requests.length

theorem Keeps.call {backoff : Backoff} {script : List Reply} {calls : Nat}
    (keeps : Keeps backoff script calls c) (method : String) (params : Value)
    (read : Document → Option α) :
    Keeps backoff script (calls + 1) (c.call method params read).2 := by
  obtain ⟨n, -, called⟩ := call_eq keeps.reachable method params read
  rw [called]
  constructor
  case backoff => exact keeps.backoff
  case nextId =>
    show c.nextId + 1 = _
    rw [keeps.nextId, UInt64.ofNat_add (calls + 1)]
    rfl
  case reachable => exact keeps.reachable
  case replies =>
    show c.node.replies.drop _ = script.drop (List.length (_ ++ _))
    rw [keeps.replies, List.drop_drop, List.length_append, List.length_replicate]

theorem Called.keeps {backoff : Backoff} {script : List Reply} {calls : Nat}
    (called : (connect backoff (.scripted true script)).Called calls c) :
    Keeps backoff script calls c := by
  induction called with
  | none => exact ⟨rfl, rfl, rfl, rfl⟩
  | next method params read _ ih => exact ih.call method params read

/-- Whatever calls came before, a call sends its request once and again for each failure at the
head of the replies that are left, as long as it has retries. These are the replies it takes. The
first response settles it, and without one the failure of the last attempt does. All its requests
are the same, with the number of the call as their id. -/
theorem call_exact {backoff : Backoff} (few : backoff.maxRetries + 1 < 2 ^ 32)
    {script : List Reply} {calls : Nat}
    (called : (connect backoff (.scripted true script)).Called calls c) (method : String)
    (params : Value) (read : Document → Option α) :
    let rest := script.drop c.node.requests.length
    let request := Request.call (.ofNat (calls + 1)) method params
    let after := (c.call method params read).2
    let result := (c.call method params read).1
    ∃ retries : Nat,
      (retries : ℕ∞) = min (backoff.maxRetries : ℕ∞) (failures rest) ∧
      FitsIn 32 (1 + retries) ∧
      c.node.replies = rest ∧ after.node.replies = rest.drop (1 + retries) ∧
      after.node.requests = c.node.requests ++ List.replicate (1 + retries) request ∧
      (failures rest ≤ backoff.maxRetries → failures rest = retries ∧
        ∃ response, answerAt rest retries = .ok response ∧ Settles method read response result) ∧
      (backoff.maxRetries < failures rest → retries = backoff.maxRetries ∧
        ∃ failure, answerAt rest retries = .error failure ∧
          result = .error (.transport failure)) := by
  intro rest request after result
  have keeps := called.keeps
  obtain ⟨retries, least, outcome⟩ := call_eq keeps.reachable method params read
  rw [keeps.backoff, keeps.replies] at least
  rw [keeps.nextId, keeps.replies] at outcome
  have node : after.node = c.node.afterRequests request (1 + retries) := by
    show (c.call method params read).2.node = _
    rw [outcome, Nat.add_comm 1]
  have settling : result = settled method read (answerAt rest retries) := congrArg Prod.fst outcome
  have bound : retries ≤ backoff.maxRetries := by
    have le : (retries : ℕ∞) ≤ backoff.maxRetries := least ▸ min_le_left ..
    exact_mod_cast le
  refine ⟨retries, least, ?_, keeps.replies, ?_, ?_, fun within => ?_, fun beyond => ?_⟩
  · rw [FitsIn, Nat.one_shiftLeft]
    omega
  · rw [node, Node.afterRequests, keeps.replies]
  · rw [node, Node.afterRequests]
  · have first : failures rest = retries := by rw [least, min_eq_right within]
    obtain ⟨response, ok⟩ := answerAt_of_eq first
    rw [settling, ok]
    exact ⟨first, response, rfl, settles_settled method read response⟩
  · have all : retries = backoff.maxRetries := by
      rw [min_eq_left beyond.le] at least
      exact_mod_cast least
    obtain ⟨failure, error⟩ := answerAt_of_lt (all ▸ beyond)
    rw [settling, error]
    exact ⟨all, failure, rfl, rfl⟩

/-- A fault with a result beside it. -/
def faulty : Response := ⟨"2.0", .number 1, some (Json.nat 7), some ⟨-32601, "not found", none⟩⟩

def seven : Response := ⟨"2.0", .number 2, some (Json.nat 7), none⟩

/-- A node that is busy, loses the connection and then gives a fault. After that it sends a text
that is no response, and a number. -/
def unsteady : List Reply :=
  [⟨503, ""⟩, ⟨0, ""⟩, .ofResponse faulty, ⟨200, "\x7b\x7d"⟩, .ofResponse seven]

theorem response_ofResponse (response : Response) (p : Response → Bool)
    (reads : (Response.ofDocument? (Json.document response.toValue)).any p = true) :
    ∃ response', (Reply.ofResponse response).response = .ok response' ∧ p response' = true := by
  obtain ⟨response', document, holds⟩ := (Option.any_eq_true _ _).mp reads
  exact ⟨response', Reply.response_of document, holds⟩

/-- A client that retries twice gets the fault with its third request, and the number with the
second request of its next call. -/
theorem unsteady_settled :
    let start : Client := connect ⟨2, 0, 0, 2⟩ (.scripted true unsteady)
    let first := start.call "status" .null Document.uint64?
    let second := first.2.call "status" .null Document.uint64?
    (∃ fault, first.1 = .error (.fault fault)) ∧ first.2.node.requests.length = 3 ∧
      second.1 = .ok 7 ∧ second.2.node.requests.length = 5 := by
  intro start first second
  obtain ⟨r, answered, faulty⟩ := response_ofResponse faulty
    (fun response => response.fault.isSome) (by decide +kernel)
  obtain ⟨r', answered', sound⟩ := response_ofResponse seven (fun response =>
    response.fault.isNone && decide (Document.uint64? (response.result.getD .null).document =
      some 7)) (by decide +kernel)
  -- What the theorem says of a call that fails `n` times, which is not more often than it retries.
  have settled : ∀ {calls : Nat} {c : Client} {n : Nat}, start.Called calls c →
      failures (unsteady.drop c.node.requests.length) = n → n ≤ 2 →
      ∃ response, answerAt (unsteady.drop c.node.requests.length) n = .ok response ∧
        Settles "status" Document.uint64? response (c.call "status" .null Document.uint64?).1 ∧
        (c.call "status" .null Document.uint64?).2.node.requests.length =
          c.node.requests.length + (1 + n) := by
    intro calls c n called fails few
    obtain ⟨retries, -, -, -, -, requests, within, -⟩ :=
      call_exact (by decide) called "status" .null Document.uint64?
    obtain ⟨same, response, ok, settles⟩ := within (by rw [fails]; exact_mod_cast few)
    have all : n = retries := by exact_mod_cast fails.symm.trans same
    subst all
    refine ⟨response, ok, settles, ?_⟩
    rw [requests, List.length_append, List.length_replicate]
  have two : failures unsteady = 2 := by
    have last : failures (unsteady.drop 2) = 0 := failures_of_ok answered
    rw [unsteady, failures_cons_of_fails (by decide), failures_cons_of_fails (by decide)]
    exact congrArg (· + 1 + 1) last
  have one : failures (unsteady.drop 3) = 1 := by
    have last : failures (unsteady.drop 4) = 0 := failures_of_ok answered'
    refine (failures_cons_of_fails (by decide +kernel) _).trans ?_
    exact congrArg (· + 1) last
  obtain ⟨_, ok, settles, length⟩ := settled .none two (Nat.le_refl 2)
  cases answered.symm.trans ok
  obtain ⟨fault, faulty⟩ := Option.isSome_iff_exists.mp faulty
  have called : start.Called 1 first.2 := .next _ _ _ .none
  have three : first.2.node.requests.length = 3 := length
  obtain ⟨_, ok', settles', length'⟩ := settled called (three ▸ one) (Nat.le_succ 1)
  rw [three] at ok' length'
  cases answered'.symm.trans ok'
  obtain ⟨sound, decodes⟩ := Bool.and_eq_true_iff.mp sound
  exact ⟨⟨fault, settles.fault fault faulty⟩, three,
    settles'.value (Option.isNone_iff_eq_none.mp sound) 7 (of_decide_eq_true decodes), length'⟩

end Client

end BlockIndexer.Rpc

import BlockIndexer.Proofs.Json.RoundTrip
import BlockIndexer.Rpc.Client

/-! What a call comes to. Replies that are no responses only make the client send the request again,
as often as it retries; the first response answers it. A node has noted the requests of the
exchanges that its client had with it, in their order, and no others. -/

namespace BlockIndexer.Rpc

open Json (Document Value)

/-- A reply that is no response, by its status or by its body. -/
def Reply.Fails (reply : Reply) : Prop :=
  reply.status < 200 ∨ 300 ≤ reply.status ∨ Response.ofString? reply.body = none

theorem Reply.fails_iff {reply : Reply} :
    reply.Fails ↔ ∃ failure, reply.response = .error failure := by
  have success : reply.isSuccess = true ↔ ¬ (reply.status < 200 ∨ 300 ≤ reply.status) := by
    rw [isSuccess, Bool.and_eq_true, decide_eq_true_iff, decide_eq_true_iff]
    omega
  rw [Fails, ← or_assoc, response]
  split
  next h =>
    rw [or_iff_right (success.mp h)]
    cases Response.ofString? reply.body <;> simp
  next h =>
    rw [success, Classical.not_not] at h
    split <;> exact ⟨fun _ => ⟨_, rfl⟩, fun _ => .inl h⟩

/-- The reply that a response is written as. -/
def Reply.ofResponse (response : Response) : Reply := ⟨200, response.toValue.text⟩

theorem Reply.response_of {response response' : Response}
    (read : Response.ofDocument? (Json.document response.toValue) = some response') :
    (ofResponse response).response = .ok response' := by
  have success : (ofResponse response).isSuccess = true := rfl
  rw [Reply.response, if_pos success, ofResponse, Response.ofString?, Document.ofString?,
    Document.ofText?_text (Json.suits_free _), Option.bind_some, read]

/-- A request with the reply that answers it. -/
structure Exchange where
  request : Request
  /-- The replies before it, after each of which the request was sent again. -/
  failed : List Reply
  answer : Reply
  response : Response
  fails : ∀ reply ∈ failed, reply.Fails
  answers : answer.response = .ok response

namespace Exchange

def replies (x : Exchange) : List Reply := x.failed ++ [x.answer]

/-- The requests as the node notes them, one for each reply. -/
def requests (x : Exchange) : List Request := List.replicate x.replies.length x.request

/-- The result of the call, or what is wrong with the answer. -/
def result {α : Type} (x : Exchange) (method : String) (read : Document → Option α) :
    Except CallError α :=
  match x.response.outcome with
  | .error fault => .error (.fault fault)
  | .ok value => match read value.document with
    | some a => .ok a
    | none => .error (.decode method)

/-- The response is no fault, and its result decodes. -/
def Gives {α : Type} (x : Exchange) (read : Document → Option α) (a : α) : Prop :=
  ∃ value, x.response.outcome = .ok value ∧ read value.document = some a

/-- The response is no fault, and its result does not decode. -/
def Garbles {α : Type} (x : Exchange) (read : Document → Option α) : Prop :=
  ∃ value, x.response.outcome = .ok value ∧ read value.document = none

variable {α : Type} {x : Exchange} {method : String} {read : Document → Option α} {a : α}

theorem result_of_gives (gives : x.Gives read a) : x.result method read = .ok a := by
  obtain ⟨value, outcome, decoded⟩ := gives
  rw [result, outcome]
  simp only [decoded]

theorem result_of_garbles (garbles : x.Garbles read) :
    x.result method read = .error (.decode method) := by
  obtain ⟨value, outcome, decoded⟩ := garbles
  rw [result, outcome]
  simp only [decoded]

theorem result_of_fault {fault : Fault} (h : x.response.fault = some fault) :
    x.result method read = .error (.fault fault) := by
  have outcome : x.response.outcome = .error fault := by rw [Response.outcome, h]
  rw [result, outcome]

theorem gives_of_any {p : α → Bool} (holds : (x.response.outcome.toOption.bind fun value =>
    read value.document).any p = true) : ∃ a, x.Gives read a ∧ p a = true := by
  cases outcome : x.response.outcome with
  | error fault =>
    rw [outcome] at holds
    contradiction
  | ok value =>
    rw [outcome] at holds
    obtain ⟨a, decoded, holds⟩ := (Option.any_eq_true _ _).mp holds
    exact ⟨a, ⟨value, outcome, decoded⟩, holds⟩

/-- The response is a fault, or its result does not decode, or it does. -/
theorem cases (x : Exchange) (read : Document → Option α) :
    (∃ fault, x.response.fault = some fault) ∨ x.Garbles read ∨ ∃ a, x.Gives read a := by
  cases h : x.response.fault with
  | some fault => exact .inl ⟨fault, rfl⟩
  | none =>
    have outcome : x.response.outcome = .ok (x.response.result.getD .null) := by
      rw [Response.outcome, h]
    cases decoded : read (x.response.result.getD .null).document with
    | none => exact .inr (.inl ⟨_, outcome, decoded⟩)
    | some a => exact .inr (.inr ⟨a, _, outcome, decoded⟩)

end Exchange

theorem Backoff.delay?_isSome_iff {b : Backoff} {attempt : Nat} :
    (b.delay? attempt).isSome = true ↔ 0 < attempt ∧ attempt ≤ b.maxRetries := by
  unfold delay?
  split
  · simp only [Option.isSome_none, Bool.false_eq_true, false_iff]
    omega
  · simp only [Option.isSome_some, true_iff]
    omega

namespace Node

variable {node : Node}

/-- The node is out of reach, or the first `n` replies it has are no responses. -/
def Silent (node : Node) (n : Nat) : Prop :=
  node.reachable = false ∨ ∀ reply ∈ node.replies.take n, reply.Fails

theorem post_of_cons (reachable : node.reachable = true) {reply : Reply} {rest : List Reply}
    (replies : node.replies = reply :: rest) (request : Request) :
    node.post request = (reply.response,
      { node with replies := rest, requests := node.requests ++ [request] }) := by
  rw [post, if_pos reachable, replies]

theorem post_of_silent {n : Nat} (silent : node.Silent (n + 1)) (request : Request) :
    ∃ failure node', node.post request = (.error failure, node') ∧ node'.Silent n := by
  cases reachable : node.reachable with
  | false => exact ⟨.outOfReach, node, by rw [post, reachable]; rfl, .inl reachable⟩
  | true =>
    rcases silent with unreachable | fails
    · rw [reachable] at unreachable
      contradiction
    · cases replies : node.replies with
      | nil =>
        refine ⟨.noAnswer, { node with replies := [], requests := node.requests ++ [request] },
          ?_, .inr ?_⟩
        · rw [post, if_pos reachable, replies]
        · rw [List.take_nil]
          exact List.forall_mem_nil _
      | cons reply rest =>
        rw [replies, List.take_succ_cons, List.forall_mem_cons] at fails
        obtain ⟨failure, response⟩ := Reply.fails_iff.mp fails.1
        refine ⟨failure, { node with replies := rest, requests := node.requests ++ [request] },
          ?_, .inr fails.2⟩
        rw [post_of_cons reachable replies, response]

end Node

/-- None of the first `n` replies is a response, or one of them is and those before it are not. -/
theorem Reply.fail_or_answer (replies : List Reply) (n : Nat) :
    (∀ reply ∈ replies.take n, reply.Fails) ∨
      ∃ failed answer response rest, replies = failed ++ answer :: rest ∧
        (∀ reply ∈ failed, reply.Fails) ∧ answer.response = .ok response ∧ failed.length < n := by
  induction replies generalizing n with
  | nil =>
    rw [List.take_nil]
    exact .inl (List.forall_mem_nil _)
  | cons reply replies ih =>
    cases n with
    | zero => exact .inl (List.forall_mem_nil _)
    | succ n =>
      cases outcome : reply.response with
      | ok response =>
        exact .inr ⟨[], reply, response, replies, rfl, List.forall_mem_nil _, outcome,
          Nat.succ_pos n⟩
      | error failure =>
        rcases ih n with fails | ⟨failed, answer, response, rest, rfl, fails, answers, few⟩
        · rw [List.take_succ_cons, List.forall_mem_cons]
          exact .inl ⟨fails_iff.mpr ⟨failure, outcome⟩, fails⟩
        · exact .inr ⟨reply :: failed, answer, response, rest, rfl,
            List.forall_mem_cons.mpr ⟨fails_iff.mpr ⟨failure, outcome⟩, fails⟩, answers,
            Nat.succ_lt_succ few⟩

namespace Client

variable {c c' : Client} {x : Exchange} {xs ys : List Exchange} {rest : List Reply}

/-- The node is silent for as many times as a request is sent. -/
def Unanswered (c : Client) : Prop := c.node.Silent (c.backoff.maxRetries + 1)

/-- The node has the replies of an exchange before `rest`, and the client waits for all of them. -/
structure Meets (c : Client) (x : Exchange) (rest : List Reply) : Prop where
  reachable : c.node.reachable = true
  replies : c.node.replies = x.replies ++ rest
  retries : x.failed.length ≤ c.backoff.maxRetries

/-- The client after an exchange. -/
def after (c : Client) (x : Exchange) (rest : List Reply) : Client :=
  { c with
    nextId := c.nextId + 1
    node := { c.node with replies := rest, requests := c.node.requests ++ x.requests } }

/-- Between its two states the client had these exchanges with its node, one after the other. -/
inductive Exchanged : Client → List Exchange → Client → Prop where
  | nil {c : Client} : Exchanged c [] c
  | cons {c c' : Client} {x : Exchange} {xs : List Exchange} {rest : List Reply} :
      c.Meets x rest → Exchanged (c.after x rest) xs c' → Exchanged c (x :: xs) c'

/-- The node has noted the requests of the exchanges, and no others. -/
theorem Exchanged.requests (exchanged : c.Exchanged xs c') :
    c'.node.requests = c.node.requests ++ xs.flatMap (·.requests) := by
  induction exchanged with
  | nil => rw [List.flatMap_nil, List.append_nil]
  | cons _ _ ih => rw [ih, List.flatMap_cons, ← List.append_assoc]; rfl

/-- A response among the replies is what a client meets that waits for it. -/
theorem exists_meets (c : Client) (request : Request) {failed : List Reply}
    (fails : ∀ reply ∈ failed, reply.Fails) (response : Response)
    (reachable : c.node.reachable = true)
    (replies : c.node.replies = failed ++ .ofResponse response :: rest)
    (retries : failed.length ≤ c.backoff.maxRetries) (p : Response → Bool)
    (reads : (Response.ofDocument? (Json.document response.toValue)).any p = true) :
    ∃ x : Exchange, x.request = request ∧ x.requests.length = failed.length + 1 ∧
      c.Meets x rest ∧ p x.response = true := by
  obtain ⟨response', document, holds⟩ := (Option.any_eq_true _ _).mp reads
  refine ⟨⟨request, failed, .ofResponse response, response', fails, Reply.response_of document⟩,
    rfl, ?_, ⟨reachable, ?_, retries⟩, holds⟩
  · rw [Exchange.requests, List.length_replicate, Exchange.replies, List.length_append]
    rfl
  · rw [replies, Exchange.replies, List.append_assoc]
    rfl

/-! ### Exchanges of a request -/

theorem exchange_of_fails {backoff : Backoff} {request : Request} {attempt : Nat}
    {node node' : Node} {failure : TransportFailure}
    (post : node.post request = (.error failure, node')) :
    exchange backoff request attempt node =
      if 0 < attempt ∧ attempt ≤ backoff.maxRetries then
        exchange backoff request (attempt + 1) node'
      else (.error failure, node') := by
  rw [exchange, post]
  dsimp only
  split
  next h =>
    rw [if_pos (Backoff.delay?_isSome_iff.mp (Option.isSome_of_eq_some h))]
  next h =>
    rw [if_neg fun waits => ?_]
    rw [← Backoff.delay?_isSome_iff, h] at waits
    contradiction

/-- Replies that fail are passed over, as long as the client waits for the one that answers. -/
theorem exchange_of_failed {backoff : Backoff} (request : Request) {failed : List Reply}
    {answer : Reply} {response : Response} (fails : ∀ reply ∈ failed, reply.Fails)
    (answers : answer.response = .ok response) {attempt : Nat} (positive : 0 < attempt)
    (waits : attempt + failed.length ≤ backoff.maxRetries + 1) {node : Node}
    (reachable : node.reachable = true) (replies : node.replies = failed ++ answer :: rest) :
    exchange backoff request attempt node = (.ok response, { node with
      replies := rest
      requests := node.requests ++ List.replicate (failed.length + 1) request }) := by
  induction failed generalizing attempt node with
  | nil =>
    have post := Node.post_of_cons reachable replies request
    rw [answers] at post
    rw [exchange, post]
    rfl
  | cons reply failed ih =>
    obtain ⟨fail, fails⟩ := List.forall_mem_cons.mp fails
    obtain ⟨failure, response⟩ := Reply.fails_iff.mp fail
    have post := Node.post_of_cons reachable replies request
    rw [response] at post
    rw [List.length_cons] at waits
    rw [exchange_of_fails post, if_pos (by omega)]
    refine Eq.trans (ih fails (by omega) (by omega) ?_ ?_) ?_
    · exact reachable
    · rfl
    · dsimp only
      rw [List.append_assoc]
      rfl

theorem exchange_of_silent {backoff : Backoff} (request : Request) {attempt n : Nat}
    (positive : 0 < attempt) (waits : attempt + n = backoff.maxRetries + 1) {node : Node}
    (silent : node.Silent (n + 1)) :
    ∃ failure node', exchange backoff request attempt node = (.error failure, node') := by
  induction n generalizing attempt node with
  | zero =>
    obtain ⟨failure, node', post, _⟩ := Node.post_of_silent silent request
    refine ⟨failure, node', ?_⟩
    rw [exchange_of_fails post, if_neg (by omega)]
  | succ n ih =>
    obtain ⟨failure, node', post, silent⟩ := Node.post_of_silent silent request
    rw [exchange_of_fails post, if_pos (by omega)]
    exact ih (by omega) (by omega) silent

/-- An exchange of the request, or nothing that answers it. -/
theorem meets_or_unanswered (c : Client) (request : Request) :
    (∃ x rest, x.request = request ∧ c.Meets x rest) ∨ c.Unanswered := by
  cases reachable : c.node.reachable with
  | false => exact .inr (.inl reachable)
  | true =>
    rcases Reply.fail_or_answer c.node.replies (c.backoff.maxRetries + 1) with
      fails | ⟨failed, answer, response, rest, replies, fails, answers, few⟩
    · exact .inr (.inr fails)
    · refine .inl ⟨⟨request, failed, answer, response, fails, answers⟩, rest, rfl, reachable, ?_,
        Nat.le_of_lt_succ few⟩
      rw [replies, Exchange.replies, List.append_assoc]
      rfl

/-! ### Calls -/

variable {α : Type} {method : String} {params : Value} {read : Document → Option α}

/-- The result of an answered call is that of its exchange. -/
theorem call_of_meets (meets : c.Meets x rest)
    (request : x.request = .call c.nextId method params) :
    c.call method params read = (x.result method read, c.after x rest) := by
  have replies := meets.replies
  rw [Exchange.replies, List.append_assoc, List.singleton_append] at replies
  have waits : 1 + x.failed.length ≤ c.backoff.maxRetries + 1 := by
    have := meets.retries
    omega
  have exchanged := exchange_of_failed x.request x.fails x.answers Nat.one_pos waits
    meets.reachable replies
  have requests : List.replicate (x.failed.length + 1) x.request = x.requests := by
    rw [Exchange.requests, Exchange.replies, List.length_append]
    rfl
  rw [requests] at exchanged
  rw [call, ← request, exchanged, Exchange.result, after]
  dsimp only
  cases x.response.outcome with
  | error fault => rfl
  | ok value => cases decoded : read value.document <;> simp only [decoded]

theorem call_of_unanswered (unanswered : c.Unanswered) (method : String) (params : Value)
    (read : Document → Option α) :
    ∃ failure c', c.call method params read = (.error (.transport failure), c') := by
  obtain ⟨failure, node', exchanged⟩ := exchange_of_silent (.call c.nextId method params)
    Nat.one_pos (Nat.add_comm 1 _) unanswered
  refine ⟨failure, { c with nextId := c.nextId + 1, node := node' }, ?_⟩
  rw [call, exchanged]

end Client

end BlockIndexer.Rpc

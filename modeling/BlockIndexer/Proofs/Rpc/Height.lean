import BlockIndexer.Proofs.Block.Decoding
import BlockIndexer.Proofs.Rpc.Join
import BlockIndexer.Proofs.Tip
import BlockIndexer.Rpc.Status

/-! The tip that a node reports, and a follower that asks for it again and again. A height is an
integer that the node wrote out, without a fraction, an exponent or a value that a word has no room
for. No other answer moves the follower. -/

namespace BlockIndexer

open Json (Document Value)

/-! ### Integers in documents -/

namespace Json

/-- The text is an integer's digits, after a minus sign or not. -/
def WritesInteger (cs : List Char) (i : Int) : Prop :=
  ∃ k : Nat, cs = Nat.toDigits 10 k ∧ i = k ∨ cs = '-' :: Nat.toDigits 10 k ∧ i = -k

/-- The value is a number whose text is that of an integer. -/
def IsInteger (v : Value) (i : Int) : Prop := ∃ n, v = .number n ∧ WritesInteger n.chars i

theorem Number.chars_inj {n n' : Number} : n.chars = n'.chars ↔ n = n' := by
  refine ⟨fun same => ?_, congrArg _⟩
  have ends : EndsNumber [] := fun _ none => nomatch none
  have read := number?_of_written ends n.written_chars
  rw [same, number?_of_written ends n'.written_chars] at read
  exact (congrArg Prod.fst (Option.some.inj read)).symm

theorem Number.toInt?_eq_some_iff {n : Number} {i : Int} :
    n.toInt? = some i ↔ WritesInteger n.chars i := by
  have chars (k : Nat) : chars ⟨false, k, none, none⟩ = Nat.toDigits 10 k ∧
      chars ⟨true, k, none, none⟩ = '-' :: Nat.toDigits 10 k := by
    simp [Number.chars]
  constructor
  · intro read
    obtain ⟨negative, whole, fraction, exponent⟩ := n
    cases fraction <;> cases exponent <;> try contradiction
    obtain rfl := Option.some.inj read
    cases negative with
    | false => exact ⟨whole, .inl ⟨(chars whole).1, rfl⟩⟩
    | true => exact ⟨whole, .inr ⟨(chars whole).2, rfl⟩⟩
  · rintro ⟨k, ⟨text, rfl⟩ | ⟨text, rfl⟩⟩
    · rw [← (chars k).1, chars_inj] at text
      rw [text]
      rfl
    · rw [← (chars k).2, chars_inj] at text
      rw [text]
      rfl

theorem isInteger_number {n : Number} {i : Int} :
    IsInteger (.number n) i ↔ n.toInt? = some i := by
  rw [Number.toInt?_eq_some_iff]
  constructor
  · rintro ⟨n', number, written⟩
    rwa [Json.number.inj number]
  · exact fun written => ⟨n, rfl, written⟩

theorem IsInteger.unique {v : Value} {i i' : Int} (integer : IsInteger v i)
    (integer' : IsInteger v i') : i = i' := by
  obtain ⟨n, rfl, written⟩ := integer
  have read := Number.toInt?_eq_some_iff.mpr written
  exact Option.some.inj (read.symm.trans (isInteger_number.mp integer'))

end Json

namespace Rpc

open Json (IsInteger)

/-! ### The height of a value -/

/-- A value is a height, or a negative integer that a signed word has room for, or neither. -/
theorem height?_cases (v : Value) :
    (∃ h : Nat, h < UInt64.size ∧ IsInteger v h ∧ height? v = .ok h) ∨
    (∃ i : Int, Int64.minValue.toInt ≤ i ∧ i < 0 ∧ IsInteger v i ∧
      height? v = .error (.protocol s!"node reported negative height {i}")) ∨
    (∀ i, IsInteger v i → i < Int64.minValue.toInt ∨ UInt64.size ≤ i) ∧
      height? v = .error (.protocol ("node reported non-numeric height " ++ v.text)) := by
  have other (no : ∀ n, v ≠ .number n) (i : Int) : ¬IsInteger v i :=
    fun ⟨n, number, _⟩ => no n number
  cases v with
  | number n =>
    cases read : n.toInt? with
    | none =>
      refine .inr (.inr ⟨fun i integer => ?_, by rw [height?, read]⟩)
      rw [Json.isInteger_number, read] at integer
      contradiction
    | some i =>
      have integer : IsInteger (.number n) i := Json.isInteger_number.mpr read
      by_cases outside : UInt64.size ≤ i ∨ i < Int64.minValue.toInt
      · refine .inr (.inr ⟨fun i' integer' => ?_, ?_⟩)
        · rw [Json.isInteger_number, read] at integer'
          obtain rfl := Option.some.inj integer'
          exact outside.symm
        · simp only [height?, read, if_pos outside]
      · by_cases negative : i < 0
        · refine .inr (.inl ⟨i, by omega, negative, integer, ?_⟩)
          simp only [height?, read, if_neg outside, if_pos negative]
        · obtain ⟨h, rfl⟩ := Int.eq_ofNat_of_zero_le (Int.not_lt.mp negative)
          refine .inl ⟨h, by omega, integer, ?_⟩
          simp only [height?, read, if_neg outside, if_neg negative, Int.toNat_natCast]
  | null | bool | string | array | object =>
    exact .inr (.inr ⟨fun i integer => absurd integer (other (fun _ => nofun) i), rfl⟩)

theorem height?_eq_ok_iff {v : Value} {h : Nat} :
    height? v = .ok h ↔ h < UInt64.size ∧ IsInteger v h := by
  rcases height?_cases v with ⟨h', fits, integer, ok⟩ | ⟨i, -, negative, integer, error⟩ |
    ⟨beyond, error⟩
  · rw [ok]
    constructor
    · intro same
      obtain rfl := Except.ok.inj same
      exact ⟨fits, integer⟩
    · rintro ⟨-, integer'⟩
      rw [Int.ofNat_inj.mp (integer.unique integer')]
  · rw [error]
    refine ⟨nofun, fun ⟨_, integer'⟩ => ?_⟩
    have same := integer.unique integer'
    omega
  · rw [error]
    refine ⟨nofun, fun ⟨fits, integer⟩ => ?_⟩
    have outside := beyond h integer
    rw [Int64.toInt_minValue] at outside
    omega

theorem height?_of_no_height {v : Value} (none : ∀ h < UInt64.size, ¬IsInteger v h) :
    ∃ reason, height? v = .error (.protocol reason) ∧
      (reason = "node reported non-numeric height " ++ v.text ∨
        ∃ i < 0, IsInteger v i ∧ reason = s!"node reported negative height {i}") := by
  rcases height?_cases v with ⟨h, fits, integer, -⟩ | ⟨i, -, negative, integer, error⟩ | ⟨-, error⟩
  · exact absurd integer (none h fits)
  · exact ⟨_, error, .inr ⟨i, negative, integer, rfl⟩⟩
  · exact ⟨_, error, .inl rfl⟩

/-- The value stands in the place of the latest height. -/
theorem given_of_latestHeight? {d : Document} {v : Value} (read : latestHeight? d = some v) :
    ∃ info content, d.given (.ofNames ["sync_info"] 1) ⟨"sync_info", []⟩ = [info] ∧
      info.given (.ofNames ["latest_block_height"] 1) ⟨"latest_block_height", []⟩ = [content] ∧
      content.value? Json.maxDepth = some v := by
  obtain ⟨status, fields, read⟩ := Option.bind_eq_some_iff.mp read
  obtain ⟨infoFields, inside, read⟩ := Option.bind_eq_some_iff.mp read
  obtain ⟨info, found, own⟩ := Option.bind_eq_some_iff.mp inside
  obtain ⟨content, latest, read⟩ := Option.bind_eq_some_iff.mp read
  refine ⟨info, content, ?_, ?_, read⟩
  · rw [Document.given_of_fields? ⟨by decide, by decide⟩ (by decide) fields, found]
    rfl
  · rw [Document.given_of_fields? ⟨by decide, by decide⟩ (by decide) own, latest]
    rfl

/-! ### The height of a node -/

namespace Client

variable {c c' : Client} {v : Value} {h : Nat}

/-- The node answers the client, and says that its latest height is this. -/
def Tells (c : Client) (v : Value) (c' : Client) : Prop :=
  ∃ x rest, x.request = .call c.nextId "status" (.array []) ∧ c.Meets x rest ∧
    x.Gives latestHeight? v ∧ c' = c.after x rest

theorem tells_iff :
    c.Tells v c' ↔ c.call "status" (.array []) latestHeight? = (.ok v, c') := by
  constructor
  · rintro ⟨x, rest, request, meets, gives, rfl⟩
    rw [call_of_meets meets request, Exchange.result_of_gives gives]
  · intro told
    rcases c.meets_or_unanswered (.call c.nextId "status" (.array [])) with
      ⟨x, rest, request, meets⟩ | unanswered
    · rw [call_of_meets meets request] at told
      obtain ⟨result, after⟩ := Prod.mk.inj told
      rcases x.cases latestHeight? with ⟨fault, faulty⟩ | garbles | ⟨v', gives⟩
      · rw [Exchange.result_of_fault faulty] at result
        contradiction
      · rw [Exchange.result_of_garbles garbles] at result
        contradiction
      · rw [Exchange.result_of_gives gives] at result
        obtain rfl := Except.ok.inj result
        exact ⟨x, rest, request, meets, gives, after.symm⟩
    · obtain ⟨failure, c'', failed⟩ :=
        call_of_unanswered unanswered "status" (.array []) latestHeight?
      exact absurd (congrArg Prod.fst (failed.symm.trans told)) nofun

theorem height_of_tells (tells : c.Tells v c') : c.height = (height? v, c') := by
  rw [height, tells_iff.mp tells]

theorem height_of_untold (untold : ∀ v c', ¬c.Tells v c') :
    ∃ e : CallError, c.height.1 = .error e.toError := by
  cases called : c.call "status" (.array []) latestHeight? with
  | mk result c' =>
    cases result with
    | ok v => exact absurd (tells_iff.mpr called) (untold v c')
    | error e => exact ⟨e, by rw [height, called]⟩

theorem height_eq_ok_iff :
    c.height = (.ok h, c') ↔ ∃ v, c.Tells v c' ∧ h < UInt64.size ∧ IsInteger v h := by
  constructor
  · intro ok
    by_cases told : ∃ v c', c.Tells v c'
    · obtain ⟨v, c'', tells⟩ := told
      rw [height_of_tells tells] at ok
      obtain ⟨value, rfl⟩ := Prod.mk.inj ok
      exact ⟨v, tells, height?_eq_ok_iff.mp value⟩
    · obtain ⟨e, error⟩ := c.height_of_untold fun v c' tells => told ⟨v, c', tells⟩
      rw [ok] at error
      contradiction
  · rintro ⟨v, tells, value⟩
    rw [height_of_tells tells, height?_eq_ok_iff.mpr value]

/-- A response among the replies is what a client is told that waits for it. -/
theorem exists_tells (c : Client) {failed rest : List Reply} (fails : ∀ reply ∈ failed, reply.Fails)
    (result : Value) (reachable : c.node.reachable = true)
    (replies : c.node.replies = failed ++ .ofResponse (giving result) :: rest)
    (retries : failed.length ≤ c.backoff.maxRetries) (p : Value → Bool)
    (decodes : (Response.ofDocument? (Json.document (giving result).toValue)).any
      (fun response => (response.outcome.toOption.bind fun value =>
        latestHeight? value.document).any p) = true) :
    ∃ x v, c.Tells v (c.after x rest) ∧ p v = true := by
  obtain ⟨x, v, request, -, meets, gives, holds⟩ := c.exists_given
    (.call c.nextId "status" (.array [])) fails result reachable replies retries latestHeight? p
    decodes
  exact ⟨x, v, ⟨x, rest, request, meets, gives, rfl⟩, holds⟩

end Client

/-! ### A follower that asks the node -/

/-- A follower of the tip with its queue, and the client that it asks. -/
structure Watch where
  follower : Follower
  queue : Queue
  client : Client

namespace Watch

variable {w : Watch} {h : Nat}

/-- Asks for the height once, and takes the answer. -/
def poll (w : Watch) : Except Error (List Nat) × Watch :=
  let (answer, client) := w.client.height
  let (result, follower, queue) := w.follower.poll w.queue answer
  (result, ⟨follower, queue, client⟩)

theorem poll_eq (w : Watch) :
    let polled := w.follower.poll w.queue w.client.height.1
    w.poll = (polled.1, ⟨polled.2.1, polled.2.2, w.client.height.2⟩) := rfl

/-- The state after so many polls, also if some of them fail. -/
def after (w : Watch) : Nat → Watch
  | 0 => w
  | n + 1 => (w.after n).poll.2

/-- Between the two states the node reports a height. -/
def Hears (w w' : Watch) (h : Nat) : Prop :=
  ∃ v, w.client.Tells v w'.client ∧ h < UInt64.size ∧ IsInteger v h

theorem hears_iff : w.Hears w.poll.2 h ↔ w.client.height.1 = .ok h := by
  have client : w.poll.2.client = w.client.height.2 := rfl
  rw [Hears, client, ← Client.height_eq_ok_iff, Prod.ext_iff, and_iff_left rfl]

/-- The follower goes on to a height that it has heard, or stays. -/
theorem poll_cases (w : Watch) :
    (∃ h, w.Hears w.poll.2 h ∧ w.follower.watermark ≤ h ∧
      w.poll = (.ok (heightsAbove w.follower.watermark h),
        ⟨⟨h⟩, w.queue.pushAll (heightsAbove w.follower.watermark h), w.client.height.2⟩)) ∨
    ((∀ h, w.Hears w.poll.2 h → h < w.follower.watermark) ∧
      ∃ e, w.poll = (.error e, ⟨w.follower, w.queue, w.client.height.2⟩)) := by
  rcases w.follower.poll_cases w.queue w.client.height.1 with
    ⟨e, polled, reason⟩ | ⟨h, answer, le, polled⟩
  · refine .inr ⟨fun h heard => ?_, e, by rw [poll_eq, polled]⟩
    rw [hears_iff] at heard
    rcases reason with ⟨cause, failed⟩ | ⟨h', below, lower⟩
    · rw [heard] at failed
      contradiction
    · rw [heard] at lower
      exact Except.ok.inj lower ▸ below
  · exact .inl ⟨h, hears_iff.mpr answer, le, by rw [poll_eq, polled]⟩

theorem watermark_le_poll (w : Watch) :
    w.follower.watermark ≤ w.poll.2.follower.watermark := by
  rcases w.poll_cases with ⟨h, -, le, polled⟩ | ⟨-, e, polled⟩
  · rw [polled]
    exact le
  · rw [polled]

theorem le_poll_of_hears (heard : w.Hears w.poll.2 h) : h ≤ w.poll.2.follower.watermark := by
  rcases w.poll_cases with ⟨h', heard', -, polled⟩ | ⟨lower, e, polled⟩
  · have same := (hears_iff.mp heard).symm.trans (hears_iff.mp heard')
    rw [polled]
    exact Nat.le_of_eq (Except.ok.inj same)
  · have below := lower h heard
    rw [polled]
    exact Nat.le_of_lt below

theorem poll_of_error {e : Error} (failed : w.client.height.1 = .error e) :
    w.poll.1 = .error e := by
  rw [poll_eq, failed]
  rfl

theorem poll_of_lower (heard : w.Hears w.poll.2 h) (lower : h < w.follower.watermark) :
    w.poll.1 = .error (.tipRegressed w.follower.watermark h) := by
  rw [poll_eq, hears_iff.mp heard, Follower.poll, if_pos lower]

/-- What so many polls have come to. -/
structure Followed (w : Watch) (n : Nat) : Prop where
  rises : w.follower.watermark ≤ (w.after n).follower.watermark
  reported : (w.after n).follower.watermark = w.follower.watermark ∨
    ∃ i < n, (w.after i).Hears (w.after (i + 1)) (w.after n).follower.watermark
  highest : ∀ i < n, ∀ h, (w.after i).Hears (w.after (i + 1)) h →
    h ≤ (w.after n).follower.watermark
  queued : (w.after n).queue = w.queue.pushAll
    (heightsAbove w.follower.watermark (w.after n).follower.watermark)

/-- After a poll the queue holds what was put into it beside what it held. -/
theorem toList_of_poll {heights : List Nat} (polled : w.poll.1 = .ok heights) :
    w.poll.2.queue.toList.Perm (heights ++ w.queue.toList) := by
  rcases w.poll_cases with ⟨h, -, -, eq⟩ | ⟨-, e, eq⟩
  · rw [eq] at polled ⊢
    cases polled
    exact w.queue.pushAll_perm _
  · rw [eq] at polled
    contradiction

theorem followed (w : Watch) (n : Nat) : w.Followed n := by
  induction n with
  | zero =>
    refine ⟨Nat.le_refl _, .inl rfl, fun i lt => absurd lt (Nat.not_lt_zero i), ?_⟩
    rw [after, heightsAbove_self]
    rfl
  | succ n ih =>
    have next : w.after (n + 1) = (w.after n).poll.2 := rfl
    have le := (w.after n).watermark_le_poll
    constructor
    case rises => exact Nat.le_trans ih.rises le
    case reported =>
      rcases (w.after n).poll_cases with ⟨h, heard, -, polled⟩ | ⟨-, e, polled⟩
      · refine .inr ⟨n, Nat.lt_succ_self n, ?_⟩
        rw [← next] at heard
        have watermark : (w.after (n + 1)).follower.watermark = h := by rw [next, polled]
        rwa [watermark]
      · have same : (w.after (n + 1)).follower = (w.after n).follower := by rw [next, polled]
        rw [same]
        exact ih.reported.imp_right fun ⟨i, lt, heard⟩ => ⟨i, Nat.lt_succ_of_lt lt, heard⟩
    case highest =>
      intro i lt h heard
      rcases Nat.lt_succ_iff_lt_or_eq.mp lt with earlier | rfl
      · exact Nat.le_trans (ih.highest i earlier h heard) le
      · exact le_poll_of_hears heard
    case queued =>
      rcases (w.after n).poll_cases with ⟨h, -, above, polled⟩ | ⟨-, e, polled⟩
      · rw [next, polled, ih.queued, Queue.pushAll_append, heightsAbove_append ih.rises above]
      · rw [next, polled, ih.queued]

theorem Followed.toList {n : Nat} (followed : w.Followed n) :
    (w.after n).queue.toList.Perm
      (heightsAbove w.follower.watermark (w.after n).follower.watermark ++ w.queue.toList) := by
  rw [followed.queued]
  exact w.queue.pushAll_perm _

/-- A value that a node reports is a height if it is a number with the text of an integer that an
unsigned word has room for, and any other value is an error that quotes it. The value is the one in
the place of the latest height of an answer; without such an answer the call fails. A poll takes
the follower to a height that it heard, and puts what lies between into the queue. If it heard none,
or one below the watermark, it is an error and changes neither the watermark nor the queue. So after
any polls the watermark is the greatest of its start and the heights that were heard, and the
heights between are those put into the queue, which holds them beside what was in it. -/
theorem follows_reported_heights :
    (∀ (v : Value) (h : Nat), height? v = .ok h ↔ h < UInt64.size ∧ IsInteger v h) ∧
    (∀ v : Value, (∀ h < UInt64.size, ¬IsInteger v h) →
      ∃ reason, height? v = .error (.protocol reason) ∧
        (reason = "node reported non-numeric height " ++ v.text ∨
          ∃ i < 0, IsInteger v i ∧ reason = s!"node reported negative height {i}")) ∧
    (∀ (d : Document) (v : Value), latestHeight? d = some v → ∃ info content,
      d.given (.ofNames ["sync_info"] 1) ⟨"sync_info", []⟩ = [info] ∧
      info.given (.ofNames ["latest_block_height"] 1) ⟨"latest_block_height", []⟩ = [content] ∧
      content.value? Json.maxDepth = some v) ∧
    (∀ c : Client, (∀ v c', c.Tells v c' → c.height = (height? v, c')) ∧
      ((∀ v c', ¬c.Tells v c') → ∃ e : CallError, c.height.1 = .error e.toError)) ∧
    (∀ w : Watch,
      ((∃ h, w.Hears w.poll.2 h ∧ w.follower.watermark ≤ h ∧
          w.poll = (.ok (heightsAbove w.follower.watermark h),
            ⟨⟨h⟩, w.queue.pushAll (heightsAbove w.follower.watermark h), w.client.height.2⟩)) ∨
        ((∀ h, w.Hears w.poll.2 h → h < w.follower.watermark) ∧
          ∃ e, w.poll = (.error e, ⟨w.follower, w.queue, w.client.height.2⟩))) ∧
      (∀ e, w.client.height.1 = .error e → w.poll.1 = .error e) ∧
      (∀ h, w.Hears w.poll.2 h → h < w.follower.watermark →
        w.poll.1 = .error (.tipRegressed w.follower.watermark h)) ∧
      ∀ heights, w.poll.1 = .ok heights →
        w.poll.2.queue.toList.Perm (heights ++ w.queue.toList)) ∧
    (∀ (w : Watch) (n : Nat), w.Followed n ∧ (w.after n).queue.toList.Perm
      (heightsAbove w.follower.watermark (w.after n).follower.watermark ++ w.queue.toList)) :=
  ⟨fun _ _ => height?_eq_ok_iff, fun _ => height?_of_no_height,
    fun _ _ => given_of_latestHeight?,
    fun c => ⟨fun _ _ => c.height_of_tells, c.height_of_untold⟩,
    fun w => ⟨w.poll_cases, fun _ => poll_of_error, fun _ => poll_of_lower,
      fun _ => toList_of_poll⟩,
    fun w n => ⟨w.followed n, (w.followed n).toList⟩⟩

/-- The result of the `status` method, with a value for the latest height. -/
def statusOf (v : Value) : Value :=
  .object [("sync_info", .object [("latest_block_height", v)])]

/-- A follower below the greatest signed word, and a node that reports a height above it when it is
asked again, and then none. -/
def acrossTheSeam : Watch where
  follower := ⟨2 ^ 63 - 2⟩
  queue := .empty
  client := .connect ⟨1, 0, 0, 2⟩ (.scripted true
    [⟨503, ""⟩, .ofResponse (Client.giving (statusOf (Json.nat (2 ^ 63)))),
      .ofResponse (Client.giving (statusOf (.string "soon")))])

theorem seam_crossed :
    let w := acrossTheSeam.after 1
    w.follower.watermark = 2 ^ 63 ∧ w.queue = Queue.empty.pushAll [2 ^ 63 - 1, 2 ^ 63] ∧
      (∃ reason, w.poll = (.error (.protocol reason), acrossTheSeam.after 2)) ∧
      (acrossTheSeam.after 2).follower = w.follower ∧ (acrossTheSeam.after 2).queue = w.queue ∧
      height? (.number ⟨true, 0, none, none⟩) = .ok 0 := by
  intro w
  obtain ⟨heights, refused, -, told, polls, runs⟩ := follows_reported_heights
  have busy : ∀ reply ∈ [⟨503, ""⟩], Reply.Fails reply :=
    List.forall_mem_singleton.mpr (.inr (.inl (by decide)))
  obtain ⟨x, v, first, found⟩ := acrossTheSeam.client.exists_tells busy
    (statusOf (Json.nat (2 ^ 63))) rfl rfl (Nat.le_refl 1)
    (fun v => decide (height? v = .ok (2 ^ 63))) (by decide +kernel)
  have height := (told _).1 v _ first
  rw [of_decide_eq_true found] at height
  let c := acrossTheSeam.client.after x [.ofResponse (Client.giving (statusOf (.string "soon")))]
  obtain ⟨y, v', second, none⟩ : ∃ y v', c.Tells v' (c.after y []) ∧
      (height? v').toOption.isNone = true :=
    c.exists_tells (List.forall_mem_nil _) (statusOf (.string "soon")) rfl rfl (Nat.zero_le _)
      (fun v => (height? v).toOption.isNone) (by decide +kernel)
  have heard : acrossTheSeam.Hears acrossTheSeam.poll.2 (2 ^ 63) := hears_iff.mpr (by rw [height])
  have polled : acrossTheSeam.poll = (.ok [2 ^ 63 - 1, 2 ^ 63],
      ⟨⟨2 ^ 63⟩, Queue.empty.pushAll [2 ^ 63 - 1, 2 ^ 63], c⟩) := by
    rcases (polls acrossTheSeam).1 with ⟨h, heard', -, polled⟩ | ⟨lower, -⟩
    · obtain rfl := Except.ok.inj ((hears_iff.mp heard).symm.trans (hears_iff.mp heard'))
      rw [polled, height]
      rfl
    · exact absurd (lower _ heard) (by decide)
  have state : w = ⟨⟨2 ^ 63⟩, Queue.empty.pushAll [2 ^ 63 - 1, 2 ^ 63], c⟩ :=
    congrArg Prod.snd polled
  obtain ⟨reason, error, -⟩ := refused v' fun h fits integer => by
    rw [(heights v' h).mpr ⟨fits, integer⟩] at none
    contradiction
  have height' := (told c).1 v' _ second
  rw [error] at height'
  have failed : w.poll.1 = .error (.protocol reason) :=
    (polls w).2.1 _ (by rw [state, height'])
  rcases (polls w).1 with ⟨_, -, -, polled'⟩ | ⟨-, e, polled'⟩
  · rw [polled'] at failed
    contradiction
  · have after : acrossTheSeam.after 2 = w.poll.2 := rfl
    refine ⟨by rw [state], by rw [state], ⟨reason, Prod.ext failed rfl⟩, ?_, ?_,
      (heights _ 0).mpr ⟨by decide, _, rfl, 0, .inr ⟨by decide, rfl⟩⟩⟩
    · rw [after, polled']
    · rw [after, polled']

end Watch

end Rpc

end BlockIndexer

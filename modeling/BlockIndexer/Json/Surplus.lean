import BlockIndexer.Json.Token

/-! What may stand after the last byte of a full run: nothing but a comma, or one more value that is
no byte. Such a value is passed over only as far as it takes to see that it is no byte, so it need
not be well formed; the bracket that ends the run must follow there. -/

namespace BlockIndexer.Json.Surplus

open BlockIndexer.Text

/-- The text after its first byte. No text that goes on inside a character can be read. -/
def dropByte? : List Symbol → Option (List Symbol)
  | .char c :: rest => if c.toNat < 0x80 then some rest else none
  | .stray :: rest => some rest
  | [] => none

/-- The text after its first bytes, so many of them. -/
def dropBytes? (n : Nat) : List Symbol → Option (List Symbol)
  | [] => if n = 0 then some [] else none
  | .stray :: rest => if n = 0 then some (.stray :: rest) else dropBytes? (n - 1) rest
  | .char c :: rest =>
    if n = 0 then some (.char c :: rest)
    else if c.utf8Size ≤ n then dropBytes? (n - c.utf8Size) rest
    else none

/-- The text after a word, or after the first byte that is not as the word has it. -/
def pastWord? : List Char → List Symbol → Option (List Symbol)
  | [], cs => some cs
  | w :: ws, .char c :: rest =>
    if c = w then pastWord? ws rest else dropByte? (.char c :: rest)
  | _ :: _, cs => dropByte? cs

/-- The text after the digits of an exponent, or after the first digit with which a `huge` one
does not fit in 31 bits. -/
def pastExponentDigits (huge : Bool) (n : Nat) : List Symbol → List Symbol
  | [] => []
  | s :: rest =>
    match digit? s with
    | none => s :: rest
    | some d =>
      if huge && !FitsIn 31 (10 * n + d.val) then rest
      else pastExponentDigits huge (10 * n + d.val) rest

/-- The text after an exponent without its sign. That of a number other than zero is too large if it
is positive and does not fit in 31 bits. -/
def pastUnsignedExponent? (isZero negative : Bool) : List Symbol → Option (List Symbol)
  | [] => none
  | s :: rest =>
    match digit? s with
    | some d => some (pastExponentDigits (!isZero && !negative) d.val rest)
    | none => dropByte? (s :: rest)

def pastExponent? (isZero : Bool) : List Symbol → Option (List Symbol)
  | .char '+' :: rest => pastUnsignedExponent? isZero false rest
  | .char '-' :: rest => pastUnsignedExponent? isZero true rest
  | cs => pastUnsignedExponent? isZero false cs

def areZero (digits : List (Fin 10)) : Bool := digits.all (·.val == 0)

/-- The text after what follows a whole number, if this makes it another kind of number. -/
def pastTail? (isZero : Bool) : List Symbol → Option (Option (List Symbol))
  | .char '.' :: rest =>
    match spanDigits rest with
    | ([], rest) => some (some rest)
    | (digits, .char 'e' :: rest) => some (pastExponent? (isZero && areZero digits) rest)
    | (digits, .char 'E' :: rest) => some (pastExponent? (isZero && areZero digits) rest)
    | (_, rest) => some (some rest)
  | .char 'e' :: rest | .char 'E' :: rest => some (pastExponent? isZero rest)
  | _ => none

/-- The text after a number without its sign, if it is no byte. No digit may follow a zero that
starts it. -/
def pastNumber? (negative : Bool) (cs : List Symbol) : Option (List Symbol) :=
  match spanDigits cs with
  | (d :: ds, rest) =>
    if d.val = 0 && !ds.isEmpty then some cs.tail
    else match pastTail? (areZero (d :: ds)) rest with
      | some past => past
      | none => if !negative && FitsIn 8 (Digits.mk d ds).value then none else some rest
  | ([], _) => dropByte? cs

/-- The text after a string, or after the first byte that cannot stand in one. -/
def pastString? : List Symbol → Option (List Symbol)
  | [] => none
  | .stray :: rest => pastString? rest
  | .char '"' :: rest => some rest
  | .char '\\' :: .char 'u' :: a :: b :: c :: d :: rest =>
    match codeUnit? [a, b, c, d] with
    | none => dropBytes? 4 (a :: b :: c :: d :: rest)
    | some h =>
      if isLow h then some rest
      else if isHigh h then
        match rest with
        | .char '\\' :: .char 'u' :: a :: b :: c :: d :: rest =>
          match codeUnit? [a, b, c, d] with
          | none => dropBytes? 4 (a :: b :: c :: d :: rest)
          | some l => if isLow l then pastString? rest else some rest
        | .char '\\' :: .char 'u' :: rest => dropBytes? 4 rest
        | .char '\\' :: rest => dropByte? rest
        | rest => dropByte? rest
      else pastString? rest
  | .char '\\' :: .char 'u' :: rest => dropBytes? 4 rest
  | .char '\\' :: .char e :: rest =>
    if (unescape? e).isSome then pastString? rest else dropByte? (.char e :: rest)
  | .char '\\' :: rest => dropByte? rest
  | .char c :: rest => if c.toNat < 0x20 then some rest else pastString? rest

/-- The text after a value that is no byte. -/
def pastValue? : List Symbol → Option (List Symbol)
  | .char '-' :: rest => pastNumber? true rest
  | .char 'n' :: rest => pastWord? ['u', 'l', 'l'] rest
  | .char 't' :: rest => pastWord? ['r', 'u', 'e'] rest
  | .char 'f' :: rest => pastWord? ['a', 'l', 's', 'e'] rest
  | .char '"' :: rest => pastString? rest
  | cs => if (cs.head?.bind digit?).isSome then pastNumber? false cs else some cs

/-- The text after the bracket that ends a full run, from behind the comma after its last byte. -/
def close? (cs : List Symbol) : Option (List Symbol) :=
  match cs.dropWhile isSpace with
  | .char ']' :: rest => some rest
  | cs =>
    (pastValue? cs).bind fun cs =>
      match cs.dropWhile isSpace with
      | .char ']' :: rest => some rest
      | _ => none

theorem length_of_dropByte? {cs rest : List Symbol} (h : dropByte? cs = some rest) :
    rest.length ≤ cs.length := by
  unfold dropByte? at h
  split at h
  next =>
    obtain rfl := Option.some.inj (Option.ite_none_right_eq_some.mp h).2
    exact Nat.le_succ _
  next =>
    obtain rfl := Option.some.inj h
    exact Nat.le_succ _
  next => contradiction

theorem length_of_dropBytes? {n : Nat} {cs rest : List Symbol} (h : dropBytes? n cs = some rest) :
    rest.length ≤ cs.length := by
  induction cs generalizing n with
  | nil =>
    obtain rfl := Option.some.inj (Option.ite_none_right_eq_some.mp h).2
    exact Nat.le_refl _
  | cons s cs ih =>
    by_cases all : n = 0
    · have same : dropBytes? n (s :: cs) = some (s :: cs) := by
        cases s <;> exact if_pos all
      obtain rfl := Option.some.inj (same.symm.trans h)
      exact Nat.le_refl _
    · refine Nat.le_succ_of_le ?_
      cases s with
      | stray =>
        rw [dropBytes?, if_neg all] at h
        exact ih h
      | char c =>
        rw [dropBytes?, if_neg all] at h
        exact ih (Option.ite_none_right_eq_some.mp h).2

theorem length_of_pastWord? {ws : List Char} {cs rest : List Symbol}
    (h : pastWord? ws cs = some rest) : rest.length ≤ cs.length := by
  fun_induction pastWord? ws cs with
  | case1 => simp_all
  | case2 w ws rest' ih =>
    have := ih h
    simp only [List.length_cons]
    omega
  | case3 => exact length_of_dropByte? h
  | case4 => exact length_of_dropByte? h

theorem length_pastExponentDigits (huge : Bool) (n : Nat) (cs : List Symbol) :
    (pastExponentDigits huge n cs).length ≤ cs.length := by
  induction cs generalizing n with
  | nil => exact Nat.le_refl _
  | cons s cs ih =>
    unfold pastExponentDigits
    cases digit? s with
    | none => exact Nat.le_refl _
    | some d =>
      dsimp only
      split
      · exact Nat.le_succ _
      · exact Nat.le_succ_of_le (ih _)

theorem length_of_pastUnsignedExponent? {isZero negative : Bool} {cs rest : List Symbol}
    (h : pastUnsignedExponent? isZero negative cs = some rest) : rest.length ≤ cs.length := by
  unfold pastUnsignedExponent? at h
  split at h
  next => simp at h
  next s r =>
    split at h
    next d _ =>
      have := length_pastExponentDigits (!isZero && !negative) d.val r
      rw [Option.some.inj h] at this
      simp only [List.length_cons]
      omega
    next => exact length_of_dropByte? h

theorem length_of_pastExponent? {isZero : Bool} {cs rest : List Symbol}
    (h : pastExponent? isZero cs = some rest) : rest.length ≤ cs.length := by
  unfold pastExponent? at h
  split at h
  next => exact Nat.le_succ_of_le (length_of_pastUnsignedExponent? h)
  next => exact Nat.le_succ_of_le (length_of_pastUnsignedExponent? h)
  next => exact length_of_pastUnsignedExponent? h

theorem length_of_pastTail? {isZero : Bool} {cs rest : List Symbol}
    (h : pastTail? isZero cs = some (some rest)) : rest.length ≤ cs.length := by
  unfold pastTail? at h
  split at h
  next r =>
    have hl := length_spanDigits r
    split at h
    all_goals
      rename_i hs
      rw [hs] at hl
      simp only [List.length_cons, List.length_nil] at *
    · rw [← Option.some.inj (Option.some.inj h)]
      omega
    · have := length_of_pastExponent? (Option.some.inj h)
      omega
    · have := length_of_pastExponent? (Option.some.inj h)
      omega
    · rw [← Option.some.inj (Option.some.inj h)]
      omega
  next => exact Nat.le_succ_of_le (length_of_pastExponent? (Option.some.inj h))
  next => exact Nat.le_succ_of_le (length_of_pastExponent? (Option.some.inj h))
  next => simp at h

theorem length_of_pastNumber? {negative : Bool} {cs rest : List Symbol}
    (h : pastNumber? negative cs = some rest) : rest.length ≤ cs.length := by
  have hl := length_spanDigits cs
  unfold pastNumber? at h
  split at h
  next d ds r hs =>
    have hr : r.length ≤ cs.length := by
      have := congrArg (·.2.length) hs
      simp only at this
      omega
    split at h
    · rw [← Option.some.inj h, List.length_tail]
      omega
    · split at h
      next ht => exact Nat.le_trans (length_of_pastTail? (ht.trans (congrArg some h))) hr
      next =>
        split at h
        · simp at h
        · exact Option.some.inj h ▸ hr
  next => exact length_of_dropByte? h

theorem length_of_pastString? {cs rest : List Symbol} (h : pastString? cs = some rest) :
    rest.length ≤ cs.length := by
  fun_induction pastString? cs <;> (try have := length_of_dropBytes? h) <;>
    (try have := length_of_dropByte? h) <;> simp_all <;> omega

theorem length_of_pastValue? {cs rest : List Symbol} (h : pastValue? cs = some rest) :
    rest.length ≤ cs.length := by
  unfold pastValue? at h
  split at h
  next => exact Nat.le_succ_of_le (length_of_pastNumber? h)
  next => exact Nat.le_succ_of_le (length_of_pastWord? h)
  next => exact Nat.le_succ_of_le (length_of_pastWord? h)
  next => exact Nat.le_succ_of_le (length_of_pastWord? h)
  next => exact Nat.le_succ_of_le (length_of_pastString? h)
  next =>
    split at h
    · exact length_of_pastNumber? h
    · exact Nat.le_of_eq (congrArg List.length (Option.some.inj h).symm)

/-- Closing a run takes symbols and gives none. -/
theorem length_of_close? {cs rest : List Symbol} (h : close? cs = some rest) :
    rest.length ≤ cs.length := by
  have spaces (cs : List Symbol) : (cs.dropWhile isSpace).length ≤ cs.length :=
    (List.dropWhile_suffix isSpace).length_le
  have h0 := spaces cs
  unfold close? at h
  split at h
  next hs =>
    rw [hs, Option.some.inj h] at h0
    simp only [List.length_cons] at h0
    omega
  next =>
    obtain ⟨r, hr, h⟩ := Option.bind_eq_some_iff.1 h
    have h1 := length_of_pastValue? hr
    have h2 := spaces r
    split at h
    next hs =>
      rw [hs, Option.some.inj h] at h2
      simp only [List.length_cons] at h2
      omega
    next => simp at h

end BlockIndexer.Json.Surplus

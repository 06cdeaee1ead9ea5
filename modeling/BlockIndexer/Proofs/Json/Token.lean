import BlockIndexer.Json.Printer
import BlockIndexer.Json.Token
import BlockIndexer.Proofs.Text.Hex
import Mathlib.Data.List.Forall2

/-! The texts of tokens. A text that is a token is read as this token, and what follows it is left;
a number must not be followed by what would go on with it. How texts and numbers are printed is one
of the ways to write them. -/

namespace BlockIndexer.Json

open BlockIndexer.Text

/-! ### Texts between quotes -/

/-- The ways to write a piece of a text between quotes. -/
inductive Piece.Written : Piece → List Symbol → Prop where
  | char {c : Char} (quote : c ≠ '"') (slash : c ≠ '\\') (shown : 0x20 ≤ c.toNat) :
      Written (.char c) [.char c]
  | escape {e c : Char} (stands : unescape? e = some c) :
      Written (.char c) [.char '\\', .char e]
  | codeUnit {n : Nat} {a b c d : Symbol} (digits : codeUnit? [a, b, c, d] = some n) :
      Written (.codeUnit n) [.char '\\', .char 'u', a, b, c, d]
  | stray : Written .stray [.stray]

theorem Piece.Written.pieces? {p : Piece} {cs : List Symbol} (written : p.Written cs)
    (before : List Piece) (rest : List Symbol) :
    pieces? before (cs ++ rest) = pieces? (p :: before) rest := by
  cases written with
  | char quote slash shown => simp [Json.pieces?, slash, Nat.not_lt.mpr shown]
  | codeUnit digits => simp only [List.cons_append, List.nil_append, Json.pieces?, digits]
  | stray => rfl
  | @escape e c stands =>
    have other : e ≠ 'u' := by
      rintro rfl
      contradiction
    simp [Json.pieces?, other, stands]

theorem pieces?_of_written {ps : List Piece} {css : List (List Symbol)}
    (written : List.Forall₂ Piece.Written ps css) (before : List Piece) (rest : List Symbol) :
    pieces? before (css.flatten ++ .char '"' :: rest) = some (before.reverse ++ ps, rest) := by
  induction written generalizing before with
  | nil =>
    rw [List.append_nil]
    rfl
  | cons first _ ih =>
    rw [List.flatten_cons, List.append_assoc, first.pieces?, ih, List.reverse_cons,
      List.append_assoc]
    rfl

/-- A piece that stands for a character without the help of another piece. -/
inductive Piece.Spells : Piece → Char → Prop where
  | char (c : Char) : Spells (.char c) c
  | codeUnit {c : Char} (control : c.toNat < 0x20) : Spells (.codeUnit c.toNat) c

theorem Piece.chars?_codeUnit {u : Nat} (small : u < 0xD800) (ps : List Piece) :
    chars? (.codeUnit u :: ps) = (chars? ps).map (Char.ofNat u :: ·) := by
  have high : isHigh u = false := by simp [isHigh]; omega
  have low : isLow u = false := by simp [isLow]; omega
  cases ps with
  | nil => simp [chars?, high, low]
  | cons p ps => cases p <;> simp [chars?, high, low]

theorem Piece.chars?_of_spells {ps : List Piece} {cs : List Char}
    (spells : List.Forall₂ Spells ps cs) : chars? ps = some cs := by
  induction spells with
  | nil => rfl
  | cons first _ ih =>
    cases first with
    | char c => rw [chars?, ih, Option.map_some]
    | codeUnit control => rw [chars?_codeUnit (by omega), ih, Option.map_some, Char.ofNat_toNat]

theorem codeUnit?_unitDigits {n : Nat} (small : n < 0x10000) :
    codeUnit? ((unitDigits n).map .char) = some n := by
  have value : ((n / 4096 % 16 * 16 + n / 256 % 16) * 16 + n / 16 % 16) * 16 + n % 16 = n := by
    omega
  simp only [unitDigits, List.map_cons, List.map_nil, codeUnit?]
  rw [digitBelow?_digitChar _ (by omega), digitBelow?_digitChar _ (by omega),
    digitBelow?_digitChar _ (by omega), digitBelow?_digitChar _ (by omega)]
  simp only [Option.bind_some, Option.map_some, value]

theorem exists_piece (c : Char) : ∃ p : Piece, p.Spells c ∧ p.Written ((escape c).map .char) := by
  unfold escape
  split
  next eq => exact ⟨.char c, .char c, .escape (by rw [eq]; rfl)⟩
  split
  next eq => exact ⟨.char c, .char c, .escape (by rw [eq]; rfl)⟩
  split
  next eq => exact ⟨.char c, .char c, .escape (by rw [eq]; rfl)⟩
  split
  next eq => exact ⟨.char c, .char c, .escape (by rw [eq]; rfl)⟩
  split
  next eq => exact ⟨.char c, .char c, .escape (by rw [eq]; rfl)⟩
  split
  next eq => exact ⟨.char c, .char c, .escape (by rw [eq]; rfl)⟩
  split
  next eq => exact ⟨.char c, .char c, .escape (by rw [eq]; rfl)⟩
  split
  next control =>
    have digits := codeUnit?_unitDigits (show c.toNat < 0x10000 by omega)
    exact ⟨.codeUnit c.toNat, .codeUnit control, .codeUnit digits⟩
  next quote slash _ _ _ _ _ shown =>
    exact ⟨.char c, .char c, .char quote slash (Nat.not_lt.mp shown)⟩

theorem exists_pieces (cs : List Char) : ∃ ps : List Piece, List.Forall₂ Piece.Spells ps cs ∧
    List.Forall₂ Piece.Written ps (cs.map fun c => (escape c).map .char) := by
  induction cs with
  | nil => exact ⟨[], .nil, .nil⟩
  | cons c cs ih =>
    obtain ⟨p, spells, written⟩ := exists_piece c
    obtain ⟨ps, spell, write⟩ := ih
    exact ⟨p :: ps, .cons spells spell, .cons written write⟩

/-! ### Numbers -/

variable {rest : List Symbol}

/-- No digit comes next. -/
def EndsDigits (rest : List Symbol) : Prop := ∀ s ∈ rest.head?, digit? s = none

/-- Nothing comes next that would go on with a number. -/
def EndsNumber (rest : List Symbol) : Prop :=
  ∀ s ∈ rest.head?, digit? s = none ∧ s ≠ .char '.' ∧ s ≠ .char 'e' ∧ s ≠ .char 'E'

theorem digit?_digitChar : ∀ d : Fin 10, digit? (.char (Nat.digitChar d.val)) = some d := by
  decide

theorem spanDigits_chars (ends : EndsDigits rest) (ds : List (Fin 10)) :
    spanDigits ((ds.map fun d => Nat.digitChar d.val).map .char ++ rest) = (ds, rest) := by
  induction ds with
  | nil =>
    cases rest with
    | nil => rfl
    | cons s rest => simp only [List.map_nil, List.nil_append, spanDigits, ends s rfl]
  | cons d ds ih =>
    simp only [List.map_cons, List.cons_append, spanDigits, digit?_digitChar, ih]

theorem digits?_chars (ends : EndsDigits rest) (ds : Digits) :
    digits? (ds.chars.map .char ++ rest) = some (ds, rest) := by
  rw [digits?, Digits.chars, spanDigits_chars ends]
  rfl

/-- The decimal digits of a number, which start with a zero only if it is zero. -/
theorem exists_digits (n : Nat) :
    ∃ ds : Digits, Nat.toDigits 10 n = ds.chars ∧ ds.value = n ∧ (ds.first = 0 → n = 0) := by
  induction n using Nat.strongRecOn with
  | ind n ih =>
    by_cases small : n < 10
    · refine ⟨⟨⟨n, small⟩, []⟩, Nat.toDigits_of_lt_base small, ?_,
        fun zero => congrArg Fin.val zero⟩
      simp [Digits.value, Digits.toList]
    · obtain ⟨ds, chars, value, first⟩ := ih (n / 10) (by omega)
      refine ⟨⟨ds.first, ds.rest ++ [⟨n % 10, Nat.mod_lt n (by decide)⟩]⟩, ?_, ?_, fun zero => ?_⟩
      · rw [Nat.toDigits_of_base_le (by decide) (by omega), chars]
        simp [Digits.chars, Digits.toList]
      · simp only [Digits.value, Digits.toList, List.foldl_cons, List.foldl_append,
          List.foldl_nil] at value ⊢
        omega
      · have := first zero
        omega

theorem whole?_toDigits (ends : EndsDigits rest) (n : Nat) :
    whole? ((Nat.toDigits 10 n).map .char ++ rest) = some (n, rest) := by
  obtain ⟨ds, chars, value, first⟩ := exists_digits n
  by_cases zero : n = 0
  · rw [zero, Nat.toDigits_zero]
    rfl
  · have other : Nat.digitChar ds.first.val ≠ '0' := by
      rw [Ne, Nat.digitChar_eq_zero]
      exact fun zero' => zero (first (Fin.ext zero'))
    rw [chars]
    unfold whole?
    split
    next rest' start =>
      have first' : Nat.digitChar ds.first.val = '0' := Symbol.char.inj (List.cons.inj start).1
      contradiction
    next => simp only [digits?_chars ends, Option.map_some, value]

theorem fraction?_chars (ends : EndsDigits rest) (point : ∀ s ∈ rest.head?, s ≠ .char '.')
    (fraction : Option Digits) :
    fraction? ((fraction.elim [] fun ds => '.' :: ds.chars).map .char ++ rest) =
      some (fraction, rest) := by
  cases fraction with
  | none =>
    rw [Option.elim_none, List.map_nil, List.nil_append]
    unfold fraction?
    split
    next => exact absurd rfl (point _ rfl)
    next => rfl
  | some ds =>
    simp only [Option.elim_some, List.map_cons, List.cons_append, fraction?, digits?_chars ends,
      Option.map_some]

/-- The ways to write an exponent. -/
inductive Exponent.Written : Exponent → List Char → Prop where
  | negative {mark : Char} (marked : mark = 'e' ∨ mark = 'E') (digits : Digits) :
      Written ⟨true, digits⟩ (mark :: '-' :: digits.chars)
  | signed {mark : Char} (marked : mark = 'e' ∨ mark = 'E') (digits : Digits) :
      Written ⟨false, digits⟩ (mark :: '+' :: digits.chars)
  | unsigned {mark : Char} (marked : mark = 'e' ∨ mark = 'E') (digits : Digits) :
      Written ⟨false, digits⟩ (mark :: digits.chars)

theorem Exponent.written_chars (e : Exponent) : e.Written e.chars := by
  obtain ⟨negative, digits⟩ := e
  cases negative with
  | false => exact .signed (.inl rfl) digits
  | true => exact .negative (.inl rfl) digits

/-- The ways to write what a number may end with. -/
inductive Exponent.MayBeWritten : Option Exponent → List Char → Prop where
  | none : MayBeWritten .none []
  | some {e : Exponent} {cs : List Char} (written : e.Written cs) : MayBeWritten (.some e) cs

theorem Exponent.Written.exists_mark {e : Exponent} {cs : List Char} (written : e.Written cs) :
    ∃ mark cs', (mark = 'e' ∨ mark = 'E') ∧ cs = mark :: cs' := by
  cases written with
  | negative marked | signed marked | unsigned marked => exact ⟨_, _, marked, rfl⟩

theorem Exponent.MayBeWritten.head (ends : EndsNumber rest) {exponent : Option Exponent}
    {cs : List Char} (written : MayBeWritten exponent cs) :
    ∀ s ∈ (cs.map Symbol.char ++ rest).head?, digit? s = Option.none ∧ s ≠ .char '.' := by
  cases written with
  | none => exact fun s next => ⟨(ends s next).1, (ends s next).2.1⟩
  | some written =>
    obtain ⟨mark, cs, marked, rfl⟩ := written.exists_mark
    rcases marked with rfl | rfl <;> simp [digit?, Char.isDigit]

theorem signedDigits?_unsigned (ends : EndsDigits rest) (ds : Digits) :
    signedDigits? (ds.chars.map .char ++ rest) = some (⟨false, ds⟩, rest) := by
  have first (c : Char) (other : c.isDigit = false) : Nat.digitChar ds.first.val ≠ c := by
    rintro rfl
    have all : ∀ d : Fin 10, (Nat.digitChar d.val).isDigit = true := by decide
    rw [all] at other
    contradiction
  have digits := digits?_chars ends ds
  simp only [Digits.chars, Digits.toList, List.map_cons, List.cons_append] at digits ⊢
  unfold signedDigits?
  split
  next start => exact absurd (Symbol.char.inj (List.cons.inj start).1) (first '-' rfl)
  next start => exact absurd (Symbol.char.inj (List.cons.inj start).1) (first '+' rfl)
  next => rw [digits, Option.map_some]

theorem signedDigits?_of_written {mark : Char} {e : Exponent} {cs : List Char}
    (ends : EndsDigits rest) (written : e.Written (mark :: cs)) :
    signedDigits? (cs.map .char ++ rest) = some (e, rest) := by
  cases written with
  | negative marked digits =>
    simp only [List.map_cons, List.cons_append, signedDigits?, digits?_chars ends, Option.map_some]
  | signed marked digits =>
    simp only [List.map_cons, List.cons_append, signedDigits?, digits?_chars ends, Option.map_some]
  | unsigned marked digits => exact signedDigits?_unsigned ends digits

theorem exponent?_of_written (ends : EndsNumber rest) {exponent : Option Exponent} {cs : List Char}
    (written : Exponent.MayBeWritten exponent cs) :
    exponent? (cs.map .char ++ rest) = some (exponent, rest) := by
  cases written with
  | none =>
    rw [List.map_nil, List.nil_append]
    unfold exponent?
    split
    next => exact absurd rfl (ends _ rfl).2.2.1
    next => exact absurd rfl (ends _ rfl).2.2.2
    next => rfl
  | some written =>
    obtain ⟨mark, cs, marked, rfl⟩ := written.exists_mark
    have digits := signedDigits?_of_written (fun s next => (ends s next).1) written
    rcases marked with rfl | rfl <;>
      simp only [List.map_cons, List.cons_append, exponent?, digits, Option.map_some]

/-- The ways to write a number without its sign. -/
inductive Number.UnsignedWritten (n : Number) : List Char → Prop where
  | mk {exponent : List Char} (written : Exponent.MayBeWritten n.exponent exponent) :
      UnsignedWritten n (Nat.toDigits 10 n.whole ++
        (n.fraction.elim [] (fun ds => '.' :: ds.chars) ++ exponent))

/-- The ways to write a number. -/
inductive Number.Written (n : Number) : List Char → Prop where
  | mk {cs : List Char} (written : n.UnsignedWritten cs) :
      Written n ((if n.negative then ['-'] else []) ++ cs)

theorem Number.written_chars (n : Number) : n.Written n.chars := by
  have exponent : Exponent.MayBeWritten n.exponent (n.exponent.elim [] Exponent.chars) := by
    cases n.exponent with
    | none => exact .none
    | some e => exact .some e.written_chars
  have written := Written.mk (.mk exponent : n.UnsignedWritten _)
  simpa only [chars, List.append_assoc] using written

theorem Number.UnsignedWritten.exists_chars {n : Number} {cs : List Char}
    (written : n.UnsignedWritten cs) : ∃ d cs', cs = Nat.digitChar d :: cs' ∧ d < 10 := by
  obtain ⟨exponent⟩ := written
  obtain ⟨ds, chars, -⟩ := exists_digits n.whole
  rw [chars]
  exact ⟨ds.first.val, _, rfl, ds.first.isLt⟩

theorem unsigned?_of_written (ends : EndsNumber rest) {n : Number} {cs : List Char}
    (written : n.UnsignedWritten cs) :
    unsigned? n.negative (cs.map .char ++ rest) = some (n, rest) := by
  obtain ⟨exponent⟩ := written
  rename_i cs
  have afterFraction := exponent.head ends
  have afterWhole : EndsDigits ((n.fraction.elim [] fun ds => '.' :: ds.chars).map Symbol.char ++
      (cs.map .char ++ rest)) := by
    cases n.fraction with
    | none => exact fun s next => (afterFraction s next).1
    | some ds => simp [EndsDigits, digit?, Char.isDigit]
  have fraction := fraction?_chars (fun s next => (afterFraction s next).1)
    (fun s next => (afterFraction s next).2) n.fraction
  rw [List.map_append, List.map_append, List.append_assoc, List.append_assoc, unsigned?,
    whole?_toDigits afterWhole, Option.bind_some]
  simp only [fraction, Option.bind_some, exponent?_of_written ends exponent, Option.map_some]

theorem number?_of_written (ends : EndsNumber rest) {n : Number} {cs : List Char}
    (written : n.Written cs) : number? (cs.map .char ++ rest) = some (n, rest) := by
  obtain ⟨written⟩ := written
  have read := unsigned?_of_written ends written
  cases negative : n.negative with
  | true =>
    rw [negative] at read
    simp only [if_true, List.map_cons, List.cons_append, List.nil_append, number?, read]
  | false =>
    obtain ⟨d, cs, rfl, small⟩ := written.exists_chars
    rw [negative] at read
    simp only [Bool.false_eq_true, if_false, List.nil_append, List.map_cons,
      List.cons_append] at read ⊢
    unfold number?
    split
    next rest' minus =>
      have minus : Nat.digitChar d = '-' := Symbol.char.inj (List.cons.inj minus).1
      exact absurd minus (Nat.digitChar_ne '-' (by decide))
    next => exact read

/-! ### Tokens -/

/-- The characters that start tokens other than numbers. -/
def marks : List Char := ['[', ']', '{', '}', ',', ':', 'n', 't', 'f', '"']

theorem Number.Written.exists_chars {n : Number} {cs : List Char} (written : n.Written cs) :
    ∃ c cs', cs = c :: cs' ∧ c ∉ marks := by
  obtain ⟨written⟩ := written
  obtain ⟨d, cs, rfl, small⟩ := written.exists_chars
  cases n.negative with
  | true => exact ⟨'-', _, rfl, by decide⟩
  | false =>
    have digits : ∀ d < 10, Nat.digitChar d ∉ marks := by decide
    exact ⟨Nat.digitChar d, _, rfl, digits d small⟩

theorem Token.next?_of_not_mark {c : Char} (other : c ∉ marks) (cs : List Symbol) :
    next? (.char c :: cs) = (number? (.char c :: cs)).map fun (n, rest) => (.number n, rest) := by
  unfold next?
  split <;> simp_all [marks]

namespace Token

/-- The ways to write a token. -/
inductive Written : Token → List Symbol → Prop where
  | beginArray : Written .beginArray [.char '[']
  | endArray : Written .endArray [.char ']']
  | beginObject : Written .beginObject [.char '{']
  | endObject : Written .endObject [.char '}']
  | comma : Written .comma [.char ',']
  | colon : Written .colon [.char ':']
  | null : Written .null ("null".toList.map .char)
  | true : Written (.bool .true) ("true".toList.map .char)
  | false : Written (.bool .false) ("false".toList.map .char)
  | number {n : Number} {cs : List Char} (written : n.Written cs) :
      Written (.number n) (cs.map .char)
  | string {ps : List Piece} {css : List (List Symbol)}
      (written : List.Forall₂ Piece.Written ps css) :
      Written (.string ((Piece.chars? ps).map String.ofList))
        (.char '"' :: css.flatten ++ [.char '"'])

/-- A token stands before text that does not go on with it. -/
def Ends (t : Token) (rest : List Symbol) : Prop := ∀ n, t = .number n → EndsNumber rest

theorem next?_of_written {t : Token} {cs : List Symbol} (written : t.Written cs)
    (ends : t.Ends rest) : next? (cs ++ rest) = some (t, rest) := by
  cases written with
  | number written =>
    have read := number?_of_written (ends _ rfl) written
    obtain ⟨c, cs, rfl, other⟩ := written.exists_chars
    rw [List.map_cons, List.cons_append] at read ⊢
    rw [next?_of_not_mark other, read, Option.map_some]
  | string written =>
    have read := pieces?_of_written written [] rest
    rw [List.append_assoc, List.cons_append, List.singleton_append, next?, read, Option.map_some]
    rfl
  | _ => rfl

theorem written_quoted (s : String) : Written (.string (some s)) ((quoted s).map .char) := by
  obtain ⟨ps, spells, written⟩ := exists_pieces s.toList
  have token := Written.string written
  rw [Piece.chars?_of_spells spells, Option.map_some, String.ofList_toList] at token
  have text : (quoted s).map Symbol.char =
      .char '"' :: (s.toList.map fun c => (escape c).map Symbol.char).flatten ++ [.char '"'] := by
    simp [quoted, List.flatMap_def, List.map_flatten, Function.comp_def]
  rwa [text]

end Token

end BlockIndexer.Json

import BlockIndexer.Json.Value
import BlockIndexer.Text.Numeral
import BlockIndexer.Text.Symbol

/-! The tokens of JSON text. A string that is well formed but names no text, because of a lone
surrogate or a stray byte, is a token all the same; who reads the tokens decides whether it may
stand. -/

namespace BlockIndexer.Json

open BlockIndexer.Text

inductive Token where
  | beginArray
  | endArray
  | beginObject
  | endObject
  | comma
  | colon
  | null
  | bool (b : Bool)
  | number (n : Number)
  | string (s : Option String)
  deriving DecidableEq, Repr

/-- A part of the text between quotes. -/
inductive Piece where
  | char (c : Char)
  | codeUnit (n : Nat)
  | stray
  deriving DecidableEq, Repr

def isHigh (n : Nat) : Bool := 0xD800 ≤ n && n < 0xDC00

def isLow (n : Nat) : Bool := 0xDC00 ≤ n && n < 0xE000

/-- The characters that pieces stand for. A high surrogate counts only before a low one. -/
def Piece.chars? : List Piece → Option (List Char)
  | [] => some []
  | .char c :: ps => (chars? ps).map (c :: ·)
  | .stray :: _ => none
  | .codeUnit h :: .codeUnit l :: ps =>
    if isHigh h && isLow l then
      (chars? ps).map (Char.ofNat (0x10000 + (h - 0xD800) * 1024 + (l - 0xDC00)) :: ·)
    else if isHigh h || isLow h then none
    else (chars? (.codeUnit l :: ps)).map (Char.ofNat h :: ·)
  | .codeUnit u :: ps =>
    if isHigh u || isLow u then none else (chars? ps).map (Char.ofNat u :: ·)

/-- The character that a letter stands for after a backslash. -/
def unescape? : Char → Option Char
  | '"' => some '"'
  | '\\' => some '\\'
  | '/' => some '/'
  | 'b' => some '\x08'
  | 'f' => some '\x0c'
  | 'n' => some '\n'
  | 'r' => some '\r'
  | 't' => some '\t'
  | _ => none

/-- The code unit of four hexadecimal digits. -/
def codeUnit? : List Symbol → Option Nat
  | [.char a, .char b, .char c, .char d] =>
    (digitBelow? 16 a).bind fun w => (digitBelow? 16 b).bind fun x =>
      (digitBelow? 16 c).bind fun y => (digitBelow? 16 d).map fun z =>
        ((w * 16 + x) * 16 + y) * 16 + z
  | _ => none

/-- The pieces up to the closing quote, after those in `before`, which holds the last one first,
and what follows that quote. -/
def pieces? (before : List Piece) : List Symbol → Option (List Piece × List Symbol)
  | [] => none
  | .stray :: rest => pieces? (.stray :: before) rest
  | .char '"' :: rest => some (before.reverse, rest)
  | .char '\\' :: .char 'u' :: a :: b :: c :: d :: rest =>
    match codeUnit? [a, b, c, d] with
    | some n => pieces? (.codeUnit n :: before) rest
    | none => none
  | .char '\\' :: .char e :: rest =>
    match unescape? e with
    | some c => pieces? (.char c :: before) rest
    | none => none
  | .char '\\' :: _ => none
  | .char c :: rest => if c.toNat < 0x20 then none else pieces? (.char c :: before) rest

def digit? : Symbol → Option (Fin 10)
  | .char c => if c.isDigit then some (Fin.ofNat 10 (c.toNat - '0'.toNat)) else none
  | .stray => none

/-- The digits that the text starts with, and the rest. -/
def spanDigits : List Symbol → List (Fin 10) × List Symbol
  | [] => ([], [])
  | s :: rest =>
    match digit? s with
    | some d => (d :: (spanDigits rest).1, (spanDigits rest).2)
    | none => ([], s :: rest)

def digits? (cs : List Symbol) : Option (Digits × List Symbol) :=
  match spanDigits cs with
  | (d :: ds, rest) => some (⟨d, ds⟩, rest)
  | ([], _) => none

/-- The digits before the point. A zero that starts them stands alone. -/
def whole? : List Symbol → Option (Nat × List Symbol)
  | .char '0' :: rest => some (0, rest)
  | cs => (digits? cs).map fun (ds, rest) => (ds.value, rest)

def fraction? : List Symbol → Option (Option Digits × List Symbol)
  | .char '.' :: rest => (digits? rest).map fun (ds, rest) => (some ds, rest)
  | cs => some (none, cs)

/-- The sign and the digits after an `e`. -/
def signedDigits? : List Symbol → Option (Exponent × List Symbol)
  | .char '-' :: rest => (digits? rest).map fun (ds, rest) => (⟨true, ds⟩, rest)
  | .char '+' :: rest => (digits? rest).map fun (ds, rest) => (⟨false, ds⟩, rest)
  | cs => (digits? cs).map fun (ds, rest) => (⟨false, ds⟩, rest)

def exponent? : List Symbol → Option (Option Exponent × List Symbol)
  | .char 'e' :: rest => (signedDigits? rest).map fun (e, rest) => (some e, rest)
  | .char 'E' :: rest => (signedDigits? rest).map fun (e, rest) => (some e, rest)
  | cs => some (none, cs)

/-- The number that the text starts with after its sign. -/
def unsigned? (negative : Bool) (cs : List Symbol) : Option (Number × List Symbol) :=
  (whole? cs).bind fun (whole, cs) => (fraction? cs).bind fun (fraction, cs) =>
    (exponent? cs).map fun (exponent, cs) => (⟨negative, whole, fraction, exponent⟩, cs)

def number? : List Symbol → Option (Number × List Symbol)
  | .char '-' :: rest => unsigned? true rest
  | cs => unsigned? false cs

def Number.ofString? (s : String) : Option Number :=
  match number? (Symbol.ofString s) with
  | some (n, []) => some n
  | _ => none

/-- The token that starts right here, and what follows it. -/
def Token.next? : List Symbol → Option (Token × List Symbol)
  | .char '[' :: rest => some (.beginArray, rest)
  | .char ']' :: rest => some (.endArray, rest)
  | .char '{' :: rest => some (.beginObject, rest)
  | .char '}' :: rest => some (.endObject, rest)
  | .char ',' :: rest => some (.comma, rest)
  | .char ':' :: rest => some (.colon, rest)
  | .char 'n' :: .char 'u' :: .char 'l' :: .char 'l' :: rest => some (.null, rest)
  | .char 't' :: .char 'r' :: .char 'u' :: .char 'e' :: rest => some (.bool true, rest)
  | .char 'f' :: .char 'a' :: .char 'l' :: .char 's' :: .char 'e' :: rest =>
    some (.bool false, rest)
  | .char '"' :: rest =>
    (pieces? [] rest).map fun (ps, rest) => (.string ((Piece.chars? ps).map String.ofList), rest)
  | cs => (number? cs).map fun (n, rest) => (.number n, rest)

theorem length_of_pieces? {before ps : List Piece} {cs rest : List Symbol}
    (h : pieces? before cs = some (ps, rest)) : rest.length < cs.length := by
  fun_induction pieces? before cs <;> simp_all <;> omega

theorem length_spanDigits (cs : List Symbol) :
    (spanDigits cs).1.length + (spanDigits cs).2.length = cs.length := by
  induction cs with
  | nil => rfl
  | cons s rest ih =>
    unfold spanDigits
    cases digit? s with
    | none => exact Nat.zero_add _
    | some d =>
      simp only [List.length_cons]
      omega

theorem length_of_digits? {cs rest : List Symbol} {ds : Digits}
    (h : digits? cs = some (ds, rest)) : rest.length < cs.length := by
  have hl := length_spanDigits cs
  unfold digits? at h
  split at h
  next d ds' r hs =>
    simp only [Option.some.injEq, Prod.mk.injEq] at h
    rw [hs] at hl
    simp only [List.length_cons] at hl
    rw [← h.2]
    omega
  next => simp at h

theorem length_of_whole? {cs rest : List Symbol} {n : Nat}
    (h : whole? cs = some (n, rest)) : rest.length < cs.length := by
  unfold whole? at h
  split at h
  next => simp_all
  next =>
    obtain ⟨⟨ds, r⟩, hd, he⟩ := Option.map_eq_some_iff.1 h
    obtain ⟨rfl, rfl⟩ := Prod.mk.inj he
    exact length_of_digits? hd

theorem length_of_fraction? {cs rest : List Symbol} {f : Option Digits}
    (h : fraction? cs = some (f, rest)) : rest.length ≤ cs.length := by
  unfold fraction? at h
  split at h
  next =>
    obtain ⟨⟨ds, r⟩, hd, he⟩ := Option.map_eq_some_iff.1 h
    obtain ⟨rfl, rfl⟩ := Prod.mk.inj he
    have := length_of_digits? hd
    simp only [List.length_cons]
    omega
  next => simp_all

theorem length_of_signedDigits? {cs rest : List Symbol} {e : Exponent}
    (h : signedDigits? cs = some (e, rest)) : rest.length < cs.length := by
  unfold signedDigits? at h
  split at h <;> obtain ⟨⟨ds, r⟩, hd, he⟩ := Option.map_eq_some_iff.1 h <;>
    obtain ⟨rfl, rfl⟩ := Prod.mk.inj he <;> have := length_of_digits? hd <;>
    simp only [List.length_cons] at * <;> omega

theorem length_of_exponent? {cs rest : List Symbol} {e : Option Exponent}
    (h : exponent? cs = some (e, rest)) : rest.length ≤ cs.length := by
  unfold exponent? at h
  split at h
  next =>
    obtain ⟨⟨ds, r⟩, hd, he⟩ := Option.map_eq_some_iff.1 h
    obtain ⟨rfl, rfl⟩ := Prod.mk.inj he
    have := length_of_signedDigits? hd
    simp only [List.length_cons]
    omega
  next =>
    obtain ⟨⟨ds, r⟩, hd, he⟩ := Option.map_eq_some_iff.1 h
    obtain ⟨rfl, rfl⟩ := Prod.mk.inj he
    have := length_of_signedDigits? hd
    simp only [List.length_cons]
    omega
  next => simp_all

theorem length_of_unsigned? {negative : Bool} {cs rest : List Symbol} {n : Number}
    (h : unsigned? negative cs = some (n, rest)) : rest.length < cs.length := by
  obtain ⟨⟨w, r1⟩, hw, h⟩ := Option.bind_eq_some_iff.1 h
  obtain ⟨⟨f, r2⟩, hf, h⟩ := Option.bind_eq_some_iff.1 h
  obtain ⟨⟨e, r3⟩, he, h⟩ := Option.map_eq_some_iff.1 h
  simp only [Prod.mk.injEq] at h
  have h1 := length_of_whole? hw
  have h2 := length_of_fraction? hf
  have h3 := length_of_exponent? he
  have := congrArg List.length h.2
  omega

theorem length_of_number? {cs rest : List Symbol} {n : Number}
    (h : number? cs = some (n, rest)) : rest.length < cs.length := by
  unfold number? at h
  split at h
  next =>
    have := length_of_unsigned? h
    simp only [List.length_cons]
    omega
  next => exact length_of_unsigned? h

/-- A token takes at least one symbol. -/
theorem Token.length_of_next? {cs rest : List Symbol} {t : Token}
    (h : next? cs = some (t, rest)) : rest.length < cs.length := by
  unfold next? at h
  split at h
  case h_10 =>
    obtain ⟨⟨ps, r⟩, hp, he⟩ := Option.map_eq_some_iff.1 h
    obtain ⟨rfl, rfl⟩ := Prod.mk.inj he
    have := length_of_pieces? hp
    simp only [List.length_cons]
    omega
  case h_11 =>
    obtain ⟨⟨n, r⟩, hn, he⟩ := Option.map_eq_some_iff.1 h
    obtain ⟨rfl, rfl⟩ := Prod.mk.inj he
    exact length_of_number? hn
  all_goals simp_all <;> omega

def isSpace : Symbol → Bool
  | .char ' ' => true
  | .char '\t' => true
  | .char '\n' => true
  | .char '\r' => true
  | _ => false

end BlockIndexer.Json

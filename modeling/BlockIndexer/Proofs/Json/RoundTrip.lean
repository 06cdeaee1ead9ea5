import BlockIndexer.Json.Canonical
import BlockIndexer.Proofs.Json.Grammar
import BlockIndexer.Proofs.Text.Utf8

/-! A printed value is one of the texts of the document of this value, so it is read back as this
document, with any layout that suits it. -/

namespace BlockIndexer.Json

open BlockIndexer.Text

theorem endsNumber_itemsChars (vs : List Value) (rest : List Symbol) :
    EndsNumber ((itemsChars vs).map .char ++ rest) := by
  cases vs <;> simp [itemsChars, EndsNumber, digit?, Char.isDigit]

theorem endsNumber_membersChars (ms : List (String × Value)) (rest : List Symbol) :
    EndsNumber ((membersChars ms).map .char ++ rest) := by
  cases ms <;> simp [membersChars, EndsNumber, digit?, Char.isDigit]

/-- The key of a member and the colon after it. -/
theorem Lexes.key {rest : List Symbol} {ts : List Token} (k : String) (following : Lexes rest ts) :
    Lexes ((quoted k).map .char ++ .char ':' :: rest) (.string (some k) :: .colon :: ts) :=
  .token (Token.written_quoted k) nofun (.token .colon nofun following)

mutual

theorem lexes_chars : ∀ (v : Value) {ts : List Token} {rest : List Symbol}, EndsNumber rest →
    Lexes rest ts → Lexes ((chars v).map .char ++ rest) (v.document.tokens ++ ts)
  | .null, _, _, _, following => by
    rw [chars, document, Document.tokens]
    exact .token .null nofun following
  | .bool true, _, _, _, following => by
    rw [chars, document, Document.tokens]
    exact .token .true nofun following
  | .bool false, _, _, _, following => by
    rw [chars, document, Document.tokens]
    exact .token .false nofun following
  | .number n, _, _, ends, following => by
    rw [chars, document, Document.tokens]
    exact .token (.number n.written_chars) (fun _ _ => ends) following
  | .string s, _, _, _, following => by
    rw [chars, document, Document.tokens]
    exact .token (Token.written_quoted s) nofun following
  | .array [], ts, rest, _, following => by
    rw [chars, document, documents, Document.tokens]
    have close : Lexes (.char ']' :: rest) (.endArray :: ts) := .token .endArray nofun following
    exact (Lexes.token .beginArray nofun close :)
  | .array (v :: vs), ts, rest, _, following => by
    have items := lexes_itemsChars vs following
    have first := lexes_chars v (endsNumber_itemsChars vs rest) items
    rw [chars, document, documents, Document.tokens]
    simp only [List.map_append, List.map_cons, List.cons_append, List.append_assoc]
    exact .token .beginArray nofun first
  | .object [], ts, rest, _, following => by
    rw [chars, document, namedDocuments, Document.tokens]
    have close : Lexes (.char '}' :: rest) (.endObject :: ts) :=
      .token .endObject nofun following
    exact (Lexes.token .beginObject nofun close :)
  | .object ((k, v) :: ms), ts, rest, _, following => by
    have members := lexes_membersChars ms following
    have first := lexes_chars v (endsNumber_membersChars ms rest) members
    rw [chars, document, namedDocuments, Document.tokens]
    simp only [List.map_append, List.map_cons, List.cons_append, List.append_assoc]
    exact .token .beginObject nofun (first.key k)

theorem lexes_itemsChars : ∀ (vs : List Value) {ts : List Token} {rest : List Symbol},
    Lexes rest ts →
    Lexes ((itemsChars vs).map .char ++ rest) (Document.itemsTokens (documents vs) ++ ts)
  | [], _, _, following => by
    rw [itemsChars, documents, Document.itemsTokens]
    exact .token .endArray nofun following
  | v :: vs, ts, rest, following => by
    have items := lexes_itemsChars vs following
    have first := lexes_chars v (endsNumber_itemsChars vs rest) items
    rw [itemsChars, documents, Document.itemsTokens]
    simp only [List.map_append, List.map_cons, List.cons_append, List.append_assoc]
    exact .token .comma nofun first

theorem lexes_membersChars : ∀ (ms : List (String × Value)) {ts : List Token}
    {rest : List Symbol}, Lexes rest ts →
    Lexes ((membersChars ms).map .char ++ rest) (Document.membersTokens (namedDocuments ms) ++ ts)
  | [], _, _, following => by
    rw [membersChars, namedDocuments, Document.membersTokens]
    exact .token .endObject nofun following
  | (k, v) :: ms, ts, rest, following => by
    have members := lexes_membersChars ms following
    have first := lexes_chars v (endsNumber_membersChars ms rest) members
    rw [membersChars, namedDocuments, Document.membersTokens]
    simp only [List.map_append, List.map_cons, List.cons_append, List.append_assoc]
    exact .token .comma nofun (first.key k)

end

namespace Document

variable {layout : Layout} {v : Value}

/-- The text of a value writes the document of this value. -/
theorem written_text (v : Value) : v.document.WrittenBy (Symbol.ofString v.text) := by
  have lexes : Lexes ((chars v).map .char ++ []) (v.document.tokens ++ []) :=
    lexes_chars v nofun .nil
  rw [List.append_nil, List.append_nil] at lexes
  rwa [WrittenBy, Symbol.ofString, text, String.toList_ofList]

theorem ofText?_text (suits : Suits layout v.document) : ofText? layout v.text = some v.document :=
  ofSymbols?_of_written (written_text v) suits

theorem ofBytes?_utf8 (suits : Suits layout v.document) :
    ofBytes? layout (utf8 v.text) = some v.document := by
  rw [ofBytes?, Symbol.ofBytes_utf8]
  exact ofText?_text suits

end Document

end BlockIndexer.Json

import Downloads.Documents.Error

/-!
# Document ids

The document of a download is named by the id of the download in decimal. Reading accepts a minus
sign and decimal digits, and nothing else.
-/

namespace Downloads.DocumentId

/-- The document id of a download. -/
def ofRecordId (id : Int) : String := String.ofList ('i' :: 'd' :: ':' :: Text.decimalChars id)

/-- The characters after the sign, if there is one. -/
def unsigned : List Char → List Char
  | '-' :: ds => ds
  | ds => ds

/-- The download id that follows the colon. -/
def parseNumber? (s : List Char) : Option Int :=
  if !(unsigned s).isEmpty ∧ (unsigned s).all Char.isDigit then
    (Text.parseInteger 64 s).toOption
  else none

/-- The id of the download that a document id names. -/
def parse (text : String) : Except DocumentError Int :=
  match text.toList with
  | 'i' :: 'd' :: ':' :: s =>
    match parseNumber? s with
    | some id => .ok id
    | none => .error (.invalidDocumentId text)
  | _ => .error (.invalidDocumentId text)

end Downloads.DocumentId

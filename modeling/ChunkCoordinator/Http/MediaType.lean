import ChunkCoordinator.Text.Split

/-!
# Media types

`MediaType.isJson` tells whether a content type is `application/json` or another application type
in JSON syntax, in any case and with any well-formed parameters.
-/

namespace ChunkCoordinator.Http.MediaType

/-- The character can stand in a token. -/
def isTokenChar (c : Char) : Bool := c.isAlphanum || c ∈ "!#$%&\x27*+-.^_\x60|~".toList

/-- The character can stand between quotation marks. -/
def isQuotedChar (c : Char) : Bool := 0x20 ≤ c.toNat && c.toNat ≠ 0x7F

/-- Where a reader of parameters is. -/
inductive Place where
  | beforeName
  | inName
  | beforeValue
  | inValue
  | beforeQuoted
  | inQuoted
  | afterQuoted
  deriving DecidableEq

/-- Where the reader is after one more character. Spaces may stand before a name and behind a
quoted value. Between quotation marks there is one character at least, whatever it is. -/
def Place.step (place : Place) (c : Char) : Option Place :=
  match place with
  | beforeName => if c = ' ' then some beforeName else if isTokenChar c then some inName else none
  | inName => if c = '=' then some beforeValue else if isTokenChar c then some inName else none
  | beforeValue =>
    if c = '"' then some beforeQuoted else if isTokenChar c then some inValue else none
  | inValue => if c = ';' then some beforeName else if isTokenChar c then some inValue else none
  | beforeQuoted => if isQuotedChar c then some inQuoted else none
  | inQuoted => if c = '"' then some afterQuoted else if isQuotedChar c then some inQuoted else none
  | afterQuoted =>
    if c = ';' then some beforeName else if c = ' ' then some afterQuoted else none

/-- The reader may stop here. -/
def Place.isEnd (place : Place) : Bool :=
  place = beforeName || place = beforeValue || place = inValue || place = afterQuoted

/-- The parameters of a media type are well formed. -/
def parametersOk (place : Place) : List Char → Bool
  | [] => place.isEnd
  | c :: cs => match place.step c with | some place => parametersOk place cs | none => false

/-- The subtype is JSON, or its syntax, named behind the last plus sign, is. -/
def isJsonSubtype (subtype : List Char) : Bool :=
  let json := "json".toList
  match (Text.splitOn (· = '+') subtype).reverse with
  | syntaxName :: part :: parts =>
    let base := ['+'].intercalate (part :: parts).reverse
    !base.isEmpty && (syntaxName = json || base = json)
  | _ => subtype = json

/-- The content type is JSON. -/
def isJson (contentType : String) : Bool :=
  let cs := contentType.toList
  let (type, rest) := Text.splitAtFirst '/' cs
  let (subtype, parameters) := (rest.getD []).span (· ≠ ';')
  type.map Char.toLower = "application".toList && subtype.all isTokenChar &&
    isJsonSubtype (subtype.map Char.toLower) && parametersOk .beforeName (parameters.drop 1) &&
    cs.all fun c => c = '\t' || (0x20 ≤ c.toNat && c.toNat < 0x7F)

end ChunkCoordinator.Http.MediaType

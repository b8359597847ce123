import PgConverge.Json.Token

/-!
# Records in JSON text

A record has fields of known kinds in a fixed order. In JSON it is an object, whose members come in
any order and among others that are skipped, or an array of the fields' values in their order. The
first problem met from the left decides how reading fails.

## Main definitions

* `Json.Kind`, `Json.Field`, `Json.Record` — kinds of values, fields, and the records they make.
* `Json.Defect` — text that is no JSON, and JSON that is no such record.
* `Json.Record.parse` — reads a record.
* `Json.Record.members` — the members that stand for a record.
-/

namespace PgConverge.Json

/-- How reading fails. -/
inductive Defect where
  /-- The text is no JSON, or ends early. -/
  | malformed
  /-- A value of the wrong kind or out of range, a field missing or given twice. -/
  | mismatched
deriving DecidableEq, Repr

/-- The kinds of values that fields hold. -/
inductive Kind where
  | text
  | optionalText
  | flag
  | optionalFlag
  | int32
  | uint64
deriving DecidableEq, Repr

/-- The values of a kind. -/
abbrev Kind.Carrier : Kind → Type
  | text => String
  | optionalText => Option String
  | flag => Bool
  | optionalFlag => Option Bool
  | int32 => Int32
  | uint64 => UInt64

/-- What is wrong with a token in the place of a value of another kind. -/
def Token.defect : Token → Defect
  | .endObject | .endArray | .colon | .comma | .brokenText | .invalid => .malformed
  | .number n => if n.isFinite then .mismatched else .malformed
  | .beginObject | .beginArray | .null | .bool _ | .text _ => .mismatched

/-- An integer token with a value from `low` to `high`. -/
def Token.integerWithin? (low high : Int) : Token → Option Int
  | .number n => n.integer?.filter fun value => low ≤ value && value ≤ high
  | _ => none

/-- The value of a token in the place of a value of a kind. -/
def Kind.value? (kind : Kind) (token : Token) : Option kind.Carrier :=
  match kind, token with
  | .text, .text s => some s
  | .optionalText, .text s => some (some s)
  | .optionalText, .null => some none
  | .flag, .bool b => some b
  | .optionalFlag, .bool b => some (some b)
  | .optionalFlag, .null => some none
  | .int32, token =>
    (token.integerWithin? Int32.minValue.toInt Int32.maxValue.toInt).map Int32.ofInt
  | .uint64, token =>
    (token.integerWithin? 0 (UInt64.size - 1)).map fun n => UInt64.ofNat n.toNat
  | _, _ => none

/-- Reads a value of a kind. -/
def Kind.read (kind : Kind) (token : Token) : Except Defect kind.Carrier :=
  match kind.value? token with
  | some value => .ok value
  | none => .error token.defect

/-- The token for a value of a kind. -/
def Kind.token : (kind : Kind) → kind.Carrier → Token
  | .text, s => .text s
  | .optionalText, s => s.elim .null .text
  | .flag, b => .bool b
  | .optionalFlag, b => b.elim .null .bool
  | .int32, n => .number (.ofInt n.toInt)
  | .uint64, n => .number (.ofInt n.toNat)

/-- A field of a record. -/
structure Field where
  name : String
  kind : Kind
  /-- The value where an object has no such member; without one the member is required. -/
  absent : Option kind.Carrier
  /-- The value where an array ends before the field; without one the element is required. -/
  beyond : Option kind.Carrier

namespace Field

/-- A field that has to be given. -/
def required (name : String) (kind : Kind) : Field := ⟨name, kind, none, none⟩

/-- A field with a default value. -/
def withDefault (name : String) (kind : Kind) (value : kind.Carrier) : Field :=
  ⟨name, kind, some value, some value⟩

/-- A field with a default value in objects, while arrays have to give it. -/
def withMemberDefault (name : String) (kind : Kind) (value : kind.Carrier) : Field :=
  ⟨name, kind, some value, none⟩

end Field

/-- A value for each field. -/
abbrev Record : List Field → Type
  | [] => Unit
  | field :: fields => field.kind.Carrier × Record fields

/-- A record of which some fields have been read. -/
abbrev Draft : List Field → Type
  | [] => Unit
  | field :: fields => Option field.kind.Carrier × Draft fields

namespace Draft

/-- A draft with no field read. -/
def empty : {fields : List Field} → Draft fields
  | [] => ()
  | _ :: _ => (none, empty)

/-- Whether the field of a name has been read; no result if there is no such field. -/
def isRead? (name : String) : {fields : List Field} → Draft fields → Option Bool
  | [], _ => none
  | field :: _, (value, rest) =>
    if field.name == name then some value.isSome else isRead? name rest

/-- Reads the field of a name from a token. -/
def read (name : String) (token : Token) :
    {fields : List Field} → Draft fields → Except Defect (Draft fields)
  | [], _ => .ok ()
  | field :: _, (value, rest) =>
    if field.name == name then do
      let value ← field.kind.read token
      return (some value, rest)
    else do
      let rest ← read name token rest
      return (value, rest)

/-- The record of a draft, with default values where a field has not been read. -/
def complete : {fields : List Field} → Draft fields → Except Defect (Record fields)
  | [], _ => .ok ()
  | field :: _, (value, rest) =>
    match value <|> field.absent with
    | some value => do return (value, ← complete rest)
    | none => .error .mismatched

end Draft

/-- The brackets that are open around a place. -/
inductive Frame where
  | object
  | array
deriving DecidableEq, Repr

/-- What may come next inside a value that is skipped. -/
inductive Expected where
  | value
  | valueOrEnd
  | key
  | keyOrEnd
  | colon
  | commaOrEnd
deriving DecidableEq, Repr

/-- A place inside a value that is skipped. -/
structure Skip where
  frames : List Frame
  expected : Expected
deriving DecidableEq, Repr

namespace Skip

/-- The place in front of a value. -/
def start : Skip := ⟨[], .value⟩

/-- The place behind a value, or `none` if it was the whole one. -/
def afterValue : List Frame → Option Skip
  | [] => none
  | frames => some ⟨frames, .commaOrEnd⟩

/-- Moves over one token: to another place, to the end, or not at all if the token cannot stand
there. -/
def step (place : Skip) (token : Token) : Except Defect (Option Skip) :=
  match place.expected, token, place.frames with
  | .value, .beginObject, frames | .valueOrEnd, .beginObject, frames =>
    .ok (some ⟨.object :: frames, .keyOrEnd⟩)
  | .value, .beginArray, frames | .valueOrEnd, .beginArray, frames =>
    .ok (some ⟨.array :: frames, .valueOrEnd⟩)
  | .value, .null, frames | .valueOrEnd, .null, frames
  | .value, .bool _, frames | .valueOrEnd, .bool _, frames
  | .value, .number _, frames | .valueOrEnd, .number _, frames
  | .value, .text _, frames | .valueOrEnd, .text _, frames
  | .value, .brokenText, frames | .valueOrEnd, .brokenText, frames => .ok (afterValue frames)
  | .key, .text _, frames | .keyOrEnd, .text _, frames
  | .key, .brokenText, frames | .keyOrEnd, .brokenText, frames => .ok (some ⟨frames, .colon⟩)
  | .colon, .colon, frames => .ok (some ⟨frames, .value⟩)
  | .commaOrEnd, .comma, .array :: frames => .ok (some ⟨.array :: frames, .value⟩)
  | .commaOrEnd, .comma, .object :: frames => .ok (some ⟨.object :: frames, .key⟩)
  | .commaOrEnd, .endArray, .array :: frames | .valueOrEnd, .endArray, .array :: frames
  | .commaOrEnd, .endObject, .object :: frames | .keyOrEnd, .endObject, .object :: frames =>
    .ok (afterValue frames)
  | _, _, _ => .error .malformed

end Skip

/-- Where the reader of an object stands. -/
inductive Place where
  /-- Behind the opening brace. -/
  | first
  /-- Behind a member. -/
  | next
  /-- Inside a member that is no field. -/
  | inside (skip : Skip)
deriving DecidableEq, Repr

/-- Reads the members of an object up to the closing brace and gives the tokens behind it. -/
def readMembers {fields : List Field} :
    Place → Draft fields → List Token → Except Defect (Draft fields × List Token)
  | .inside skip, draft, token :: rest =>
    match skip.step token with
    | .ok (some skip) => readMembers (.inside skip) draft rest
    | .ok none => readMembers .next draft rest
    | .error defect => .error defect
  | .first, draft, .endObject :: rest => .ok (draft, rest)
  | .next, draft, .endObject :: rest => .ok (draft, rest)
  | .next, draft, .comma :: .text name :: rest => readMember name draft rest
  | .first, draft, .text name :: rest => readMember name draft rest
  | _, _, _ => .error .malformed
where
  /-- Reads a member behind its name. -/
  readMember (name : String) (draft : Draft fields) (rest : List Token) :
      Except Defect (Draft fields × List Token) :=
    match draft.isRead? name, rest with
    | some true, _ => .error .mismatched
    | some false, .colon :: token :: rest =>
      match draft.read name token with
      | .ok draft => readMembers .next draft rest
      | .error defect => .error defect
    | none, .colon :: rest => readMembers (.inside .start) draft rest
    | _, _ => .error .malformed

/-- The tokens from the next element of an array on, with the separator in front of it read. -/
def nextElement? : (isFirst : Bool) → List Token → Option (List Token)
  | true, rest => some rest
  | false, .comma :: rest => some rest
  | false, _ => none

/-- Reads the elements of an array up to the closing bracket and gives the tokens behind it. -/
def readElements : (fields : List Field) → (isFirst : Bool) → List Token →
    Except Defect (Record fields × List Token)
  | [], _, .endArray :: rest => .ok ((), rest)
  | [], _, _ => .error .malformed
  | field :: fields, isFirst, .endArray :: rest =>
    match field.beyond with
    | some value => do
      let (values, rest) ← readElements fields isFirst (.endArray :: rest)
      return ((value, values), rest)
    | none => .error .mismatched
  | field :: fields, isFirst, tokens =>
    match nextElement? isFirst tokens with
    | some (token :: rest) => do
      let value ← field.kind.read token
      let (values, rest) ← readElements fields false rest
      return ((value, values), rest)
    | _ => .error .malformed

namespace Record

/-- Reads the record at the front of a list of tokens and gives the tokens behind it. -/
def take (fields : List Field) : List Token → Except Defect (Record fields × List Token)
  | .beginObject :: rest => do
    let (draft, rest) ← readMembers .first Draft.empty rest
    return (← draft.complete, rest)
  | .beginArray :: rest => readElements fields true rest
  | token :: _ => .error token.defect
  | [] => .error .malformed

/-- Reads a text that holds a record and nothing else. -/
def parse (fields : List Field) (s : String) : Except Defect (Record fields) :=
  match take fields (tokens s) with
  | .ok (record, []) => .ok record
  | .ok (_, _ :: _) => .error .malformed
  | .error defect => .error defect

/-- The members that stand for a record, in the order of the fields. -/
def members : {fields : List Field} → Record fields → List (String × Token)
  | [], _ => []
  | field :: _, (value, rest) => (field.name, field.kind.token value) :: members rest

end Record

end PgConverge.Json

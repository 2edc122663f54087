import ProfileClient.Settings.Basic
/-!
Reading a settings file. The text is read from left to right against the fields that settings have,
and the first problem met is the one reported: a fault of the text, or a value or a repetition that
does not fit although the text is in order so far. Members of other names are passed over without a
look at what they hold. A list of values, in the order of the fields, is accepted too.
-/
namespace ProfileClient.Settings

inductive Fault where
  | text (fault : Json.Fault)
  /-- A value of another type, or a second value for one field. -/
  | mismatched
deriving DecidableEq, Repr

/-- The fields that a file can set. -/
inductive Field where
  | baseUrl
  | email
  | orgId
  | timeoutSecs
deriving DecidableEq, Repr

def Field.ofName? (name : String) : Option Field :=
  if name = "base_url" then some .baseUrl
  else if name = "email" then some .email
  else if name = "org_id" then some .orgId
  else if name = "request_timeout_secs" then some .timeoutSecs
  else none

/-- The fields read so far. A field that was read as `null` counts as read. -/
structure Draft where
  baseUrl : Option String
  email : Option (Option String)
  orgId : Option (Option String)
  timeoutSecs : Option (Option Nat)

namespace Draft

def empty : Draft := ⟨none, none, none, none⟩

def has (draft : Draft) : Field → Bool
  | .baseUrl => draft.baseUrl.isSome
  | .email => draft.email.isSome
  | .orgId => draft.orgId.isSome
  | .timeoutSecs => draft.timeoutSecs.isSome

/-- The settings, with the default for each field that was not read. -/
def settings (draft : Draft) : Settings where
  baseUrl := draft.baseUrl.getD initial.baseUrl
  email := draft.email.getD initial.email
  orgId := draft.orgId.getD initial.orgId
  timeoutSecs := draft.timeoutSecs.getD initial.timeoutSecs
  password := initial.password

end Draft

abbrev Reading (α : Type) (text : List Char) := Except Fault (α × Json.Rest text)

/-- The same reading, any fault of the text being a fault of the settings. -/
def ofJson {α : Type} {text : List Char} : Json.Reading α text → Reading α text
  | .error fault => .error (.text fault)
  | .ok reading => .ok reading

def Reading.within {α : Type} {inner outer : List Char} (h : inner.length ≤ outer.length) :
    Reading α inner → Reading α outer
  | .error fault => .error fault
  | .ok (value, rest) => .ok (value, rest.within h)

def Reading.map {α β : Type} {text : List Char} (f : α → β) : Reading α text → Reading β text
  | .error fault => .error fault
  | .ok (value, rest) => .ok (f value, rest)

/-- The fault of a value that starts with `c` where another type is wanted. Keywords, numbers and
strings are read to their end first, arrays and objects are not. -/
def mismatch (c : Char) (rest : List Char) : Fault :=
  let after {α : Type} {text : List Char} (reading : Json.Reading α text) : Fault :=
    match reading with
    | .error fault => .text fault
    | .ok _ => .mismatched
  if c = 'n' then after (Json.keyword () "ull" c rest)
  else if c = 't' then after (Json.keyword () "rue" c rest)
  else if c = 'f' then after (Json.keyword () "alse" c rest)
  else if c = '-' ∨ c.isDigit then after (Json.strictNumber (c :: rest))
  else if c = '"' then after (Json.quoted Json.scalar rest)
  else if c = '[' ∨ c = '\x7b' then .mismatched
  else .text .malformed

def stringFrom (c : Char) (rest : List Char) : Reading String (c :: rest) :=
  if c = '"' then (ofJson (Json.quoted Json.scalar rest)).within (Json.length_le_cons c rest)
  else .error (mismatch c rest)

/-- A number of seconds that starts with `c`: written without point, exponent and sign. -/
def secondsFrom (c : Char) (rest : List Char) : Reading Nat (c :: rest) :=
  if c = '-' ∨ c.isDigit then
    match Json.strictNumber (c :: rest) with
    | .error fault => .error (.text fault)
    | .ok (.whole (.ofNat secs), after) => .ok (secs, after)
    | .ok _ => .error .mismatched
  else .error (mismatch c rest)

/-- A value that may also be `null`. -/
def optionalFrom {α : Type} (value : (c : Char) → (rest : List Char) → Reading α (c :: rest))
    (c : Char) (rest : List Char) : Reading (Option α) (c :: rest) :=
  if c = 'n' then ofJson (Json.keyword none "ull" c rest)
  else (value c rest).map some

/-- The value of a field, put into the draft. -/
def fieldFrom (field : Field) (draft : Draft) (c : Char) (rest : List Char) :
    Reading Draft (c :: rest) :=
  match field with
  | .baseUrl => (stringFrom c rest).map fun v => { draft with baseUrl := some v }
  | .email => (optionalFrom stringFrom c rest).map fun v => { draft with email := some v }
  | .orgId => (optionalFrom stringFrom c rest).map fun v => { draft with orgId := some v }
  | .timeoutSecs =>
    (optionalFrom secondsFrom c rest).map fun v => { draft with timeoutSecs := some v }

def fieldValue (field : Field) (draft : Draft) (text : List Char) : Reading Draft text :=
  match hs : Json.skipSpace text with
  | [] => .error (.text .truncated)
  | c :: rest =>
    (fieldFrom field draft c rest).within (Json.length_cons_le_of_skipSpace hs)

def colon (text : List Char) : Reading Unit text :=
  match hs : Json.skipSpace text with
  | [] => .error (.text .truncated)
  | c :: rest =>
    if c = ':' then .ok ((), ⟨rest, Json.length_le_of_skipSpace hs⟩)
    else .error (.text .malformed)

def memberName (text : List Char) : Reading String text :=
  match hs : Json.skipSpace text with
  | [] => .error (.text .truncated)
  | c :: rest =>
    if c = '"' then
      (ofJson (Json.quoted Json.scalar rest)).within
        (Nat.le_of_lt (Json.length_le_of_skipSpace hs))
    else .error (.text .malformed)

/-- What stands after the name of a member. That a field is read twice shows before its value. A
value that is passed over nests to at most `depth`. -/
def memberValue (depth : Nat) (name : String) (draft : Draft) (text : List Char) :
    Reading Draft text :=
  match Field.ofName? name with
  | some field =>
    if draft.has field then .error .mismatched
    else
      match colon text with
      | .error fault => .error fault
      | .ok ((), rest) => (fieldValue field draft rest.1).within (Nat.le_of_lt rest.2)
  | none =>
    match colon text with
    | .error fault => .error fault
    | .ok ((), rest) =>
      ((ofJson (Json.skip depth rest.1)).map fun _ => draft).within (Nat.le_of_lt rest.2)

/-- The members from the next one on, up to the closing brace. -/
def members {origin : List Char} (depth : Nat) (draft : Draft) (text : List Char)
    (h : text.length ≤ origin.length) : Reading Draft origin :=
  match memberName text with
  | .error fault => .error fault
  | .ok (name, start) =>
    match memberValue depth name draft start.1 with
    | .error fault => .error fault
    | .ok (draft, rest) =>
      match hs : Json.skipSpace rest.1 with
      | [] => .error (.text .truncated)
      | c :: after =>
        have shorter : after.length < text.length :=
          Nat.lt_trans (Json.length_le_of_skipSpace hs) (Nat.lt_trans rest.2 start.2)
        if c = '\x7d' then .ok (draft, ⟨after, Nat.lt_of_lt_of_le shorter h⟩)
        else if c = ',' then members depth draft after (Nat.le_trans (Nat.le_of_lt shorter) h)
        else .error (.text .malformed)
termination_by text.length

/-- The values of the remaining fields; a list may end after any of them and must end after the
last. -/
def listed {origin : List Char} (draft : Draft) : (fields : List Field) → (text : List Char) →
    text.length ≤ origin.length → Reading Draft origin
  | [], _, _ => .error (.text .malformed)
  | field :: fields, text, h =>
    match fieldValue field draft text with
    | .error fault => .error fault
    | .ok (draft, rest) =>
      match hs : Json.skipSpace rest.1 with
      | [] => .error (.text .truncated)
      | c :: after =>
        have shorter : after.length < text.length :=
          Nat.succ_le_of_lt (Nat.lt_trans (Json.length_le_of_skipSpace hs) rest.2)
        if c = ']' then .ok (draft, ⟨after, Nat.lt_of_lt_of_le shorter h⟩)
        else if c = ',' then
          listed draft fields after (Nat.le_trans (Nat.le_of_lt shorter) h)
        else .error (.text .malformed)

/-- The settings that start with `c`, given what follows it. All of it together bounds the nesting
of each member. -/
def draftFrom (c : Char) (rest : List Char) : Reading Draft (c :: rest) :=
  if c = '\x7b' then
    match hs : Json.skipSpace rest with
    | '\x7d' :: after =>
      .ok (.empty, ⟨after, Nat.lt_succ_of_lt (Json.length_le_of_skipSpace hs)⟩)
    | _ => members rest.length .empty rest (Json.length_le_cons c rest)
  else if c = '[' then
    match hs : Json.skipSpace rest with
    | ']' :: after =>
      .ok (.empty, ⟨after, Nat.lt_succ_of_lt (Json.length_le_of_skipSpace hs)⟩)
    | _ => listed .empty [.baseUrl, .email, .orgId, .timeoutSecs] rest (Json.length_le_cons c rest)
  else .error (mismatch c rest)

/-- The fields that the text of a file sets. -/
def readDraft (text : List Char) : Except Fault Draft :=
  match Json.skipSpace text with
  | [] => .error (.text .truncated)
  | c :: rest =>
    match draftFrom c rest with
    | .error fault => .error fault
    | .ok (draft, after) =>
      if (Json.skipSpace after.1).isEmpty then .ok draft
      else .error (.text .malformed)

def read (text : List Char) : Except Fault Settings :=
  match readDraft text with
  | .error fault => .error fault
  | .ok draft => .ok draft.settings

inductive FileError where
  /-- It is missing or is not a text. -/
  | unreadable
  | unparsable (fault : Fault)
deriving DecidableEq, Repr

def FileError.message (path : String) : FileError → String
  | .unreadable => s!"Failed to read config file {path}"
  | .unparsable _ => s!"Failed to parse config file {path}"

/-- The settings that a file gives; no octets stand for a missing file. -/
def ofFile : Option (List UInt8) → Except FileError Settings
  | none => .error .unreadable
  | some octets =>
    match Text.Utf8.decode? octets with
    | none => .error .unreadable
    | some text =>
      match read text with
      | .error fault => .error (.unparsable fault)
      | .ok settings => .ok settings

/-- The settings of the file, if there is one, overridden by the environment. -/
def load (file : Option (List UInt8)) (environment : Environment) : Except FileError Settings :=
  match file with
  | none => .ok (initial.override environment)
  | some octets =>
    match ofFile (some octets) with
    | .error error => .error error
    | .ok settings => .ok (settings.override environment)

end ProfileClient.Settings

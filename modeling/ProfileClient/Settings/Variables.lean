import ProfileClient.Settings.Basic
import ProfileClient.Text.Blank
import ProfileClient.Text.Alphanumeric
/-!
Variables from a file of assignments `NAME=value`, one per line. Quotes may stretch a value over
several lines; a value may name variables that are known already. Variables of the environment are
left alone, and the first line that is no assignment ends the reading: what was read before it
counts.
-/
namespace ProfileClient.Settings.Variables

/-- Where the reading of a line stands, as far as its end is concerned. -/
inductive LineState where
  | complete
  | blank
  | escape
  | weak
  | weakEscape
  | strong
  | strongEscape
deriving DecidableEq, Repr

/-- The state after a character; `none` where a comment starts. -/
def LineState.next (c : Char) : LineState → Option LineState
  | .blank =>
    if c = '#' then none
    else if c = '\\' then some .escape
    else if c = '"' then some .weak
    else if c = '\'' then some .strong
    else some .complete
  | .complete =>
    if Text.isBlank c && c != '\n' && c != '\r' then some .blank
    else if c = '\\' then some .escape
    else if c = '"' then some .weak
    else if c = '\'' then some .strong
    else some .complete
  | .escape => some .complete
  | .weak => some (if c = '\\' then .weakEscape else if c = '"' then .complete else .weak)
  | .weakEscape => some .weak
  | .strong => some (if c = '\\' then .strongEscape else if c = '\'' then .complete else .strong)
  | .strongEscape => some .strong

/-- The state at the end of a line, or else what stands before its comment. -/
def scanLine (state : LineState) (seen : List Char) : List Char → LineState ⊕ List Char
  | [] => .inl state
  | c :: rest =>
    match state.next c with
    | some state => scanLine state (c :: seen) rest
    | none => .inr seen.reverse

/-- The text cut after each line feed. -/
def physicalLines (current : List Char) : List Char → List (List Char)
  | [] => if current.isEmpty then [] else [current.reverse]
  | c :: rest =>
    if c = '\n' then (c :: current).reverse :: physicalLines [] rest
    else physicalLines (c :: current) rest

def withoutLineEnd (line : List Char) : List Char :=
  if line.getLast? = some '\n' then
    let line := line.dropLast
    if line.getLast? = some '\r' then line.dropLast else line
  else line

def isComment (line : List Char) : Bool := (line.dropWhile Text.isBlank).head? == some '#'

/-- Lines that belong together joined to one; `none` stands for one that never ends. What earlier
lines gave to the present one is in `held`, last character first; a comment is a line of its own. -/
def joinLines (state : LineState) (held : List Char) : List (List Char) → List (Option (List Char))
  | [] => if state = .complete then [] else [none]
  | line :: rest =>
    if held.isEmpty && isComment line then some [] :: joinLines .complete [] rest
    else
      match scanLine state [] line with
      | .inl .complete =>
        some (withoutLineEnd (line.reverse ++ held).reverse) :: joinLines .complete [] rest
      | .inl state => joinLines state (line.reverse ++ held) rest
      | .inr kept => some (kept.reverse ++ held).reverse :: joinLines .complete [] rest

/-- Where the reading of a value stands. Inside weak quotes, escapes and names are still taken. -/
inductive ValueState where
  | bare
  | strong
  | weak
  | escaped (quoted : Bool)
  | named (quoted : Bool) (name : List Char)
  | braced (quoted : Bool) (name : List Char)
  /-- After a blank: only blanks and a comment may follow. -/
  | ending

def ValueState.after (quoted : Bool) : ValueState := if quoted then .weak else .bare

/-- The characters that a backslash may stand before, with what they give. -/
def escapeValue? (c : Char) : Option Char :=
  if c = '\\' ∨ c = '\'' ∨ c = '"' ∨ c = '$' ∨ c = ' ' then some c
  else if c = 'n' then some '\n'
  else none

/-- What the environment holds under a name. There a variable stands as `NAME=VALUE`, and a look-up
takes the text before an equals sign: a name with such a sign reaches into a value. -/
def lookUp (environment : Environment) (name : List Char) : Option (List Char) :=
  let value := (environment (String.ofList (name.takeWhile (· ≠ '=')))).map String.toList
  match name.dropWhile (· ≠ '=') with
  | [] => value
  | _ :: more => value.bind (more ++ ['=']).isPrefixOf?

/-- The value of a name, last character first; an unknown one has none. -/
def substitute (environment : Environment) (name : List Char) : List Char :=
  ((lookUp environment name.reverse).getD []).reverse

/-- Reads a value with `done` read so far; both it and names stand last character first. -/
def valueOnto (environment : Environment) (state : ValueState) (done : List Char) :
    List Char → Option String
  | [] =>
    match state with
    | .bare | .ending | .escaped false => some (String.ofList done.reverse)
    | .named false name => some (String.ofList (substitute environment name ++ done).reverse)
    | _ => none
  | c :: rest =>
    match state with
    | .ending =>
      if c = ' ' ∨ c = '\t' then valueOnto environment .ending done rest
      else if c = '#' then some (String.ofList done.reverse)
      else none
    | .escaped quoted =>
      match escapeValue? c with
      | some value => valueOnto environment (.after quoted) (value :: done) rest
      | none => none
    | .strong =>
      if c = '\'' then valueOnto environment .bare done rest
      else valueOnto environment .strong (c :: done) rest
    | .named quoted name =>
      if Text.isAlphanumeric c then valueOnto environment (.named quoted (c :: name)) done rest
      else if c = '\x7b' ∧ name.isEmpty then valueOnto environment (.braced quoted []) done rest
      else
        let done := substitute environment name ++ done
        if c = '$' then valueOnto environment (.named quoted []) done rest
        else valueOnto environment (.after quoted) (c :: done) rest
    | .braced quoted name =>
      if c = '\x7d' then
        valueOnto environment (.after quoted) (substitute environment name ++ done) rest
      else valueOnto environment (.braced quoted (c :: name)) done rest
    | .weak =>
      if c = '$' then valueOnto environment (.named true []) done rest
      else if c = '"' then valueOnto environment .bare done rest
      else if c = '\\' then valueOnto environment (.escaped true) done rest
      else valueOnto environment .weak (c :: done) rest
    | .bare =>
      if c = '$' then valueOnto environment (.named false []) done rest
      else if c = '\'' then valueOnto environment .strong done rest
      else if c = '"' then valueOnto environment .weak done rest
      else if c = '\\' then valueOnto environment (.escaped false) done rest
      else if c = ' ' ∨ c = '\t' then valueOnto environment .ending done rest
      else valueOnto environment .bare (c :: done) rest

def isNameChar (c : Char) : Bool := c.isAlphanum || c == '_' || c == '.'

def name? (line : List Char) : Option (String × List Char) :=
  match line with
  | [] => none
  | c :: _ =>
    if c.isAlpha || c == '_' then
      some (String.ofList (line.takeWhile isNameChar),
        (line.dropWhile isNameChar).dropWhile Text.isBlank)
    else none

def afterEquals? : List Char → Option (List Char)
  | '=' :: rest => some rest
  | _ => none

/-- The name of an assignment and what follows its equals sign. The word `export` may stand before
the name, and may also be the name. -/
def target? (line : List Char) : Option (String × List Char) := do
  let (name, rest) ← name? line
  match afterEquals? rest with
  | some value => return (name, value)
  | none =>
    if name = "export" then
      let (name, rest) ← name? rest
      return (name, ← afterEquals? rest)
    else none

inductive Line where
  | empty
  | assignment (name value : String)
  | malformed

def Line.read (environment : Environment) (line : List Char) : Line :=
  let line := (line.reverse.dropWhile Text.isBlank).reverse.dropWhile Text.isBlank
  if line.isEmpty || line.head? == some '#' then .empty
  else
    match target? line with
    | none => .malformed
    | some (name, rest) =>
      let rest := rest.dropWhile Text.isBlank
      if rest.isEmpty || rest.head? == some '#' then .assignment name ""
      else
        match valueOnto environment .bare [] rest with
        | some value => .assignment name value
        | none => .malformed

def define (name value : String) (environment : Environment) : Environment := fun asked =>
  (environment asked).or (if asked = name then some value else none)

/-- Takes over the assignments of the lines up to the first that is none. -/
def addLines (environment : Environment) : List (Option (List Char)) → Environment
  | [] => environment
  | none :: _ => environment
  | some line :: rest =>
    match Line.read environment line with
    | .empty => addLines environment rest
    | .assignment name value => addLines (define name value environment) rest
    | .malformed => environment

/-- The environment with the variables of a text; a mark of the byte order before it is ignored. -/
def add (text : List Char) (environment : Environment) : Environment :=
  let text := if text.head? = some '\uFEFF' then text.drop 1 else text
  addLines environment (joinLines .complete [] (physicalLines [] text))

end ProfileClient.Settings.Variables

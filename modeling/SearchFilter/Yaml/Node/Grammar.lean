import SearchFilter.Yaml.Node.Implicit
import SearchFilter.Yaml.Token.Lexer

/-!
Nodes out of tokens. A node may be named by an anchor and referred to afterwards; a text holds one
document at most, and the handles of its tags hold for that document.
-/

namespace SearchFilter.Yaml

/-- The tokens that are left, the anchors so far, and the handles of tags. An anchor whose
collection is still open has no node yet. -/
structure Pass where
  rest : List Token
  stop : Problem
  anchors : List (String × Option Node)
  handles : List (String × String)

abbrev Parse := StateT Pass (Except Problem)

namespace Parse

def fail {α : Type} (fault : Fault) : Parse α :=
  throw (.broken fault)

/-- The next token. Where the tokens end, the problem behind them shows. -/
def peek : Parse Token := do
  let pass ← get
  match pass.rest with
  | token :: _ => pure token
  | [] => throw pass.stop

/-- Moves over the next token. -/
def drop : Parse Unit :=
  modify fun pass => { pass with rest := pass.rest.drop 1 }

/-- Moves over a token if it is the next one. -/
def accept (token : Token) : Parse Bool := do
  if (← peek) = token then
    drop
    pure true
  else pure false

/-- The handles that every document has. -/
def standardHandles : List (String × String) :=
  [("!", "!"), ("!!", Tag.namespaceText)]

/-! ### What stands before a node -/

def anchor? : Parse (Option String) := do
  match ← peek with
  | .anchor name => drop; pure (some name)
  | _ => pure none

def tagName? : Parse (Option TagName) := do
  match ← peek with
  | .tag name => drop; pure (some name)
  | _ => pure none

/-- The full name of a tag: its handle has to be known. -/
def fullName (name : TagName) : Parse String := do
  match name.handle with
  | none => pure name.suffix
  | some handle => match (← get).handles.lookup handle with
    | some target => pure (target ++ name.suffix)
    | none => fail .grammar

/-- An anchor and the name of a tag, in either order. -/
def properties : Parse (Option String × Option String) := do
  let before ← anchor?
  let tag ← tagName?
  let anchor ← if before.isNone && tag.isSome then anchor? else pure before
  pure (anchor, ← tag.mapM fullName)

/-- The tag of a collection: the one it is given, else the one of its kind. -/
def collectionTag (name : Option String) (kind : Tag) : Tag :=
  match name with
  | none | some "!" => kind
  | some name => .ofName name

/-- The tag of a scalar: the one it is given, else what a plain one stands for. -/
def scalarTag (name : Option String) (plain : Bool) (text : String) : Tag :=
  match name with
  | none => if plain then .ofPlain text else .text
  | some "!" => .ofPlain text
  | some name => .ofName name

/-- An anchor names one node of a document. -/
def declare (anchor : Option String) : Parse Unit := do
  match anchor with
  | none => pure ()
  | some name =>
    if (← get).anchors.any (·.1 == name) then fail .references
    else modify fun pass => { pass with anchors := (name, none) :: pass.anchors }

/-- Gives an anchor its node. -/
def bindNode (anchor : Option String) (node : Node) : Parse Node := do
  match anchor with
  | none => pure ()
  | some name => modify fun pass => { pass with anchors := (name, some node) :: pass.anchors }
  pure node

/-- The node that a name refers to. -/
def resolve (name : String) : Parse Node := do
  match (← get).anchors.lookup name with
  | none => fail .references
  | some none => pure .enclosing
  | some (some node) => pure node

/-! ### Nodes -/

/-- A collection under an anchor, which its own parts may already refer to. -/
def collection (anchor : Option String) (content : Parse Node) : Parse Node := do
  declare anchor
  bindNode anchor (← content)

/-- A value is left out before one of these tokens. -/
def leftOut (ends : List Token) : Parse Bool := do
  pure (ends.contains (← peek))

mutual

/-- A node. A block may only begin where blocks may, and the entries of a sequence under a key need
no indentation of their own. -/
def node (blocks unindented : Bool) : Nat → Parse Node
  | 0 => fail .grammar
  | fuel + 1 => do
    match ← peek with
    | .reference name =>
      drop
      resolve name
    | _ =>
      let (anchor, name) ← properties
      match ← peek with
      | .scalar plain text =>
        drop
        declare anchor
        bindNode anchor (.scalar (scalarTag name plain text) text)
      | .bracketOpen => collection anchor do
          drop
          pure (.sequence (collectionTag name .sequence) (← flowItems true fuel))
      | .braceOpen => collection anchor do
          drop
          pure (.mapping (collectionTag name .mapping) (← flowEntries true fuel))
      | token =>
        if unindented && token = .dash then collection anchor do
          pure (.sequence (collectionTag name .sequence) (← items false fuel))
        else if blocks && token = .sequenceOpen then collection anchor do
          drop
          pure (.sequence (collectionTag name .sequence) (← items true fuel))
        else if blocks && token = .mappingOpen then collection anchor do
          drop
          pure (.mapping (collectionTag name .mapping) (← entries fuel))
        else if anchor.isSome || name.isSome then do
          declare anchor
          bindNode anchor (.scalar (scalarTag name true "") "")
        else fail .grammar

/-- The entries of a block sequence; one without indentation ends where no entry follows. -/
def items (closed : Bool) : Nat → Parse (List Node)
  | 0 => fail .grammar
  | fuel + 1 => do
    if ← accept .dash then
      let ends := if closed then [.dash, .blockClose] else [.dash, .key, .colon, .blockClose]
      let item ← if ← leftOut ends then pure .empty else node true false fuel
      pure (item :: (← items closed fuel))
    else if closed then
      if ← accept .blockClose then pure [] else fail .grammar
    else pure []

/-- The entries of a block mapping. -/
def entries : Nat → Parse (List (Node × Node))
  | 0 => fail .grammar
  | fuel + 1 => do
    if ← accept .key then
      let ends := [.key, .colon, .blockClose]
      let key ← if ← leftOut ends then pure .empty else node true true fuel
      let value ←
        if ← accept .colon then
          if ← leftOut ends then pure .empty else node true true fuel
        else pure .empty
      pure ((key, value) :: (← entries fuel))
    else if ← accept .blockClose then pure []
    else fail .grammar

/-- The value after a key inside brackets. -/
def flowValue (close : Token) : Nat → Parse Node
  | 0 => fail .grammar
  | fuel + 1 => do
    if ← accept .colon then
      if ← leftOut [.comma, close] then pure .empty else node false false fuel
    else pure .empty

/-- A key and its value inside brackets, behind the mark of a key. -/
def flowEntry (close : Token) : Nat → Parse (Node × Node)
  | 0 => fail .grammar
  | fuel + 1 => do
    let key ← if ← leftOut [.colon, .comma, close] then pure .empty else node false false fuel
    let value ← flowValue close fuel
    pure (key, value)

/-- The items of a sequence in brackets; a key with its value is a mapping of one entry. -/
def flowItems (first : Bool) : Nat → Parse (List Node)
  | 0 => fail .grammar
  | fuel + 1 => do
    if ← accept .bracketClose then pure []
    else
      if !first then
        if !(← accept .comma) then fail .grammar
      if ← accept .key then
        let entry ← flowEntry .bracketClose fuel
        pure (.mapping .mapping [entry] :: (← flowItems false fuel))
      else if ← accept .bracketClose then pure []
      else
        let item ← node false false fuel
        pure (item :: (← flowItems false fuel))

/-- The entries of a mapping in braces; a key may stand alone. -/
def flowEntries (first : Bool) : Nat → Parse (List (Node × Node))
  | 0 => fail .grammar
  | fuel + 1 => do
    if ← accept .braceClose then pure []
    else
      if !first then
        if !(← accept .comma) then fail .grammar
      if ← accept .key then
        let entry ← flowEntry .braceClose fuel
        pure (entry :: (← flowEntries false fuel))
      else if ← accept .braceClose then pure []
      else
        let key ← node false false fuel
        let _ ← peek
        pure ((key, .empty) :: (← flowEntries false fuel))

end

/-! ### Documents -/

/-- The lines about a document. -/
def pragmas : Nat → (versioned : Bool) → List (String × String) → Parse (List (String × String))
  | 0, _, _ => fail .grammar
  | fuel + 1, versioned, handles => do
    match ← peek with
    | .pragma (.version major) =>
      if versioned || major != 1 then fail .grammar
      drop
      pragmas fuel true handles
    | .pragma (.handle name target) =>
      if handles.any (·.1 == name) then fail .grammar
      drop
      pragmas fuel versioned ((name, target) :: handles)
    | .pragma .unknown =>
      drop
      pragmas fuel versioned handles
    | _ => pure (handles ++ standardHandles)

/-- Moves over the marks that end documents. -/
def documentEnds : Nat → Parse Unit
  | 0 => pure ()
  | fuel + 1 => do
    if ← accept .documentEnd then documentEnds fuel

/-- The start of a document after its lines; nothing is left where the text ends. -/
def documentStart (fuel : Nat) : Parse Bool := do
  documentEnds fuel
  if (← peek) = .textEnd then pure false
  else
    let handles ← pragmas fuel false []
    modify fun pass => { pass with handles }
    if ← accept .documentStart then pure true else fail .grammar

def isPragma : Token → Bool
  | .pragma _ => true
  | _ => false

/-- The root of the only document, if there is one. -/
def document (fuel : Nat) : Parse (Option Node) := do
  let token ← peek
  let explicit := isPragma token || token = .documentStart || token = .textEnd
  if explicit then
    if !(← documentStart fuel) then return none
  let token ← peek
  let bare := isPragma token || [.documentStart, .documentEnd, .textEnd].contains token
  let root ← if explicit && bare then pure .empty else node true false fuel
  let _ ← accept .documentEnd
  if ← documentStart fuel then fail .references
  pure (some root)

end Parse

/-- The root of the document that tokens form. A collection takes a token at least, and its parts
nest no deeper than three steps for each. -/
def Node.ofTokens? (tokens : Tokens) : Except Problem (Option Node) :=
  let stop := tokens.stop.getD (.broken .grammar)
  let fuel := 4 * tokens.list.length + 8
  (Parse.document fuel ⟨tokens.list, stop, [], Parse.standardHandles⟩).map (·.1)

end SearchFilter.Yaml

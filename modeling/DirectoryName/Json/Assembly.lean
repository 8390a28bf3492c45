import DirectoryName.Json.Token

namespace DirectoryName.Json

/-! Values from tokens.

`tokens` takes a value apart and `assemble` puts it together, over a stack of the
containers that are still open. -/

/-- A container that is still open, with its finished parts, the latest first. -/
inductive Frame where
  | array (items : List Json)
  /-- An object whose member of this name is due. -/
  | member (members : List (String × Json)) (name : String)
deriving Repr

/-- What has been assembled, and so what may come next. -/
inductive Progress where
  /-- A value is due. -/
  | wanting (frames : List Frame)
  /-- An array was opened: a value or its end. -/
  | inArray (frames : List Frame)
  /-- An object was opened: a name or its end. -/
  | inObject (frames : List Frame)
  /-- A further name is due in an object with these members. -/
  | wantingName (members : List (String × Json)) (frames : List Frame)
  /-- A name was read, and its colon is due. -/
  | wantingColon (members : List (String × Json)) (name : String) (frames : List Frame)
  /-- A value is complete. -/
  | holding (value : Json) (frames : List Frame)
deriving Repr

/-- The tokens with which a value may start. `depth` containers may be open at once. -/
def startValue (depth : Nat) (frames : List Frame) (token : Token) : Option Progress :=
  match token with
  | .scalar value => some (.holding (.scalar value) frames)
  | .openArray => if frames.length < depth then some (.inArray frames) else none
  | .openObject => if frames.length < depth then some (.inObject frames) else none
  | _ => none

def step (depth : Nat) (progress : Progress) (token : Token) : Option Progress :=
  match progress, token with
  | .wanting frames, token => startValue depth frames token
  | .inArray frames, .closeArray => some (.holding (.array []) frames)
  | .inArray frames, token => startValue depth (.array [] :: frames) token
  | .inObject frames, .closeObject => some (.holding (.object []) frames)
  | .inObject frames, .scalar (.string name) => some (.wantingColon [] name frames)
  | .wantingName members frames, .scalar (.string name) => some (.wantingColon members name frames)
  | .wantingColon members name frames, .colon => some (.wanting (.member members name :: frames))
  | .holding value (.array items :: frames), .comma => some (.wanting (.array (value :: items) :: frames))
  | .holding value (.array items :: frames), .closeArray =>
      some (.holding (.array (value :: items).reverse) frames)
  | .holding value (.member members name :: frames), .comma =>
      some (.wantingName ((name, value) :: members) frames)
  | .holding value (.member members name :: frames), .closeObject =>
      some (.holding (.object ((name, value) :: members).reverse) frames)
  | _, _ => none

def assembleFrom (depth : Nat) (progress : Progress) (tokens : List Token) : Option Json :=
  match tokens, progress with
  | [], .holding value [] => some value
  | [], _ => none
  | token :: rest, _ =>
      match step depth progress token with
      | some next => assembleFrom depth next rest
      | none => none

/-- The one value that the tokens make up. -/
def assemble (depth : Nat) (tokens : List Token) : Option Json :=
  assembleFrom depth (.wanting []) tokens

/-- The value of a text in which at most `depth` containers are open at once. -/
def read? (depth : Nat) (text : String) : Option Json :=
  (readTokens text.toList).bind (assemble depth)

/-- The deepest nesting that is accepted from outside. -/
def maxDepth : Nat := 127

end DirectoryName.Json

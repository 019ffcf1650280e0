import StreamedInference.Json.Reading

/-!
# Turns of a conversation

A turn is what one speaker contributed. A conversation can be given as a JSON array of turns; a
turn is an object with a role and a content, or an array of the two.

## Main definitions

* `Role`, `Turn`: who speaks, and what.
* `Turn.ofJson?`, `Turn.listOfJson?`: turns from JSON values.
* `Turn.toJson`, `Turn.listToJson`: the JSON values of turns.
-/

namespace StreamedInference

/-- The speaker of a turn. -/
inductive Role where
  | system
  | user
  | assistant
  /-- A speaker of another kind, rendered as it is. -/
  | other (name : String)
deriving DecidableEq, Repr

namespace Role

/-- The text of a role. -/
def text : Role → String
  | .system => "system"
  | .user => "user"
  | .assistant => "assistant"
  | .other name => name

/-- The roles that are known by name. -/
def named? (name : String) : Option Role :=
  if name == "system" then some .system
  else if name == "user" then some .user
  else if name == "assistant" then some .assistant
  else none

/-- The role with a text. -/
def ofText (name : String) : Role :=
  (named? name).getD (.other name)

/-- A role in JSON: a string, or an object that has the name of a known role as its only member,
with nothing as its value. -/
def ofJson? : Json → Option Role
  | .string (some name) => some (ofText name)
  | .object [(some name, .null)] => named? name
  | _ => none

end Role

/-- What one speaker contributed. -/
structure Turn where
  role : Role
  content : String
deriving DecidableEq, Repr

namespace Turn

/-- The turn carries instructions for the whole conversation. -/
def isSystem (t : Turn) : Bool :=
  t.role == .system

/-- The only value of a member with the given name. -/
def only? (name : String) (members : List (Option String × Json)) : Option Json :=
  match members.filter fun m => m.1 == some name with
  | [(_, v)] => some v
  | _ => none

/-- A turn from the JSON of its role and of its content. -/
def ofParts? (role content : Json) : Option Turn :=
  match content with
  | .string (some content) => (Role.ofJson? role).map fun role => ⟨role, content⟩
  | _ => none

/-- A turn in JSON. Members with other names do not matter, as long as all names spell texts. -/
def ofJson? : Json → Option Turn
  | .object members =>
    if members.all fun m => m.1.isSome then
      match only? "role" members, only? "content" members with
      | some role, some content => ofParts? role content
      | _, _ => none
    else none
  | .array [role, content] => ofParts? role content
  | _ => none

/-- The JSON of a turn. -/
def toJson (t : Turn) : Json :=
  .record [("role", .text t.role.text), ("content", .text t.content)]

/-- A conversation in JSON. -/
def listOfJson? : Json → Option (List Turn)
  | .array vs => vs.mapM ofJson?
  | _ => none

/-- The JSON of a conversation. -/
def listToJson (ts : List Turn) : Json :=
  .array (ts.map toJson)

end Turn

end StreamedInference

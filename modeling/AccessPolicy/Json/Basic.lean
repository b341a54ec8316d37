import AccessPolicy.Json.Token

/-!
# JSON values

Arranges tokens into a value. A text that goes wrong still has a value, with a break at the place
where it goes wrong and at the end of everything that was open there. A reader that meets its first
difficulty before the break can thus report that one.
-/

namespace AccessPolicy

/-- A value read from a text. -/
inductive Json where
  | null
  | bool (b : Bool)
  | number (n : Json.Number)
  /-- A string, with no text if its escapes name none. -/
  | string (s : Option String)
  | array (items : List Json)
  /-- Names and values in the order of the text. A name that is no string is followed by a break. -/
  | object (entries : List (Json × Json))
  /-- The text goes wrong here. -/
  | broken

namespace Json

/-- An array or object still open: what it holds so far, last one first, and for an object the name
whose value comes next. -/
inductive Frame where
  | array (items : List Json)
  | object (entries : List (Json × Json)) (name : Option Json)

/-- What may come next. -/
inductive Want where
  | value
  | valueOrClose
  | name
  | nameOrClose
  | colon
  | commaOrClose
deriving DecidableEq

/-- Adds a value to the frame that waits for it. -/
def Frame.add (value : Json) : Frame → Frame
  | .array items => .array (value :: items)
  | .object entries (some name) => .object ((name, value) :: entries) none
  | .object entries none => .object entries none

/-- Closes a frame. -/
def Frame.close : Frame → Json
  | .array items => .array items.reverse
  | .object entries _ => .object entries.reverse

/-- Closes a frame with a break behind what it holds. -/
def Frame.breakOff : Frame → Json
  | .array items => .array (items.reverse ++ [.broken])
  | .object entries name => .object (entries.reverse ++ [(name.getD .broken, .broken)])

/-- Breaks off everything that is open around a value. -/
def breakOff (value : Json) : List Frame → Json
  | [] => value
  | frame :: frames => breakOff (frame.add value).breakOff frames

/-- The value of a token that is one by itself. -/
def Token.scalar? : Token → Option Json
  | .null => some .null
  | .bool b => some (.bool b)
  | .number n => some (.number n)
  | .string s => some (.string s)
  | _ => none

/-- The value, or the start of one, that stands in the place of a name. -/
def Token.misplaced? : Token → Option Json
  | .openArray => some (.array [])
  | .openObject => some (.object [])
  | token => token.scalar?

/-- Breaks off everything that is open. -/
def breakAll : List Frame → Json
  | [] => .broken
  | frame :: frames => breakOff frame.breakOff frames

/-- Arranges tokens into a value. Answers also whether the text ends with the value. -/
def arrange (frames : List Frame) (want : Want) : List Token → Json × Bool
  | [] => (breakAll frames, false)
  | token :: rest =>
    let finish (value : Json) (frames : List Frame) : Json × Bool :=
      match frames with
      | [] => (value, rest.isEmpty)
      | frame :: frames => arrange (frame.add value :: frames) .commaOrClose rest
    match want, token, frames with
    | .valueOrClose, .closeArray, frame :: frames => finish frame.close frames
    | .value, .openArray, _ | .valueOrClose, .openArray, _ =>
      arrange (.array [] :: frames) .valueOrClose rest
    | .value, .openObject, _ | .valueOrClose, .openObject, _ =>
      arrange (.object [] none :: frames) .nameOrClose rest
    | .value, token, _ | .valueOrClose, token, _ =>
      match token.scalar? with
      | some value => finish value frames
      | none => (breakAll frames, false)
    | .nameOrClose, .closeObject, frame :: frames => finish frame.close frames
    | .name, token, .object entries _ :: frames
    | .nameOrClose, token, .object entries _ :: frames =>
      match token with
      | .string s => arrange (.object entries (some (.string s)) :: frames) .colon rest
      | token => (breakAll (.object entries token.misplaced? :: frames), false)
    | .colon, .colon, _ => arrange frames .value rest
    | .commaOrClose, .comma, .array _ :: _ => arrange frames .value rest
    | .commaOrClose, .comma, .object _ _ :: _ => arrange frames .name rest
    | .commaOrClose, .closeArray, .array items :: frames => finish (.array items.reverse) frames
    | .commaOrClose, .closeObject, .object entries _ :: frames =>
      finish (.object entries.reverse) frames
    | _, _, _ => (breakAll frames, false)

/-- The value of a text, and whether the text ends with it. -/
def ofText (text : String) : Json × Bool :=
  arrange [] .value (tokens text)

end Json

end AccessPolicy

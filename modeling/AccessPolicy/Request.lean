import AccessPolicy.Text.Fold

/-!
# Requests

What a decision may depend on: the method called, who calls, the headers, and the addresses of
both ends.
-/

namespace AccessPolicy

/-- A request, as conditions see it. -/
structure Request where
  /-- The full name of the method. -/
  method : String
  /-- The name of the caller, if the caller is authenticated. -/
  principal : Option String
  /-- The value of a header, asked for by its name in lower case. -/
  header : String → Option String
  /-- The address of the caller. -/
  source : String
  /-- The address that was called. -/
  destination : String

/-- The attributes of a request that a condition can read. -/
inductive Attribute where
  | method
  | principal
  | source
  | destination
deriving DecidableEq, Repr

namespace Attribute

/-- The value of an attribute, if the request has it. -/
def value? (request : Request) : Attribute → Option String
  | .method => some request.method
  | .principal => request.principal
  | .source => some request.source
  | .destination => some request.destination

/-- The short name of an attribute. -/
def label : Attribute → String
  | .method => "method_name"
  | .principal => "principal_name"
  | .source => "source_address"
  | .destination => "destination_address"

def description : Attribute → String
  | .method => "MethodName"
  | .principal => "PrincipalName"
  | .source => "SourceAddress"
  | .destination => "DestinationAddress"

end Attribute

/-- A request written down. Header names are in lower case and no two are equal. -/
structure Call where
  method : String := ""
  principal : Option String := none
  headers : List (String × String) := []
  source : String := ""
  destination : String := ""
deriving DecidableEq, Repr

namespace Call

/-- Adds a value to the headers: behind a comma if there is one of that name. -/
def addHeader (name value : String) : List (String × String) → List (String × String)
  | [] => [(name, value)]
  | (other, old) :: rest =>
    if other = name then (other, old ++ "," ++ value) :: rest
    else (other, old) :: addHeader name value rest

/-- The call with one more header. -/
def withHeader (call : Call) (name value : String) : Call :=
  { call with headers := addHeader (Text.lowerAscii name) value call.headers }

/-- The call with some more headers, added in order. -/
def withHeaders (call : Call) (headers : List (String × String)) : Call :=
  headers.foldl (fun call header => call.withHeader header.1 header.2) call

/-- The value of the header of exactly this name. -/
def header? (call : Call) (name : String) : Option String :=
  call.headers.lookup name

/-- The call, as conditions see it. -/
def request (call : Call) : Request where
  method := call.method
  principal := call.principal
  header := call.header?
  source := call.source
  destination := call.destination

end Call

end AccessPolicy

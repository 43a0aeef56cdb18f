import BoardFilter.Json.Reader
import BoardFilter.Site.Endpoint
import BoardFilter.Site.Listing
import BoardFilter.Url.Host

/-!
# Answers of the site

A round trip to the site ends in a reply or without one. An answer is what the endpoint was asked
for, taken out of a reply that tells of success.
-/

namespace BoardFilter.Site

inductive Disconnect where
  | invalidRequest (reason : String)
  | noConnection (reason : String)
deriving DecidableEq, Repr, Inhabited

def Disconnect.message : Disconnect → String
  | invalidRequest reason => "Invalid request: " ++ reason
  | noConnection reason => "Connection Error: " ++ reason

def Disconnect.ofUrl (url : String) (fault : Url.Fault) : Disconnect :=
  invalidRequest (fault.complaint url)

inductive Reply where
  | received (status : Nat) (body : String)
  | none (why : Disconnect)
  | broken
deriving DecidableEq, Repr, Inhabited

/-- Why a call to the site gives no result. -/
inductive Failure where
  | refused (endpoint : Endpoint) (status : Nat) (reason : String)
  | malformed (endpoint : Endpoint)
  | missingNode (endpoint : Endpoint) (node : String)
  | abandoned
  | invalidUrl (url : String) (fault : Url.Fault)
  | misshapen
  | missingId
deriving DecidableEq, Repr, Inhabited

def missingNodeMessage (node : String) : String := "missing \x60" ++ node ++ "\x60 node"

def Failure.message (json : Json.Fault → String) : Failure → String
  | refused endpoint status reason =>
    "Request to " ++ endpoint.name ++ " failed with status " ++ toString status ++ ": " ++ reason
  | malformed endpoint => "Invalid response from " ++ endpoint.name ++ ": " ++ json .malformed
  | missingNode endpoint node =>
    "Invalid response from " ++ endpoint.name ++ ": " ++ missingNodeMessage node
  | abandoned => "Request queue shut down before answering"
  | invalidUrl url fault => "Failed to build request url: " ++ fault.complaint url
  | misshapen => "Failed to decode server response: " ++ json .misshapen
  | missingId => "Failed to map post: " ++ missingIdMessage

structure Answer where
  payload : Json
  status : Nat
  endpoint : Endpoint
deriving Inhabited

namespace Answer

def isSuccess (status : Nat) : Bool := 200 ≤ status && status < 400

def reasonFields : List String := ["reason", "message", "error"]

def reason? (body : String) : Option String :=
  match Json.parse? body with
  | some (.object fields) =>
    reasonFields.findSome? fun name => (Json.lookup name fields).bind Json.asText?
  | _ => none

def quoteLimit : Nat := 200

def reasonOf (body : String) : String :=
  match reason? body with
  | some reason => reason
  | none =>
    let text := Text.trim body
    if text.isEmpty then "empty response" else String.ofList (text.toList.take quoteLimit)

/-- Takes the answer of an endpoint out of the object that wraps it. Only an object is taken for
such a wrapping. -/
def unwrap (endpoint : Endpoint) (v : Json) : Except Failure Json :=
  match endpoint.node?, v with
  | some node, .object fields =>
    match Json.lookup node fields with
    | some payload => .ok payload
    | none => .error (.missingNode endpoint node)
  | _, v => .ok v

/-- Reads the body of a reply; a blank one stands for an empty list. -/
def read (endpoint : Endpoint) (body : String) : Except Failure Json :=
  if Text.isBlankText body then .ok (.array [])
  else
    match Json.parse? body with
    | some v => unwrap endpoint v
    | none => .error (.malformed endpoint)

def ofReply (endpoint : Endpoint) : Reply → Except Failure Answer
  | .received status body =>
    if isSuccess status then (read endpoint body).map fun payload => ⟨payload, status, endpoint⟩
    else .error (.refused endpoint status (reasonOf body))
  | .none why => .error (.refused endpoint 0 why.message)
  | .broken => .error (.refused endpoint 0 "transport panicked while sending the request")

end Answer

end BoardFilter.Site

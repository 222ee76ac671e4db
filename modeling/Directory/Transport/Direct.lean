import Directory.Action
import Directory.Transport.Basic

/-!
# Direct transports

The operations of a transport whose requests are answered one by one. A request that fails changes
nothing.
-/

namespace Directory.Transport.Direct

/-- Make a request. -/
def ask (request : Request) : Action Transport Answer := do
  match (← Action.state).link with
  | .direct number _ _ => Action.outside do
    Effect.record (.direct number request)
    Effect.take request.queue
  | .wire _ => return {}

/-- Open or close the link, and remember a response. -/
def setLink (isOpen : Bool) (last : Response) : Action Transport Unit :=
  Action.change fun transport =>
    match transport.link with
    | .direct number _ _ => { transport with link := .direct number isOpen last }
    | .wire _ => transport

/-- The response that the link remembers. -/
def last (transport : Transport) : Response :=
  match transport.link with
  | .direct _ _ last => last
  | .wire _ => {}

/-- Connect to a host. -/
def connect (host port : Value) : Action Transport Value := do
  let _ ← ask (.connect host port (← Action.state).options)
  let transport ← Action.state
  let address ← transport.address host port
  Action.change ({ · with host := address })
  setLink true (last transport)
  return .bool true

/-- Start TLS. -/
def startTls : Action Transport Value := do
  return (← ask .startTls).value

/-- Bind as a user. -/
def bind (username password : Value) : Action Transport Response := do
  let response := (← ask (.bind username password)).response
  setLink (← Action.state).isConnected response
  let isSuccess ← response.successful
  Action.change (·.afterBind isSuccess username)
  return response

/-- The response controls that carry the cookie of a further page. -/
def cookieControls (cookie : Value) : Value :=
  .dict [(.str pagedResultsOid,
    .dict [(.str "value", .dict [(.str "size", .int 0), (.str "cookie", cookie)])])]

/-- Search. -/
def search (scope : Scope) (base filter attrs limit : Value) (controls : Option (List Control)) :
    Action Transport SearchResult := do
  let answer ← ask (.search scope base filter attrs limit controls)
  let response :=
    match answer.cookie with
    | some cookie => { answer.response with controls := cookieControls cookie }
    | none => answer.response
  return ⟨answer.entries.orElse (.list []), response⟩

/-- Carry out a change. -/
def perform (request : Request) : Action Transport Value := do
  return (← ask request).value

/-- Close the link. -/
def close : Action Transport Value := do
  let _ ← ask .close
  setLink false (last (← Action.state))
  Action.change released
  return .bool true

end Directory.Transport.Direct

/-!
# Requests for documents on the web

What is asked for, and what may come back.
-/

namespace SchemaGen.Web

/-- A request for a document, with the seconds after which it is given up. -/
structure Request where
  url : String
  timeout : Int := 30
deriving DecidableEq, Repr

/-- What a server sends. -/
structure Response where
  status : Int
  contentType : Option String := none
  body : List UInt8 := []
deriving DecidableEq, Repr

/-- Whether the status tells of an error. -/
def Response.isError (r : Response) : Bool := 400 ≤ r.status && r.status < 600

/-- Why a request is broken off that could not even be made, as where a part of the name of its host
is too long. -/
structure Breakdown where
  message : String
deriving DecidableEq, Repr

/-- How a request ends. -/
inductive Answer where
  | timedOut
  | noConnection (text : String)
  /-- Any other failure before there is a response. -/
  | failed (text : String)
  /-- The request could not be made. -/
  | broken (e : Breakdown)
  | response (r : Response)
deriving DecidableEq, Repr

end SchemaGen.Web

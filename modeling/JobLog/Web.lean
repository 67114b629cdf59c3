import JobLog.Gzip.Gunzip
import JobLog.Text.Blank
import JobLog.Text.Digit
import JobLog.Url.Parse

/-!
# The web

A server answers a request for a url, or the client fails. The model has no network: a `Web` is a
function from urls to answers.

* `Answer` is what a request gives.
* `Response.ofReply?` reads a reply: its status, and its body as a source. A body that is shorter
  than its length fails when it is read, a longer one is cut, and a zipped one is inflated.
-/

namespace JobLog

/-- A reply as a server sends it. -/
structure Reply where
  /-- The code of the status and the reason. -/
  status : String
  headers : List (String × String)
  body : List UInt8

/-- What a request gives. -/
inductive Answer
  | reply (r : Reply)
  /-- No server could be reached. -/
  | unreachable
  /-- The client crashed. -/
  | crash

/-- What every request gives. -/
abbrev Web := Url → Answer

/-- Headers by their names. -/
abbrev Headers := List (String × String)

namespace Headers

/-- The names are equal up to case. -/
def sameName (a b : String) : Bool := a.toList.map Char.toLower == b.toList.map Char.toLower

/-- The value of a header without white space around it. -/
def get? (name : String) (hs : Headers) : Option (List Char) :=
  (hs.find? fun h => sameName h.1 name).map fun h => Text.trim h.2.toList

/-- The headers without those of a name. -/
def erase (name : String) (hs : Headers) : Headers := hs.filter fun h => !sameName h.1 name

end Headers

/-- A reply that was read. -/
structure Response where
  status : Nat
  reason : String
  headers : Headers
  body : Source

namespace Response

/-- The greatest code of a status. -/
def maxStatus : Nat := 65535

/-- Reads a status: its code and its reason. -/
def status? (s : String) : Option (Nat × String) :=
  let code := s.toList.takeWhile (· ≠ ' ')
  if code.length < 2 then none
  else
    ((Text.readNumber? code).filter (· ≤ maxStatus)).map fun n =>
      (n, String.ofList (Text.trim (s.toList.drop (code.length + 1))))

/-- The body of a reply that has one, before it is inflated. -/
def bodySource (length? : Option Nat) (body : List UInt8) : Source :=
  match length? with
  | none => [.data body]
  | some n =>
    if n ≤ body.length then [.data (body.take n)]
    else [.data body, .failed (.io .unexpectedEof) ReadError.kind_unexpectedEof]

/-- The reply says that its body is zipped. -/
def isZipped (hs : Headers) : Bool :=
  match hs.get? "content-encoding" with
  | some v => v = "gzip".toList || v = "x-gzip".toList
  | none => false

/-- Reads a reply; one without the number of a status is none. -/
def ofReply? (r : Reply) : Option Response := do
  let (status, reason) ← status? r.status
  let length? := (Headers.get? "content-length" r.headers).bind Text.readNumber?
  let body := if status = 204 ∨ status = 304 then [] else bodySource length? r.body
  if isZipped r.headers then
    let headers := (Headers.erase "content-encoding" r.headers).erase "content-length"
    some ⟨status, reason, headers, Source.gunzip body⟩
  else some ⟨status, reason, r.headers, body⟩

/-- The status is that of an error. -/
def isError (r : Response) : Bool := 400 ≤ r.status

/-- The length of the body that the headers tell. -/
def length? (r : Response) : Option Nat := (r.headers.get? "content-length").bind Text.readNumber?

end Response
end JobLog

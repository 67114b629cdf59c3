import JobLog.Bug.Basic
import JobLog.Text.Utf8
import JobLog.Web

/-!
# Bugs from the web

A server searches for bugs: the term stands in the field `search` of the query, the answer is JSON.
-/

namespace JobLog

/-- Why a search on the web failed. -/
inductive BugSearchError
  /-- The server could not be asked or refused. -/
  | query (url : String)
  /-- The answer has no bugs. -/
  | decode
  deriving DecidableEq, Repr

/-- The message of an error. -/
def BugSearchError.message : BugSearchError → String
  | .query url => s!"Can't query {url}"
  | .decode => "Can't decode bugs"

namespace Bugs

/-- Reads bugs from the body of an answer. -/
def ofBytes? (bytes : List UInt8) : Option Bugs := do
  let text ← Text.Utf8.decode? bytes
  let v ← Json.ofTextIn? (.record fields) (String.ofList text)
  ofJson? v

end Bugs

namespace BugCache

/-- The url that asks for a term, if the base is a url of the web. -/
def searchUrl? (url term : String) : Option Url :=
  match Url.parse url with
  | .error _ => none
  | .ok u => if u.isWeb then some (u.withQuery "search" term) else none

/-- The answer of a server to a search. -/
def webSearch (web : Web) (url term : String) : Except BugSearchError Bugs :=
  match searchUrl? url term with
  | none => .error (.query url)
  | some u =>
    match web u with
    | .reply r =>
      match Response.ofReply? r with
      | none => .error (.query url)
      | some r =>
        if r.isError then .error (.query url)
        else
          match r.body.content with
          | .error _ => .error .decode
          | .ok bytes => (Bugs.ofBytes? bytes).elim (.error .decode) .ok
    | _ => .error (.query url)

/-- The cache that asks a server. -/
def onWeb (web : Web) (url : String) : BugCache Unit where
  search _ term := ((webSearch web url term).toOption, ())

end BugCache
end JobLog

import JobLog.Json.Record
import JobLog.Json.Written
import JobLog.Text.Pattern

/-!
# Job details

A line that contains `TinderboxPrint: ` prints a detail of the job: a link with a label, a piece of
HTML, or a text. The last such mark in a line that has something behind it counts.

* `JobDetail.ofPayload` decodes what stands behind the mark.
* `JobDetailLog` collects the details of a log, until it is finished.
-/

namespace JobLog

open Json (Shape)

/-- The kinds of job details. -/
inductive ContentType
  | link
  | rawHtml
  | text
  deriving DecidableEq, Repr

namespace ContentType

/-- The name of a kind. -/
def name : ContentType → String
  | .link => "link"
  | .rawHtml => "raw_html"
  | .text => "text"

/-- The JSON of a kind. -/
def toJson (t : ContentType) : Json := .str t.name

/-- Reads a kind. -/
def ofJson? (v : Json) : Option ContentType :=
  v.variant? ([link, rawHtml, text].map fun t => (t.name, t))

end ContentType

/-- A detail of a job. -/
structure JobDetail where
  title? : Option String
  value : String
  url? : Option String
  contentType : ContentType
  deriving DecidableEq, Repr

namespace JobDetail

open Text.Pattern (dropLit?)

/-- The label and the target of a link. -/
def link (label url : List Char) : JobDetail :=
  ⟨some (String.ofList label), String.ofList label, some (String.ofList url), .link⟩

/-- A detail that is no link. -/
def plain (value : List Char) (contentType : ContentType) : JobDetail :=
  ⟨none, String.ofList value, none, contentType⟩

/-- The detail of a payload that is no link. -/
def ofOther (payload : List Char) : JobDetail :=
  match dropLit? "raw_html:".toList payload with
  | some html => plain html .rawHtml
  | none => plain payload .text

/-- The detail of a payload. -/
def ofPayload (payload : List Char) : JobDetail :=
  match dropLit? "link:".toList payload with
  | none => ofOther payload
  | some target =>
    match target.dropWhile (· ≠ ':') with
    | [] => ofOther payload
    | _ :: url => link (target.takeWhile (· ≠ ':')) url

/-- The mark of a job detail. -/
def mark : List Char := "TinderboxPrint: ".toList

/-- What stands behind the last mark that has something behind it. -/
def behindMark? : List Char → Option (List Char)
  | [] => none
  | c :: s =>
    match behindMark? s with
    | some payload => some payload
    | none =>
      match dropLit? mark (c :: s) with
      | some (d :: payload) => some (d :: payload)
      | _ => none

/-- The payload of a line; a text of several lines has none. -/
def payload? (line : List Char) : Option (List Char) :=
  if '\n' ∈ line then none else behindMark? line

/-- The detail that a line prints. -/
def ofLine? (line : String) : Option JobDetail := (payload? line.toList).map ofPayload

/-- The JSON of a detail. -/
def toJson (d : JobDetail) : Json :=
  .obj [
    ("content_type", d.contentType.toJson),
    ("title", .ofString? d.title?),
    ("url", .ofString? d.url?),
    ("value", .str d.value)]

/-- The fields of a detail. -/
def fields : List (String × Shape) :=
  [("title", .whole), ("value", .whole), ("url", .whole), ("content_type", .whole)]

/-- Reads a detail. -/
def ofJson? (v : Json) : Option JobDetail := do
  let r ← v.record? (fields.map (·.1))
  let title? ← r.optional? "title" Json.text?
  let value ← r.required? "value" Json.text?
  let url? ← r.optional? "url" Json.text?
  let contentType ← r.required? "content_type" ContentType.ofJson?
  some ⟨title?, value, url?, contentType⟩

end JobDetail

/-- The details of a job. -/
structure JobInfo where
  logUrl : String
  details : List JobDetail
  deriving DecidableEq, Repr

namespace JobInfo

/-- The JSON of the details. -/
def toJson (i : JobInfo) : Json :=
  .obj [("job_details", .arr (i.details.map JobDetail.toJson)), ("logurl", .str i.logUrl)]

/-- Reads the details. -/
def ofJson? (v : Json) : Option JobInfo := do
  let r ← v.record? ["logurl", "job_details"]
  let logUrl ← r.required? "logurl" Json.text?
  let details ← r.required? "job_details" (Json.list? JobDetail.ofJson?)
  some ⟨logUrl, details⟩

end JobInfo

/-- The details of a log, as far as it was read. -/
structure JobDetailLog where
  details : List JobDetail
  complete : Bool

namespace JobDetailLog

/-- Nothing was read yet. -/
def start : JobDetailLog := ⟨[], false⟩

/-- The log behind a line. -/
def line (l : JobDetailLog) (text : String) : JobDetailLog :=
  if l.complete then l
  else { l with details := l.details ++ (JobDetail.ofLine? text).toList }

/-- The log at its end. -/
def finish (l : JobDetailLog) : JobDetailLog := { l with complete := true }

/-- The details found so far. -/
def info (l : JobDetailLog) (logUrl : String) : JobInfo := ⟨logUrl, l.details⟩

end JobDetailLog
end JobLog

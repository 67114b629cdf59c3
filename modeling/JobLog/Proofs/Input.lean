import JobLog.Input
import JobLog.Proofs.Run.SizeLimit

/-!
# A log from the web and from a file

The same bytes may come from a server or from a file. The limit of the settings is one on the
content, and a file is only refused for its content; a server that announces a body longer than the
limit is refused for that, and the body may be a gzip file with a content that is shorter.

* `Reply.Announced` is a reply that announces the length of its body, `World.Serves` a server that
  gives it.
* `Input.read?` is all that is read of an input.
* `Input.read?_url_eq_path_iff` tells when both inputs give the same; `Input.read?_url_ne_path` is a
  body for which they do not.
-/

namespace JobLog

/-- A reply of success with the length of its body, and with nothing that says it is zipped. -/
structure Reply.Announced (r : Reply) : Prop where
  status : ∃ reason, Response.status? r.status = some (200, reason)
  length : (Headers.get? "content-length" r.headers).bind Text.readNumber? = some r.body.length
  encoding : Headers.get? "content-encoding" r.headers = none

/-- A request for the url gets the reply. -/
def World.Serves (w : World) (url : String) (r : Reply) : Prop :=
  ∃ u, Url.parse url = .ok u ∧ u.isWeb = true ∧ w.web u = .reply r

/-- The response of a reply gives its whole body. -/
theorem Reply.Announced.ofReply? {r : Reply} (h : r.Announced) :
    ∃ reason, Response.ofReply? r = some ⟨200, reason, r.headers, .ofBytes r.body⟩ := by
  obtain ⟨reason, hstatus⟩ := h.status
  have hzipped : Response.isZipped r.headers = false := by rw [Response.isZipped, h.encoding]
  refine ⟨reason, ?_⟩
  simp [Response.ofReply?, hstatus, h.length, hzipped, Response.bodySource, Source.ofBytes]

theorem Source.hasContent_ofBytes {bytes content : List UInt8}
    (h : contentOf? bytes = some content) : (ofBytes bytes).HasContent content where
  calm := by simp [ofBytes]
  endsForGood := by simp [ofBytes, EndsForGood]
  ends := by rw [delivered_ofBytes]
  content := by rwa [delivered_ofBytes]

namespace Input

/-- All that is read of an input, or the error that comes first. -/
def read? (w : World) (settings : Settings) (i : Input) :
    Option (Except RunError (List UInt8)) :=
  (i.open? w settings).map fun opened => do
    let o ← opened
    o.source.content.mapError .ofRead

/-- The text of an input is what is read of it. -/
theorem text?_eq (w : World) (settings : Settings) (i : Input) :
    i.text? w settings =
      (i.read? w settings).map (·.map fun bytes => String.ofList (Text.Utf8.decode bytes)) := by
  rw [text?, read?, Option.map_map]
  refine congrFun (congrArg Option.map (funext fun opened => ?_)) _
  cases opened with
  | error e => rfl
  | ok o =>
    show ((o.source.content.mapError RunError.ofRead).bind fun bytes => .ok _) =
      (o.source.content.mapError RunError.ofRead).map _
    cases o.source.content.mapError RunError.ofRead <;> rfl

section

variable {w : World} {settings : Settings} {url path : String} {r : Reply} {content : List UInt8}

/-- A log from the web is opened like a file with the same bytes, unless they are more than the
limit. -/
theorem open?_url (hserves : w.Serves url r) (hr : r.Announced) (hfile : w.file path = .ok r.body) :
    (Input.url url).open? w settings =
      if settings.maxLogSize < r.body.length then some (.error (.logSize settings.maxLogSize))
      else (Input.path path).open? w settings := by
  obtain ⟨u, hparse, hweb, hreply⟩ := hserves
  obtain ⟨reason, hresponse⟩ := hr.ofReply?
  have hurl : openUrl w.web settings.maxLogSize url =
      some (openResponse settings.maxLogSize url ⟨200, reason, r.headers, .ofBytes r.body⟩) := by
    simp only [openUrl, hparse, hweb, hreply, hresponse, Bool.not_true, Bool.false_eq_true,
      if_false]
  rw [open?, hurl, open?, openPath, hfile, openResponse, Response.length?, hr.length]
  by_cases hlong : settings.maxLogSize < r.body.length <;> simp [Response.isError, hlong]

theorem read?_url (hserves : w.Serves url r) (hr : r.Announced) (hfile : w.file path = .ok r.body) :
    (Input.url url).read? w settings =
      if settings.maxLogSize < r.body.length then some (.error (.logSize settings.maxLogSize))
      else (Input.path path).read? w settings := by
  rw [read?, open?_url hserves hr hfile]
  split <;> rfl

/-- A file is refused for its content alone. -/
theorem read?_path (hfile : w.file path = .ok r.body)
    (hcontent : Source.contentOf? r.body = some content) :
    (Input.path path).read? w settings =
      some (if settings.maxLogSize < content.length then .error (.logSize settings.maxLogSize)
        else .ok content) := by
  obtain ⟨opened, hopen, -, hwithin, hover⟩ :=
    (Source.hasContent_ofBytes hcontent).open?_eq settings.maxLogSize
  have hread : (Input.path path).read? w settings = some (opened.content.mapError .ofRead) := by
    rw [read?, open?, openPath, hfile]
    simp only [hopen]
    rfl
  rw [hread, Source.content_eq]
  split
  case isTrue hlong =>
    obtain ⟨start, rest, -, hdelivered⟩ := hover hlong
    rw [hdelivered]
    rfl
  case isFalse hshort =>
    rw [hwithin (Nat.le_of_not_lt hshort)]
    rfl

/-- **When the web and a file agree.** A log from the web gives what a file with the same bytes does
exactly where the body that is announced is within the limit, or the file is over it as well. Where
the bytes stand for a content, the file is refused if the content is longer than the limit, and the
log from the web if the content or the body is; so a body that is no gzip file makes no
difference. -/
theorem read?_url_eq_path_iff (hserves : w.Serves url r) (hr : r.Announced)
    (hfile : w.file path = .ok r.body) :
    ((Input.url url).read? w settings = (Input.path path).read? w settings ↔
      r.body.length ≤ settings.maxLogSize ∨
        (Input.path path).read? w settings = some (.error (.logSize settings.maxLogSize))) ∧
    (∀ content, Source.contentOf? r.body = some content →
      (Input.path path).read? w settings =
        some (if settings.maxLogSize < content.length then .error (.logSize settings.maxLogSize)
          else .ok content) ∧
      (Input.url url).read? w settings =
        some (if settings.maxLogSize < r.body.length ∨ settings.maxLogSize < content.length then
          .error (.logSize settings.maxLogSize) else .ok content)) ∧
    (r.body.take 2 ≠ Source.gzipMagic →
      (Input.url url).read? w settings = (Input.path path).read? w settings) := by
  have hurl := @read?_url w settings url path r hserves hr hfile
  refine ⟨⟨fun heq => ?_, fun hagree => ?_⟩, fun content hcontent => ?_, fun hplain => ?_⟩
  · by_cases hlong : settings.maxLogSize < r.body.length
    · exact .inr (by rw [← heq, hurl, if_pos hlong])
    · exact .inl (Nat.le_of_not_lt hlong)
  · rw [hurl]
    split
    case isTrue hlong =>
      obtain hwithin | hrefused := hagree
      · exact absurd hlong (Nat.not_lt.2 hwithin)
      · exact hrefused.symm
    case isFalse => rfl
  · have hpath := @read?_path w settings path r content hfile hcontent
    refine ⟨hpath, ?_⟩
    rw [hurl, hpath]
    by_cases hlong : settings.maxLogSize < r.body.length <;> simp [hlong]
  · have hcontent : Source.contentOf? r.body = some r.body := by
      rw [Source.contentOf?, if_neg hplain]
    have hpath := @read?_path w settings path r r.body hfile hcontent
    rw [hurl, hpath]
    split <;> rfl

end

/-- A gzip file of one stored block of three bytes, as a server sends it. -/
def gzipReply : Reply where
  status := "200 OK"
  headers := [("Content-Length", "26")]
  body := [0x1f, 0x8b, 8, 0, 0, 0, 0, 0, 0, 255, 1, 3, 0, 252, 255, 104, 105, 10, 122, 122, 111,
    237, 3, 0, 0, 0]

/-- A server and a file that give the same gzip file. -/
def gzipWorld : World := ⟨fun _ => .ok gzipReply.body, fun _ => .reply gzipReply⟩

theorem announced_gzipReply : gzipReply.Announced :=
  ⟨⟨"OK", by decide +kernel⟩, by decide +kernel, by decide +kernel⟩

theorem serves_gzipWorld : gzipWorld.Serves "http://localhost/log" gzipReply := by
  have hurl : (Url.parse "http://localhost/log").toOption.map Url.isWeb = some true := by
    decide +kernel
  cases hparse : Url.parse "http://localhost/log" with
  | error e =>
    rw [hparse] at hurl
    exact nomatch hurl
  | ok u =>
    rw [hparse] at hurl
    exact ⟨u, hparse, Option.some.inj hurl, rfl⟩

/-- A limit that the body is within: the server and the file give the three bytes. -/
theorem read?_url_eq_path_gzip :
    gzipWorld.Serves "http://localhost/log" gzipReply ∧ gzipReply.Announced ∧
    gzipWorld.file "log" = .ok gzipReply.body ∧
    (Input.url "http://localhost/log").read? gzipWorld { Settings.default with maxLogSize := 26 } =
      (Input.path "log").read? gzipWorld { Settings.default with maxLogSize := 26 } ∧
    (Input.path "log").read? gzipWorld { Settings.default with maxLogSize := 26 } =
      some (.ok [104, 105, 10]) := by
  have h := @read?_url_eq_path_iff gzipWorld { Settings.default with maxLogSize := 26 }
    "http://localhost/log" "log" gzipReply serves_gzipWorld announced_gzipReply rfl
  refine ⟨serves_gzipWorld, announced_gzipReply, rfl, h.1.2 (.inl (by decide)), ?_⟩
  exact (h.2.1 [104, 105, 10] (by decide +kernel)).1

/-- A limit between the content and the body: the file gives the three bytes, and the same bytes
from the server are refused as too large. -/
theorem read?_url_ne_path :
    gzipWorld.Serves "http://localhost/log" gzipReply ∧ gzipReply.Announced ∧
    gzipWorld.file "log" = .ok gzipReply.body ∧
    (Input.path "log").read? gzipWorld { Settings.default with maxLogSize := 10 } =
      some (.ok [104, 105, 10]) ∧
    (Input.url "http://localhost/log").read? gzipWorld { Settings.default with maxLogSize := 10 } =
      some (.error (.logSize 10)) := by
  refine ⟨serves_gzipWorld, announced_gzipReply, rfl, ?_, ?_⟩
  · exact @read?_path _ _ _ gzipReply [104, 105, 10] rfl (by decide +kernel)
  · have hurl := @read?_url gzipWorld { Settings.default with maxLogSize := 10 } _ "log" _
      serves_gzipWorld announced_gzipReply rfl
    rw [hurl]
    rfl

end Input
end JobLog

import TokenBank.Backends.LocalTool

/-!
# The browser backend

A page is not fetched: the URL is checked against a policy, and what the input gives of the page
is taken apart. A web address of a private or local host is denied, and so is a redirect. Titles
and texts are collected from the events of a parser of HTML, which is a parameter and may raise an
exception. The result is marked as untrusted, and as suspect where it has the words of a prompt.
-/

namespace TokenBank

/-- What a parser of HTML reports. A tag that closes itself is reported as both. -/
inductive HtmlEvent : Type
  | starttag (tag : List Char)
  | endtag (tag : List Char)
  | data (text : List Char)

/-- What the browser backend is given besides: a parser of HTML. -/
structure BrowserPlatform extends WebPlatform where
  feed : List Char → Except Raised (List HtmlEvent)

namespace Canonical

/-- The words of a text. -/
def words (text : List Char) : List (List Char) :=
  (text.splitOnP Redaction.blank).filter (fun word => word ≠ [])

/-- The words of a text with one space between them. -/
def spaced (text : List Char) : List Char := [' '].intercalate (words text)

end Canonical

namespace BrowserFetchAdapter

open Url Canonical

/-! ## The policy -/

section Policy

variable (platform : WebPlatform) (clock : ExecutionClock) (context : ExecutionContext)

/-- The host is local, or its address is not a public one. -/
def isPrivateOrLocalHost (library : Library) (host : List Char) : Bool :=
  let normalized := library.lower host
  if ["localhost".toList, "localhost.localdomain".toList].contains normalized then true
  else (library.address normalized).any (fun address =>
    address.isPrivate || address.isLoopback || address.isLinkLocal || address.isReserved)

/-- A redirect to another URL is denied. -/
def redirectError (url : String) : Except Raised (Option BackendError) :=
  match Json.get context.inputPayload "redirect_url" with
  | .str redirectUrl =>
    if redirectUrl ≠ url then do
      let parts ← raising (urlsplit platform.texts redirectUrl.toList)
      Backends.denied platform.library clock.occurredAt "browser_fetch.redirect_denied"
        "browser_fetch denied redirect in P0 scaffold" true
        [("redirect_host", Json.optional ((hostname platform.texts parts).map String.ofList))]
    else return none
  | _ => return none

/-- The error of the policy, if it denies a URL. -/
def policyError (url : Option String) : Except Raised (Option BackendError) :=
  if url.getD "" = "" then
    Backends.denied platform.library clock.occurredAt "browser_fetch.bad_input"
      "browser_fetch requires an explicit URL" false
  else do
    let parts ← raising (urlsplit platform.texts (url.getD "").toList)
    if LocalToolAdapter.isWeb parts = false then
      Backends.denied platform.library clock.occurredAt "browser_fetch.bad_input"
        "browser_fetch requires http or https URL" false
    else if isPrivateOrLocalHost platform.texts ((hostname platform.texts parts).getD []) then
      Backends.denied platform.library clock.occurredAt "browser_fetch.private_ip_denied"
        "browser_fetch denied private or local host" true
        [("host", Json.optional ((hostname platform.texts parts).map String.ofList))]
    else redirectError platform clock context (url.getD "")

end Policy

/-! ## Pages -/

/-- What is collected of a page. -/
structure StaticHtml where
  inTitle : Bool := false
  titleParts : List (List Char) := []
  textParts : List (List Char) := []

section Pages

variable (library : Library)

/-- What is collected of a page up to one more event. -/
def handle (collected : StaticHtml) : HtmlEvent → StaticHtml
  | .starttag tag =>
    if library.lower tag = "title".toList then { collected with inTitle := true } else collected
  | .endtag tag =>
    if library.lower tag = "title".toList then { collected with inTitle := false } else collected
  | .data text =>
    if spaced text = [] then collected
    else if collected.inTitle then
      { collected with titleParts := collected.titleParts ++ [spaced text] }
    else { collected with textParts := collected.textParts ++ [spaced text] }

/-- Words of those who want a model to do something else. -/
def promptMarkers : List String :=
  ["ignore previous instructions", "ignore all previous instructions", "system prompt",
    "developer message", "reveal your instructions"]

/-- A text has the words of a prompt. -/
def containsPromptInjection (text : List Char) : Bool :=
  promptMarkers.any (fun marker => Redaction.occursIn marker.toList (library.lower text))

/-- A member with a text, unless it is empty. -/
def shown (key : String) (text : List Char) : JsonObject :=
  if text = [] then [] else [(key, .str (String.ofList text))]

/-- The members with a title, in the place of another one. -/
def titled (extracted : JsonObject) (title : List Char) : JsonObject :=
  if Json.has extracted "title" then
    extracted.map (fun field =>
      if field.1 = "title" then ("title", .str (String.ofList title)) else field)
  else extracted ++ [("title", .str (String.ofList title))]

/-- What is known of every page. -/
def described (url : List Char) : JsonObject :=
  [("url", .str (String.ofList url)), ("source", .str "explicit_static_input"),
    ("untrusted_content", .bool true)]

/-- The title and the text that the parser finds in a page. -/
def parsedMembers (events : List HtmlEvent) : JsonObject :=
  let collected := events.foldl (handle library) {}
  shown "title" (strip ([' '].intercalate collected.titleParts)) ++
    shown "text_preview" ((strip ([' '].intercalate collected.textParts)).take 500)

/-- A text of the input, if it is one. -/
def textOf (payload : JsonObject) (key : String) : List Char :=
  ((Json.get payload key).textual.getD "").toList

/-- The text of a page, and its title if it is given as HTML. -/
def pageBody (feed : List Char → Except Raised (List HtmlEvent)) (payload : JsonObject) :
    Except Raised JsonObject :=
  let html := textOf payload "html"
  let text := textOf payload "text"
  if html ≠ [] then do
    let events ← feed html
    return parsedMembers library events
  else if text ≠ [] then
    return [("text_preview", .str (String.ofList ((spaced text).take 500)))]
  else return []

/-- What is extracted of the page that the input gives, and whether it has the words of a
prompt. -/
def extractWebpagePayload (feed : List Char → Except Raised (List HtmlEvent))
    (payload : JsonObject) (url : List Char) : Except Raised (JsonObject × Bool) := do
  let source := if (Json.get payload "html").textual.isSome then textOf payload "html"
    else textOf payload "text"
  let title := textOf payload "title"
  let body ← pageBody library feed payload
  let extracted := described url ++ body
  return (if title ≠ [] then titled extracted ((spaced title).take 200) else extracted,
    containsPromptInjection library source)

end Pages

/-! ## Executing -/

/-- The output for a page. -/
def pageOutput (url : List Char) (extracted : JsonObject) (promptInjection : Bool) : JsonObject :=
  [("ok", .bool true), ("tool", .str "webpage_extraction"), ("url", .str (String.ofList url)),
    ("extracted", .obj extracted), ("prompt_injection_detected", .bool promptInjection),
    ("fetched", .bool false), ("untrusted_content", .bool true),
    ("browser_fetch_scaffold", .bool true)]

/-- Execute an extraction of a page. -/
def execute (platform : BrowserPlatform) (clock : ExecutionClock) (context : ExecutionContext) :
    Except Raised WorkUnitResultEnvelope := do
  let usage ← Backends.makeUsageRecord platform.sha256 clock.recordedAt context.workUnitId
    context.attemptId context.backendId .zeroInternalPhase0 .medium
  let url := LocalToolAdapter.contextUrl context
  match ← policyError platform.toWebPlatform clock context url with
  | some error =>
    Adapter.buildResultEnvelope platform.library platform.sha256 context.toBackendExecutionContext
      [("ok", .bool false), ("reason", .str error.errorCode)] [usage] clock.startedAt
      clock.completedAt "failed" [error] ["browser_fetch denied by egress policy"]
  | none =>
    let normalized ← raising (canonicalUrl platform.texts (url.getD "").toList)
    let extraction ← extractWebpagePayload platform.texts platform.feed context.inputPayload
      normalized
    Adapter.buildResultEnvelope platform.library platform.sha256 context.toBackendExecutionContext
      (pageOutput normalized extraction.1 extraction.2) [usage] clock.startedAt clock.completedAt
      "succeeded" [] ["browser_fetch scaffold produced untrusted content tag"]

end BrowserFetchAdapter

end TokenBank

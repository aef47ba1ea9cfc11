import TokenBank.Backends.ApiModelGateway
import TokenBank.Guarantees.Dedup
import TokenBank.Guarantees.Urls
import TokenBank.Worker.Daemon

/-!
# When adapters raise exceptions

Every adapter needs the ids of its context. The gateway then returns an envelope whatever it is
given. The others raise an exception on some inputs: on a URL that cannot be split, on a port that
is not one, on a host with brackets whose canonical form is split again, on constraints that are
not a set of hashes, and on items with a key that no document may have.
-/

namespace TokenBank

open Url Canonical Backends

/-! ## Canonical URLs -/

namespace Canonical

section Library

variable (library : Library)

/-- A URL has a canonical form: without the blanks around it, it is split, and its port is one. -/
def HasCanonical (url : List Char) : Prop :=
  ∃ parts number, urlsplit library (strip url) = .ok parts ∧ port parts = .ok number

/-- A URL has a canonical form that can be split again: there are no brackets in its host. -/
def HasPlainCanonical (url : List Char) : Prop :=
  ∃ parts number, urlsplit library (strip url) = .ok parts ∧ port parts = .ok number ∧
    '[' ∉ (hostinfo parts.netloc).1 ∧ ']' ∉ (hostinfo parts.netloc).1

/-- A result is passed on. -/
theorem raising_ok_iff {α : Type} (result : Except UrlError α) (value : α) :
    raising result = .ok value ↔ result = .ok value := by
  cases result <;> simp [raising, Except.mapError]

/-- A canonical form is that of the parts. -/
theorem canonicalUrl_ok_iff (url text : List Char) : canonicalUrl library url = .ok text ↔
    ∃ parts number, urlsplit library (strip url) = .ok parts ∧ port parts = .ok number ∧
      text = urlunsplit (canonicalParts library parts number) := by
  cases splits : urlsplit library (strip url) with
  | error _ => simp [canonicalUrl, splits, bind, Except.bind]
  | ok parts =>
    cases ported : port parts with
    | error _ => simp [canonicalUrl, splits, ported, bind, Except.bind]
    | ok number =>
      simp [canonicalUrl, splits, ported, bind, Except.bind, pure, Except.pure, eq_comm]

/-- A web address is one without the blanks around it. -/
theorem webScheme_strip (url : List Char) (parts stripped : SplitResult)
    (splits : urlsplit library url = .ok parts)
    (again : urlsplit library (strip url) = .ok stripped) (isWeb : webScheme parts.scheme) :
    webScheme stripped.scheme := by
  obtain ⟨rfl, -, -⟩ := urlsplit_ok library url parts splits
  obtain ⟨rfl, -, -⟩ := urlsplit_ok library (strip url) stripped again
  have named : (splitScheme (cleaned url)).1 ≠ [] := by
    have isNamed : (splitText (cleaned url)).scheme ≠ [] := by
      rcases isWeb with same | same <;> rw [same] <;> decide
    exact isNamed
  have same : (splitText (cleaned (strip url))).scheme = (splitText (cleaned url)).scheme :=
    scheme_strip url named
  rw [same]
  exact isWeb

/-- The canonical form of a web address is there and is split again exactly if it has no brackets
in its host. -/
theorem split_canonical_iff (url : List Char) (parts : SplitResult)
    (splits : urlsplit library url = .ok parts) (isWeb : webScheme parts.scheme) :
    (∃ text, canonicalUrl library url = .ok text ∧ ∃ found, urlsplit library text = .ok found) ↔
      HasPlainCanonical library url := by
  simp only [canonicalUrl_ok_iff]
  constructor
  · rintro ⟨-, ⟨stripped, number, again, ported, rfl⟩, found, text⟩
    have web := webScheme_strip library url parts stripped splits again isWeb
    refine ⟨stripped, number, again, ported, ?_⟩
    by_contra bracketed
    rw [not_and_or, not_not, not_not] at bracketed
    have refused := urlsplit_bracketed library stripped number web (strip url) again bracketed
    rw [strip_canonical library stripped number web (strip url) again, text] at refused
    cases refused
  · rintro ⟨stripped, number, again, ported, unbracketed⟩
    have web := webScheme_strip library url parts stripped splits again isWeb
    have found := urlsplit_unbracketed library stripped number web (strip url) again unbracketed
    rw [strip_canonical library stripped number web (strip url) again] at found
    exact ⟨_, ⟨stripped, number, again, ported, rfl⟩, _, found⟩

end Library

end Canonical

/-- A text, if there is one, has no keys. -/
theorem optional_allowed (text : Option String) :
    BaseModel.hasForbiddenKey (Json.optional text) = false := by
  cases text <;> rfl

/-! ## Denied executions -/

namespace Backends

/-- A check denies an execution if its texts are not blank and its details are allowed. -/
theorem denied_some (library : ModelLibrary) (occurredAt errorCode errorMessage : String)
    (fallbackable : Bool) (details : JsonObject) (coded : BaseModel.stripped errorCode ≠ "")
    (worded : BaseModel.stripped errorMessage ≠ "")
    (allowed : BaseModel.hasForbiddenKey (.obj details) = false) :
    ∃ error, denied library occurredAt errorCode errorMessage fallbackable details =
      .ok (some error) := by
  obtain ⟨error, made⟩ := normalizeBackendError_returns library occurredAt errorCode errorMessage
    false fallbackable details coded worded allowed
  exact ⟨error, (Store.bind_ok_iff _ _ _).mpr ⟨error, made, rfl⟩⟩

/-- The output of a denied execution is allowed. -/
theorem reason_allowed (reason : String) :
    BaseModel.hasForbiddenKey (.obj [("ok", .bool false), ("reason", .str reason)]) = false := by
  rw [hasForbiddenKey_adapter _ ["ok", "reason"] rfl (by decide)]
  simp

/-- A member with a text, if there is one, is allowed under an allowed key. -/
theorem optional_member_allowed (key : String) (text : Option String)
    (listed : adapterKeys.contains key = true) :
    BaseModel.hasForbiddenKey (.obj [(key, Json.optional text)]) = false := by
  simp only [BaseModel.hasForbiddenKey, BaseModel.fieldsForbidden, adapterKey_allowed key listed,
    optional_allowed, Bool.or_false]

end Backends

/-! ## The local tool -/

namespace LocalToolAdapter

/-- A URL can be checked: there is none, or it is split, and if it is a web address, it has a
canonical form that can be split again. -/
def Checkable (library : Library) (url : Option String) : Prop :=
  url.getD "" = "" ∨ ∃ parts, urlsplit library (url.getD "").toList = .ok parts ∧
    (isWeb parts = true → HasPlainCanonical library (url.getD "").toList)

/-- Parts of a web address have one of its schemes. -/
theorem isWeb_scheme (parts : SplitResult) (web : isWeb parts = true) : webScheme parts.scheme := by
  simp only [isWeb, Bool.and_eq_true, List.contains_iff_mem, List.mem_cons, List.not_mem_nil,
    or_false] at web
  exact web.1

/-- Whether a URL is a web address depends on its parts. -/
theorem isHttpUrl_parts (library : Library) (url : Option String) (filled : url.getD "" ≠ "") :
    isHttpUrl library url = (urlsplit library (url.getD "").toList).map isWeb := by
  cases url with
  | none => exact absurd rfl filled
  | some text =>
    rw [Option.getD_some] at filled ⊢
    rw [isHttpUrl, if_neg filled]
    cases urlsplit library text.toList <;> rfl

/-- Without a URL, there is no web address. -/
theorem isHttpUrl_empty (library : Library) (url : Option String) (empty : url.getD "" = "") :
    isHttpUrl library url = .ok false := by
  cases url with
  | none => rfl
  | some text =>
    rw [Option.getD_some] at empty
    rw [isHttpUrl, if_pos empty]

/-- The output for a canonical URL is made exactly if it can be split. -/
theorem checkedOutput_ok_iff (library : Library) (normalized : List Char) :
    (∃ output, checkedOutput library normalized = .ok output) ↔
      ∃ parts, urlsplit library normalized = .ok parts := by
  cases splits : urlsplit library normalized <;>
    simp [checkedOutput, splits, bind, Except.bind, pure, Except.pure]

/-- The output for a canonical URL is allowed. -/
theorem checkedOutput_allowed (library : Library) (normalized : List Char) (output : JsonObject)
    (made : checkedOutput library normalized = .ok output) :
    BaseModel.hasForbiddenKey (.obj output) = false := by
  cases splits : urlsplit library normalized with
  | error _ => simp [checkedOutput, splits, bind, Except.bind] at made
  | ok parts =>
    simp only [checkedOutput, splits, bind, Except.bind, pure, Except.pure, Except.ok.injEq] at made
    subst made
    rw [hasForbiddenKey_adapter _ ["ok", "tool", "url", "scheme", "host", "network_checked",
      "local_tool_stub", "phase0_local_stub"] rfl (by decide)]
    simp [BaseModel.hasForbiddenKey]

section Executing

variable (platform : WebPlatform) (clock : ExecutionClock) (context : ExecutionContext)

/-- A URL that is no web address is refused exactly if the ids are not blank. -/
theorem refused_returns_iff (usage : UsageRecord) : Returns (do
    let error ← normalizeBackendError platform.library clock.occurredAt
      "local_tool.bad_input" "url_check requires an explicit http or https URL" false false
      [("task_type", .str context.taskType)]
    Adapter.buildResultEnvelope platform.library platform.sha256 context.toBackendExecutionContext
      [("ok", .bool false), ("reason", .str "invalid_url")] [usage] clock.startedAt
      clock.completedAt "failed" [error] ["url_check rejected invalid input"]) ↔
    context.Identified := by
  apply returns_bind_settled
  · refine normalizeBackendError_returns platform.library _ _ _ _ _ _ (by decide) (by decide) ?_
    rw [hasForbiddenKey_adapter _ ["task_type"] rfl (by decide)]
    simp
  · intro error
    exact envelope_returns_iff platform.toBackendPlatform context _ [usage] _ _ .failed [error] _
      none none (reason_allowed "invalid_url")

/-- A web address is checked exactly if the ids are not blank and its canonical form is there and
can be split again. -/
theorem checked_returns_iff (usage : UsageRecord) (url : List Char) (parts : SplitResult)
    (splits : urlsplit platform.texts url = .ok parts) (web : isWeb parts = true) : Returns (do
      let normalized ← raising (canonicalUrl platform.texts url)
      let output ← raising (checkedOutput platform.texts normalized)
      Adapter.buildResultEnvelope platform.library platform.sha256
        context.toBackendExecutionContext output [usage] clock.startedAt clock.completedAt
        "succeeded" [] ["url_check completed without external provider call"]) ↔
      context.Identified ∧ HasPlainCanonical platform.texts url := by
  have built (output : JsonObject) (allowed : BaseModel.hasForbiddenKey (.obj output) = false) :=
    envelope_returns_iff platform.toBackendPlatform context output [usage] clock.startedAt
      clock.completedAt .succeeded [] ["url_check completed without external provider call"] none
      none allowed
  rw [← split_canonical_iff platform.texts url parts splits (isWeb_scheme parts web)]
  simp only [returns_bind_iff, raising_ok_iff, ← checkedOutput_ok_iff]
  constructor
  · rintro ⟨normalized, canonical, output, made, returns⟩
    have allowed := checkedOutput_allowed platform.texts normalized output made
    exact ⟨(built output allowed).mp returns, normalized, canonical, output, made⟩
  · rintro ⟨identified, normalized, canonical, output, made⟩
    have allowed := checkedOutput_allowed platform.texts normalized output made
    exact ⟨normalized, canonical, output, made, (built output allowed).mpr identified⟩

/-- A check returns an envelope exactly if the ids are not blank and the URL can be checked. -/
theorem execute_returns_iff : Returns (execute platform clock context) ↔
    context.Identified ∧ Checkable platform.texts (contextUrl context) := by
  apply execution_returns_iff platform.toBackendPlatform context
  intro usage
  rw [returns_bind_iff]
  simp only [raising_ok_iff]
  by_cases empty : (contextUrl context).getD "" = ""
  · have checkable : Checkable platform.texts (contextUrl context) := Or.inl empty
    simp only [isHttpUrl_empty platform.texts _ empty, Except.ok.injEq, exists_eq_left',
      Bool.false_eq_true, if_false]
    rw [refused_returns_iff, and_iff_left checkable]
  · simp only [isHttpUrl_parts platform.texts _ empty, Checkable, empty, false_or]
    cases splits : urlsplit platform.texts ((contextUrl context).getD "").toList with
    | error _ => simp [Except.map]
    | ok parts =>
      cases web : isWeb parts with
      | false =>
        simp [Except.map, web, refused_returns_iff]
      | true =>
        simp only [Except.map, web, Except.ok.injEq, exists_eq_left', if_true, forall_const]
        exact checked_returns_iff platform clock context usage _ parts splits web

/-- A check of a URL that is refused raises what it is refused with. -/
theorem execute_raises (identified : context.Identified) (error : UrlError)
    (refused : isHttpUrl platform.texts (contextUrl context) = .error error) :
    execute platform clock context = .error (.valueError (refusal error)) := by
  obtain ⟨usage, used⟩ := (makeUsageRecord_returns_iff platform.sha256 clock.recordedAt
    context.workUnitId context.attemptId context.backendId .zeroInternalPhase0 .high 0 0 0 0).mpr
    ⟨identified _ (by simp), identified _ (by simp), identified _ (by simp)⟩
  rw [execute, used]
  change (raising (isHttpUrl platform.texts (contextUrl context)) >>= _) = _
  rw [refused]
  rfl

end Executing

end LocalToolAdapter

/-! ## The local script -/

namespace LocalScriptAdapter

/-- A value may be in a set. -/
def hashable : Json → Bool
  | .arr _ => false
  | .obj _ => false
  | _ => true

/-- What a loop over a value gives may be in a set. -/
def hashables : Json → Bool
  | .arr items => items.all hashable
  | .str _ => true
  | .obj _ => true
  | _ => false

/-- The hashes of the constraints can be read: those that are allowed are a set, and the hash of
the script may be in one, unless it is empty. -/
def HashesReadable (constraints : JsonObject) : Prop :=
  hashables (Json.getOr constraints "allowed_script_hashes" (.arr [])) = true ∧
    ((Json.get constraints "script_hash").truthy = true →
      hashable (Json.get constraints "script_hash") = true)

/-- The items of an input, if it has a list of them. -/
def itemsOf (payload : JsonObject) : List Json :=
  match Json.getOr payload "items" (.arr []) with
  | .arr items => items
  | _ => []

/-- A value is hashed exactly if it may be in a set. -/
theorem hashed_returns_iff (value : Json) : Returns value.hashed ↔ hashable value = true := by
  cases value <;> simp [Returns, Json.hashed, hashable]

/-- Values are hashed exactly if each of them may be in a set. -/
theorem mapM_hashed_returns_iff (items : List Json) :
    Returns (items.mapM Json.hashed) ↔ items.all hashable = true := by
  induction items with
  | nil => simp [Returns, pure, Except.pure]
  | cons item rest inductionHypothesis =>
    rw [List.mapM_cons, returns_bind_iff, List.all_cons, Bool.and_eq_true, ← inductionHypothesis,
      ← hashed_returns_iff]
    constructor
    · rintro ⟨value, first, returns⟩
      obtain ⟨values, later, -⟩ := (returns_bind_iff _ _).mp returns
      exact ⟨⟨value, first⟩, values, later⟩
    · rintro ⟨⟨value, first⟩, values, later⟩
      exact ⟨value, first, (returns_bind_iff _ _).mpr ⟨values, later, _, rfl⟩⟩

/-- A value is made a set exactly if what a loop gives may be in one. -/
theorem asSet_returns_iff (value : Json) : Returns value.asSet ↔ hashables value = true := by
  have members (items : List Json) (iterated : value.iterated = .ok items) :
      Returns value.asSet ↔ items.all hashable = true := by
    rw [Json.asSet, returns_bind_iff, ← mapM_hashed_returns_iff items]
    constructor
    · rintro ⟨looped, same, returns⟩
      obtain rfl := Except.ok.inj (iterated.symm.trans same)
      obtain ⟨values, hashed, -⟩ := (returns_bind_iff _ _).mp returns
      exact ⟨values, hashed⟩
    · rintro ⟨values, hashed⟩
      exact ⟨items, iterated, (returns_bind_iff _ _).mpr ⟨values, hashed, _, rfl⟩⟩
  cases value with
  | arr items => exact members items rfl
  | str text =>
    rw [members _ rfl]
    simp [hashables, hashable]
  | obj fields =>
    rw [members _ rfl]
    simp [hashables, hashable]
  | _ => simp [Returns, Json.asSet, Json.iterated, hashables, bind, Except.bind]

/-- The hashes of the constraints are compared exactly if they can be read. -/
theorem hashDenied_returns_iff (constraints : JsonObject) :
    Returns (hashDenied constraints) ↔ HashesReadable constraints := by
  rw [hashDenied, returns_bind_iff, HashesReadable, ← asSet_returns_iff, ← hashed_returns_iff]
  constructor
  · rintro ⟨allowed, made, returns⟩
    refine ⟨⟨allowed, made⟩, fun given => ?_⟩
    rw [if_pos given, returns_bind_iff] at returns
    obtain ⟨hashed, isHashed, -⟩ := returns
    exact ⟨hashed, isHashed⟩
  · rintro ⟨⟨allowed, made⟩, hashes⟩
    refine ⟨allowed, made, ?_⟩
    by_cases given : (Json.get constraints "script_hash").truthy = true
    · rw [if_pos given, returns_bind_iff]
      obtain ⟨hashed, isHashed⟩ := hashes given
      exact ⟨hashed, isHashed, _, rfl⟩
    · rw [if_neg given]
      exact ⟨false, rfl⟩

/-- A hash that is denied has no keys. -/
theorem denied_hash (constraints : JsonObject) (denied : hashDenied constraints = .ok true) :
    BaseModel.hasForbiddenKey (.obj [("script_hash", Json.get constraints "script_hash")]) =
      false := by
  have readable := (hashDenied_returns_iff constraints).mp ⟨true, denied⟩
  have given : (Json.get constraints "script_hash").truthy = true := by
    by_contra empty
    simp only [hashDenied, Store.bind_ok_iff, empty] at denied
    obtain ⟨allowed, -, returned⟩ := denied
    cases returned
  have scalar := readable.2 given
  rw [hasForbiddenKey_adapter _ ["script_hash"] rfl (by decide)]
  cases hash : Json.get constraints "script_hash" with
  | arr _ =>
    rw [hash] at scalar
    cases scalar
  | obj _ =>
    rw [hash] at scalar
    cases scalar
  | _ => simp [BaseModel.hasForbiddenKey]

section Executing

variable (platform : BackendPlatform) (clock : ExecutionClock) (context : ExecutionContext)

/-- A dedup returns an envelope exactly if the ids are not blank, the hashes can be read, and, unless
the script is denied, no item has a key that no document may have. -/
theorem execute_returns_iff (separates : SeparatesTexts platform.sha256)
    (written : ∀ item ∈ itemsOf context.inputPayload, plain item = true) :
    Returns (execute platform clock context) ↔ context.Identified ∧
      HashesReadable context.effectiveConstraints ∧
        (hashDenied context.effectiveConstraints = .ok false →
          BaseModel.itemsForbidden (itemsOf context.inputPayload) = false) := by
  apply execution_returns_iff platform context
  intro usage
  rw [returns_bind_iff, ← hashDenied_returns_iff]
  cases compared : hashDenied context.effectiveConstraints with
  | error _ => simp [Returns]
  | ok isDenied =>
    have compares : Returns (.ok isDenied : Except Raised Bool) := ⟨isDenied, rfl⟩
    simp only [Except.ok.injEq, exists_eq_left', and_iff_right compares]
    cases isDenied with
    | true =>
      simp only [if_true, Bool.true_eq_false, false_imp_iff, and_true]
      apply returns_bind_settled
      · exact normalizeBackendError_returns platform.library _ _ _ _ _ _ (by decide) (by decide)
          (denied_hash context.effectiveConstraints compared)
      · intro error
        exact envelope_returns_iff platform context _ [usage] _ _ .failed [error] _ none none
          (reason_allowed "script_hash_not_allowed")
    | false =>
      simp only [Bool.false_eq_true, if_false, forall_const]
      rw [itemsOf] at written ⊢
      have notList : Returns (do
          let error ← normalizeBackendError platform.library clock.occurredAt
            "local_script.bad_input" "dedup expects an items list" false false
          Adapter.buildResultEnvelope platform.library platform.sha256
            context.toBackendExecutionContext
            [("ok", .bool false), ("reason", .str "items_must_be_list")] [usage] clock.startedAt
            clock.completedAt "failed" [error]) ↔ context.Identified := by
        apply returns_bind_settled
        · exact normalizeBackendError_returns platform.library _ _ _ _ _ _ (by decide) (by decide)
            rfl
        · intro error
          exact envelope_returns_iff platform context _ [usage] _ _ .failed [error] [] none none
            (reason_allowed "items_must_be_list")
      cases given : Json.getOr context.inputPayload "items" (.arr []) with
      | arr items =>
        rw [given] at written
        have built := built_returns_iff platform.library platform.sha256
          context.toBackendExecutionContext (dedupOutput platform.sha256 items) [usage]
          clock.startedAt clock.completedAt .succeeded [] ["dedup local_script scaffold completed"]
          none none platform.named
        rw [dedupOutput_forbidden, forbidden_kept platform.sha256 separates items written] at built
        exact built.trans and_comm
      | _ => exact notList.trans (and_iff_left rfl).symm

end Executing

end LocalScriptAdapter

/-! ## The browser -/

namespace BrowserFetchAdapter

/-- The URL that a page redirects to, if it is another one. -/
def redirectOf (payload : JsonObject) (url : String) : Option String :=
  (Json.get payload "redirect_url").textual.filter (fun redirectUrl => redirectUrl ≠ url)

/-- The page at a URL can be taken apart: the URL has a canonical form, and the parser reads what
the input gives of the page. -/
def Readable (platform : BrowserPlatform) (payload : JsonObject) (url : List Char) : Prop :=
  HasCanonical platform.texts url ∧
    (textOf payload "html" ≠ [] → Returns (platform.feed (textOf payload "html")))

/-- A page can be asked for at a URL: there is none, or it is split, and if it is a web address
that is not private, then the URL it redirects to is split, or there is none and the page can be
taken apart. -/
def Fetchable (platform : BrowserPlatform) (payload : JsonObject) (url : Option String) : Prop :=
  url.getD "" = "" ∨ ∃ parts, urlsplit platform.texts (url.getD "").toList = .ok parts ∧
    (LocalToolAdapter.isWeb parts = true →
      isPrivateOrLocalHost platform.texts ((hostname platform.texts parts).getD []) = false →
        (∀ redirectUrl, redirectOf payload (url.getD "") = some redirectUrl →
          ∃ target, urlsplit platform.texts redirectUrl.toList = .ok target) ∧
        (redirectOf payload (url.getD "") = none →
          Readable platform payload (url.getD "").toList))

/-! ### Pages -/

/-- Members are allowed if those in front and those behind are. -/
theorem append_allowed (front behind : JsonObject)
    (first : BaseModel.hasForbiddenKey (.obj front) = false)
    (later : BaseModel.hasForbiddenKey (.obj behind) = false) :
    BaseModel.hasForbiddenKey (.obj (front ++ behind)) = false := by
  simp only [BaseModel.hasForbiddenKey, fieldsForbidden_any, List.any_append] at first later ⊢
  rw [first, later]
  rfl

/-- A member with a text is allowed under an allowed key. -/
theorem shown_allowed (key : String) (text : List Char)
    (allowed : BaseModel.forbiddenKey key = false) :
    BaseModel.hasForbiddenKey (.obj (shown key text)) = false := by
  rw [shown]
  split_ifs
  · rfl
  · simp only [BaseModel.hasForbiddenKey, BaseModel.fieldsForbidden, allowed, Bool.or_false]

/-- A title is allowed. -/
theorem titled_allowed (extracted : JsonObject) (title : List Char)
    (allowed : BaseModel.hasForbiddenKey (.obj extracted) = false) :
    BaseModel.hasForbiddenKey (.obj (titled extracted title)) = false := by
  have ownTitle : BaseModel.forbiddenKey "title" = false :=
    adapterKey_allowed "title" (by decide)
  rw [titled]
  split_ifs
  · simp only [BaseModel.hasForbiddenKey, fieldsForbidden_any, List.any_eq_false,
      List.mem_map] at allowed ⊢
    rintro _ ⟨field, member, rfl⟩
    split_ifs
    · simp [ownTitle, BaseModel.hasForbiddenKey]
    · exact allowed field member
  · apply append_allowed _ _ allowed
    simp only [BaseModel.hasForbiddenKey, BaseModel.fieldsForbidden, ownTitle, Bool.or_false]

/-- The text of a page is there exactly if the parser reads it, if there is anything to read. -/
theorem pageBody_returns_iff (library : Library)
    (feed : List Char → Except Raised (List HtmlEvent)) (payload : JsonObject) :
    Returns (pageBody library feed payload) ↔
      (textOf payload "html" ≠ [] → Returns (feed (textOf payload "html"))) := by
  rw [pageBody]
  by_cases filled : textOf payload "html" ≠ []
  · rw [if_pos filled, returns_bind_iff]
    constructor
    · rintro ⟨events, read, -⟩ -
      exact ⟨events, read⟩
    · intro reads
      obtain ⟨events, read⟩ := reads filled
      exact ⟨events, read, _, rfl⟩
  · rw [if_neg filled]
    refine iff_of_true ?_ (fun isFilled => absurd isFilled filled)
    split_ifs
    · exact ⟨_, rfl⟩
    · exact ⟨_, rfl⟩

/-- The text of a page is allowed. -/
theorem pageBody_allowed (library : Library) (feed : List Char → Except Raised (List HtmlEvent))
    (payload body : JsonObject) (found : pageBody library feed payload = .ok body) :
    BaseModel.hasForbiddenKey (.obj body) = false := by
  have preview : BaseModel.forbiddenKey "text_preview" = false :=
    adapterKey_allowed "text_preview" (by decide)
  have title : BaseModel.forbiddenKey "title" = false :=
    adapterKey_allowed "title" (by decide)
  rw [pageBody] at found
  split_ifs at found
  · obtain ⟨events, -, returned⟩ := (Store.bind_ok_iff _ _ _).mp found
    obtain rfl := Except.ok.inj returned
    exact append_allowed _ _ (shown_allowed _ _ title) (shown_allowed _ _ preview)
  · obtain rfl := Except.ok.inj found
    simp only [BaseModel.hasForbiddenKey, BaseModel.fieldsForbidden, preview, Bool.or_false]
  · obtain rfl := Except.ok.inj found
    rfl

/-- A page is taken apart exactly if its text is there. -/
theorem extractWebpagePayload_returns_iff (library : Library)
    (feed : List Char → Except Raised (List HtmlEvent)) (payload : JsonObject) (url : List Char) :
    Returns (extractWebpagePayload library feed payload url) ↔
      Returns (pageBody library feed payload) := by
  rw [extractWebpagePayload, returns_bind_iff]
  constructor
  · rintro ⟨body, found, -⟩
    exact ⟨body, found⟩
  · rintro ⟨body, found⟩
    exact ⟨body, found, _, rfl⟩

/-- What is extracted of a page is allowed. -/
theorem extractWebpagePayload_allowed (library : Library)
    (feed : List Char → Except Raised (List HtmlEvent)) (payload : JsonObject) (url : List Char)
    (extraction : JsonObject × Bool)
    (made : extractWebpagePayload library feed payload url = .ok extraction) :
    BaseModel.hasForbiddenKey (.obj extraction.1) = false := by
  obtain ⟨body, found, returned⟩ := (Store.bind_ok_iff _ _ _).mp made
  obtain rfl := Except.ok.inj returned
  have base : BaseModel.hasForbiddenKey (.obj (described url ++ body)) = false := by
    apply append_allowed _ _ _ (pageBody_allowed library feed payload body found)
    rw [hasForbiddenKey_adapter _ ["url", "source", "untrusted_content"] rfl (by decide)]
    simp [described]
  simp only
  split_ifs
  · exact titled_allowed _ _ base
  · exact base

/-- The output for a page is allowed if what is extracted of it is. -/
theorem pageOutput_allowed (url : List Char) (extracted : JsonObject) (promptInjection : Bool)
    (allowed : BaseModel.hasForbiddenKey (.obj extracted) = false) :
    BaseModel.hasForbiddenKey (.obj (pageOutput url extracted promptInjection)) = false := by
  rw [hasForbiddenKey_adapter _ ["ok", "tool", "url", "extracted", "prompt_injection_detected",
    "fetched", "untrusted_content", "browser_fetch_scaffold"] rfl (by decide)]
  simp [pageOutput, allowed]

/-! ### Executing -/

section Executing

variable (platform : BrowserPlatform) (clock : ExecutionClock) (context : ExecutionContext)

/-- An extraction that is not denied returns an envelope exactly if the ids are not blank and the
page can be taken apart. -/
theorem extracted_returns_iff (usage : UsageRecord) (url : List Char) : Returns (do
      let normalized ← raising (canonicalUrl platform.texts url)
      let extraction ← extractWebpagePayload platform.texts platform.feed context.inputPayload
        normalized
      Adapter.buildResultEnvelope platform.library platform.sha256
        context.toBackendExecutionContext (pageOutput normalized extraction.1 extraction.2) [usage]
        clock.startedAt clock.completedAt "succeeded" []
        ["browser_fetch scaffold produced untrusted content tag"]) ↔
      context.Identified ∧ Readable platform context.inputPayload url := by
  have built (output : JsonObject) (allowed : BaseModel.hasForbiddenKey (.obj output) = false) :=
    envelope_returns_iff platform.toBackendPlatform context output [usage] clock.startedAt
      clock.completedAt .succeeded [] ["browser_fetch scaffold produced untrusted content tag"]
      none none allowed
  simp only [returns_bind_iff, raising_ok_iff, canonicalUrl_ok_iff, Readable, HasCanonical]
  rw [← pageBody_returns_iff platform.texts]
  constructor
  · rintro ⟨normalized, ⟨parts, number, splits, ported, -⟩, extraction, made, returns⟩
    have allowed := pageOutput_allowed normalized extraction.1 extraction.2
      (extractWebpagePayload_allowed _ _ _ _ extraction made)
    exact ⟨(built _ allowed).mp returns, ⟨parts, number, splits, ported⟩,
      (extractWebpagePayload_returns_iff _ _ _ normalized).mp ⟨extraction, made⟩⟩
  · rintro ⟨identified, ⟨parts, number, splits, ported⟩, reads⟩
    obtain ⟨extraction, made⟩ := (extractWebpagePayload_returns_iff _ _ _
      (urlunsplit (canonicalParts platform.texts parts number))).mpr reads
    have allowed := pageOutput_allowed (urlunsplit (canonicalParts platform.texts parts number))
      extraction.1 extraction.2 (extractWebpagePayload_allowed _ _ _ _ extraction made)
    exact ⟨_, ⟨parts, number, splits, ported, rfl⟩, extraction, made, (built _ allowed).mpr identified⟩

/-- A redirect is looked up where the URL it redirects to is. -/
theorem redirectError_eq (url : String) : redirectError platform.toWebPlatform clock context url =
    (redirectOf context.inputPayload url).elim (.ok none) (fun redirectUrl => do
      let parts ← raising (urlsplit platform.texts redirectUrl.toList)
      denied platform.library clock.occurredAt "browser_fetch.redirect_denied"
        "browser_fetch denied redirect in P0 scaffold" true
        [("redirect_host", Json.optional ((hostname platform.texts parts).map String.ofList))]) := by
  rw [redirectError, redirectOf]
  cases Json.get context.inputPayload "redirect_url" with
  | str redirectUrl =>
    simp only [Json.textual]
    by_cases other : redirectUrl ≠ url
    · rw [if_pos other, Option.filter_some_pos (by simpa using other)]
      rfl
    · rw [if_neg other, Option.filter_some_neg (by simpa using other)]
      rfl
  | _ => rfl

/-- An execution goes on behind the policy exactly if the page can be asked for at the URL. -/
theorem policy_returns_iff (url : Option String)
    (rest : Option BackendError → Except Raised WorkUnitResultEnvelope)
    (denies : ∀ error, Returns (rest (some error)) ↔ context.Identified)
    (passes : Returns (rest none) ↔ context.Identified ∧
      Readable platform context.inputPayload (url.getD "").toList) :
    Returns (policyError platform.toWebPlatform clock context url >>= rest) ↔
      context.Identified ∧ Fetchable platform context.inputPayload url := by
  have stopped (computed : Except Raised (Option BackendError))
      (stops : ∃ error, computed = .ok (some error)) :
      Returns (computed >>= rest) ↔ context.Identified := by
    obtain ⟨error, rfl⟩ := stops
    exact denies error
  rw [policyError]
  by_cases empty : url.getD "" = ""
  · have fetchable : Fetchable platform context.inputPayload url := Or.inl empty
    rw [if_pos empty, and_iff_left fetchable]
    exact stopped _ (denied_some _ _ _ _ _ _ (by decide) (by decide) rfl)
  · rw [if_neg empty]
    simp only [Fetchable, empty, false_or]
    cases splits : urlsplit platform.texts (url.getD "").toList with
    | error _ => simp [Returns, raising, Except.mapError, bind, Except.bind]
    | ok parts =>
      simp only [Except.ok.injEq, exists_eq_left']
      change Returns ((if LocalToolAdapter.isWeb parts = false then _ else _) >>= rest) ↔ _
      cases web : LocalToolAdapter.isWeb parts with
      | false =>
        rw [if_pos rfl, stopped _ (denied_some _ _ _ _ _ _ (by decide) (by decide) rfl)]
        simp
      | true =>
        rw [if_neg (by decide)]
        by_cases isPrivate : isPrivateOrLocalHost platform.texts
            ((hostname platform.texts parts).getD []) = true
        · rw [if_pos isPrivate, stopped _ (denied_some _ _ _ _ _ _ (by decide) (by decide)
            (optional_member_allowed "host" _ (by decide)))]
          simp [isPrivate]
        · rw [if_neg isPrivate, redirectError_eq]
          rw [Bool.not_eq_true] at isPrivate
          cases redirects : redirectOf context.inputPayload (url.getD "") with
          | none =>
            simp only [isPrivate, forall_const, reduceCtorEq, false_imp_iff, true_and]
            exact passes
          | some redirectUrl =>
            simp only [isPrivate, forall_const, reduceCtorEq, false_imp_iff, and_true,
              Option.some.injEq, forall_eq', Option.elim_some]
            cases target : urlsplit platform.texts redirectUrl.toList with
            | error _ => simp [Returns, raising, Except.mapError, bind, Except.bind]
            | ok found =>
              have stops := stopped _ (denied_some platform.library clock.occurredAt
                "browser_fetch.redirect_denied" "browser_fetch denied redirect in P0 scaffold" true
                [("redirect_host",
                  Json.optional ((hostname platform.texts found).map String.ofList))]
                (by decide) (by decide) (optional_member_allowed "redirect_host" _ (by decide)))
              exact stops.trans (and_iff_left ⟨found, rfl⟩).symm

/-- An extraction returns an envelope exactly if the ids are not blank and the page can be asked
for at the URL. -/
theorem execute_returns_iff : Returns (execute platform clock context) ↔ context.Identified ∧
    Fetchable platform context.inputPayload (LocalToolAdapter.contextUrl context) := by
  apply execution_returns_iff platform.toBackendPlatform context
  intro usage
  apply policy_returns_iff
  · intro error
    exact envelope_returns_iff platform.toBackendPlatform context _ [usage] _ _ .failed [error] _
      none none (reason_allowed error.errorCode)
  · exact extracted_returns_iff platform clock context usage _

end Executing

end BrowserFetchAdapter

/-! ## The gateway -/

namespace APIModelGatewayAdapter

/-- Texts have no keys. -/
theorem texts_allowed (texts : List String) :
    BaseModel.itemsForbidden (texts.map .str) = false := by
  rw [itemsForbidden_any, List.any_eq_false]
  intro item member
  obtain ⟨text, -, rfl⟩ := List.mem_map.mp member
  simp [BaseModel.hasForbiddenKey]

/-- The output for other tasks is allowed. -/
theorem scaffoldOutput_allowed : BaseModel.hasForbiddenKey (.obj scaffoldOutput) = false := by
  have repaired : scaffoldOutput = [("ok", .bool true), ("gateway", .str "api_model_gateway"),
      ("structured_output", .obj []), ("provider_call_executed", .bool false),
      ("control_plane_only", .bool true)] := by
    rw [scaffoldOutput, repairStructuredOutputStub, if_pos (by decide)]
  rw [repaired, hasForbiddenKey_adapter _ ["ok", "gateway", "structured_output",
    "provider_call_executed", "control_plane_only"] rfl (by decide)]
  rfl

section Executing

variable (platform : GatewayPlatform) (clock : ExecutionClock) (context : ExecutionContext)

/-- The output of a classification is allowed. -/
theorem classifyTopicStub_allowed (payload : JsonObject) :
    BaseModel.hasForbiddenKey (.obj (classifyTopicStub platform payload)) = false := by
  rw [hasForbiddenKey_adapter _ ["ok", "label", "confidence", "allowed_labels", "gateway",
    "provider_call_executed", "control_plane_only", "deterministic_stub"] rfl (by decide)]
  simp [classifyTopicStub, BaseModel.hasForbiddenKey, texts_allowed]

/-- The output of an extraction is allowed. -/
theorem extractClaimsStub_allowed (payload : JsonObject) :
    BaseModel.hasForbiddenKey (.obj (extractClaimsStub platform payload)) = false := by
  rw [hasForbiddenKey_adapter _ ["ok", "claims", "source_ids", "allowed_claim_types", "gateway",
    "provider_call_executed", "control_plane_only", "deterministic_stub"] rfl (by decide)]
  have claim (claimText entity kind sourceId : String) : BaseModel.hasForbiddenKey (.obj
      [("claim_text", .str claimText), ("entity", .str entity), ("claim_type", .str kind),
        ("confidence", .float "0.86"), ("source_post_refs", .arr [.str sourceId]),
        ("evidence_hint", .str claimText)]) = false := by
    rw [hasForbiddenKey_adapter _ ["claim_text", "entity", "claim_type", "confidence",
      "source_post_refs", "evidence_hint"] rfl (by decide)]
    simp [BaseModel.hasForbiddenKey, BaseModel.itemsForbidden]
  simp [extractClaimsStub, BaseModel.hasForbiddenKey.eq_2, BaseModel.itemsForbidden, texts_allowed,
    claim]

/-- An execution that succeeds returns an envelope exactly if the ids are not blank. -/
theorem completed_returns_iff (usage : UsageRecord) (output : JsonObject) (modelId : Option String)
    (message : String) (allowed : BaseModel.hasForbiddenKey (.obj output) = false) :
    Returns (completed platform clock context usage output modelId message) ↔
      context.Identified :=
  envelope_returns_iff platform.toBackendPlatform context output [usage] _ _ .succeeded [] [message]
    context.providerId modelId allowed

/-- Whether an execution is on the control plane can always be told. -/
theorem controlPlaneBoundaryError_ok : controlPlaneBoundaryError platform clock context = .ok none ∨
    ∃ error, controlPlaneBoundaryError platform clock context = .ok (some error) := by
  rw [controlPlaneBoundaryError]
  split_ifs
  · right
    exact denied_some _ _ _ _ _ _ (by decide) (by decide)
      (optional_member_allowed "worker_id" _ (by decide))
  · right
    exact denied_some _ _ _ _ _ _ (by decide) (by decide)
      (optional_member_allowed "capacity_node_id" _ (by decide))
  · exact Or.inl rfl

/-- Without a credential, an envelope is returned exactly if the ids are not blank. -/
theorem uncredentialed_returns_iff (usage : UsageRecord) : Returns (do
      let error ← normalizeBackendError platform.library clock.occurredAt
        "api_model_gateway.credentials_missing"
        "API model gateway provider credential is not configured" false true
        [("provider_id", .str (textOr context.providerId "default"))]
      Adapter.buildResultEnvelope platform.library platform.sha256
        context.toBackendExecutionContext
        [("ok", .bool false), ("reason", .str "credentials_missing")] [usage] clock.startedAt
        clock.completedAt "failed" [error] ["api_model_gateway credential lookup failed"]
        context.providerId context.modelId) ↔ context.Identified := by
  apply returns_bind_settled
  · exact normalizeBackendError_returns platform.library _ _ _ _ _ _ (by decide) (by decide)
      (optional_member_allowed "provider_id" (some _) (by decide))
  · intro error
    exact envelope_returns_iff platform.toBackendPlatform context _ [usage] _ _ .failed [error] _
      context.providerId context.modelId (reason_allowed _)

/-- What is done behind the boundary decides whether an envelope is returned. -/
theorem boundary_returns_iff (rest : Option BackendError → Except Raised WorkUnitResultEnvelope)
    (denies : ∀ error, Returns (rest (some error)) ↔ context.Identified)
    (passes : Returns (rest none) ↔ context.Identified) :
    Returns (controlPlaneBoundaryError platform clock context >>= rest) ↔ context.Identified := by
  rcases controlPlaneBoundaryError_ok platform clock context with passed | ⟨error, denied⟩
  · rw [passed]
    exact passes
  · rw [denied]
    exact denies error

/-- The gateway returns an envelope exactly if the ids are not blank. -/
theorem execute_returns_iff :
    Returns (execute platform clock context) ↔ context.Identified := by
  have returns : Returns (execute platform clock context) ↔ context.Identified ∧ True := by
    apply execution_returns_iff platform.toBackendPlatform context
    intro usage
    rw [and_true]
    apply boundary_returns_iff
    · intro error
      exact envelope_returns_iff platform.toBackendPlatform context _ [usage] _ _ .failed [error] []
        context.providerId context.modelId (reason_allowed error.errorCode)
    · simp only
      split_ifs
      · exact completed_returns_iff platform clock context usage _ _ _
          (classifyTopicStub_allowed platform context.inputPayload)
      · exact completed_returns_iff platform clock context usage _ _ _
          (extractClaimsStub_allowed platform context.inputPayload)
      · exact uncredentialed_returns_iff platform clock context usage
      · exact completed_returns_iff platform clock context usage _ _ _ scaffoldOutput_allowed
  exact returns.trans (and_iff_left trivial)

end Executing

end APIModelGatewayAdapter

/-! ## All adapters -/

namespace WorkerDaemon

open ControlPlaneClient

/-- If the execution of an accepted assignment raises an exception, then so does its handling, and
nothing is sent any more: neither its progress nor a result. -/
theorem handleAssignment_raised {σ : Type} (plane : ControlPlaneServer σ) (config : WorkerConfig)
    (platform : WorkerPlatform) (assignment : JsonObject) (state after : WorkerState σ)
    (assignmentId accepted : Json) (error : Raised)
    (identified : Json.item assignment "assignment_id" = .ok assignmentId)
    (accepts : send plane (acceptance config.workerToken (platform.runtime.str assignmentId)
      config.workerId) state = .ok accepted after)
    (raises : platform.executeEnvelope assignment = .error error) :
    handleAssignment plane config platform assignment state = .error (.raised error) after := by
  rw [handleAssignment, identified]
  change (send plane _ >>= fun accepted => _) state = _
  rw [WorkerProgram.bind_ok accepts]
  rw [raises]
  rfl

end WorkerDaemon

namespace Backends

/-- Each of the four adapters returns an envelope exactly if the ids of the context are not blank and
what it reads of the input and the constraints is well formed: for the local tool, that the URL can
be checked; for the local script, that the hashes can be read, and unless the script is denied, that
no item has a key that no document may have; for the browser, that the page can be asked for; for
the gateway, nothing else. -/
theorem adapters_return_iff (browser : BrowserPlatform) (gateway : GatewayPlatform)
    (clock : ExecutionClock) (context : ExecutionContext)
    (separates : LocalScriptAdapter.SeparatesTexts browser.sha256)
    (written : ∀ item ∈ LocalScriptAdapter.itemsOf context.inputPayload, plain item = true) :
    (Returns (LocalToolAdapter.execute browser.toWebPlatform clock context) ↔ context.Identified ∧
      LocalToolAdapter.Checkable browser.texts (LocalToolAdapter.contextUrl context)) ∧
    (Returns (LocalScriptAdapter.execute browser.toBackendPlatform clock context) ↔
      context.Identified ∧ LocalScriptAdapter.HashesReadable context.effectiveConstraints ∧
        (LocalScriptAdapter.hashDenied context.effectiveConstraints = .ok false →
          BaseModel.itemsForbidden (LocalScriptAdapter.itemsOf context.inputPayload) = false)) ∧
    (Returns (BrowserFetchAdapter.execute browser clock context) ↔ context.Identified ∧
      BrowserFetchAdapter.Fetchable browser context.inputPayload
        (LocalToolAdapter.contextUrl context)) ∧
    (Returns (APIModelGatewayAdapter.execute gateway clock context) ↔ context.Identified) :=
  ⟨LocalToolAdapter.execute_returns_iff browser.toWebPlatform clock context,
    LocalScriptAdapter.execute_returns_iff browser.toBackendPlatform clock context separates written,
    BrowserFetchAdapter.execute_returns_iff browser clock context,
    APIModelGatewayAdapter.execute_returns_iff gateway clock context⟩

/-- A browser backend whose parser finds nothing in a page. -/
def sampleBrowser : BrowserPlatform where
  toBackendPlatform := LocalScriptAdapter.samplePlatform
  texts := asciiLibrary loopbackAddress
  feed := fun _ => .ok []

/-- A gateway on the same platform. -/
def sampleGateway : GatewayPlatform where
  toWebPlatform := sampleBrowser.toWebPlatform
  runtime := ⟨fun _ => false, fun _ => false, fun _ => "", fun _ => none⟩
  isUpper := fun character => 'A' ≤ character ∧ character ≤ 'Z'

/-- The context of an execution with a URL and items. -/
def sampleContext (url : String) : ExecutionContext where
  toBackendExecutionContext := Hashes.sampleContext "local_tool"
  taskType := "url_check"
  inputPayload := [("url", .str url), ("items", .arr [.int 1])]

/-- The parts of a sample URL. -/
def sampleParts : SplitResult := ⟨"http".toList, "example.com".toList, "/a".toList, [], []⟩

/-- On a well formed input, all adapters return envelopes. -/
theorem adapters_return_sample :
    Returns (LocalToolAdapter.execute sampleBrowser.toWebPlatform LocalScriptAdapter.sampleClock
      (sampleContext "http://example.com/a")) ∧
    Returns (LocalScriptAdapter.execute sampleBrowser.toBackendPlatform
      LocalScriptAdapter.sampleClock (sampleContext "http://example.com/a")) ∧
    Returns (BrowserFetchAdapter.execute sampleBrowser LocalScriptAdapter.sampleClock
      (sampleContext "http://example.com/a")) ∧
    Returns (APIModelGatewayAdapter.execute sampleGateway LocalScriptAdapter.sampleClock
      (sampleContext "http://example.com/a")) := by
  have decided := adapters_return_iff sampleBrowser sampleGateway LocalScriptAdapter.sampleClock
    (sampleContext "http://example.com/a") (fun _ _ _ _ => CapacityTable.framed_separates _ _)
    (by decide)
  have identified : (sampleContext "http://example.com/a").Identified := by decide
  have splits : urlsplit sampleBrowser.texts "http://example.com/a".toList = .ok sampleParts := by
    decide
  have stripped : urlsplit sampleBrowser.texts (strip "http://example.com/a".toList) =
      .ok sampleParts := by decide
  have unported : port sampleParts = .ok none := by decide
  have unredirected : BrowserFetchAdapter.redirectOf (sampleContext "http://example.com/a").inputPayload
      "http://example.com/a" = none := by decide
  refine ⟨decided.1.mpr ⟨identified, Or.inr ⟨sampleParts, splits, fun _ => ?_⟩⟩,
    decided.2.1.mpr ⟨identified, ?_, fun _ => by decide⟩,
    decided.2.2.1.mpr ⟨identified, Or.inr ⟨sampleParts, splits, fun _ _ => ⟨?_, fun _ => ?_⟩⟩⟩,
    decided.2.2.2.mpr identified⟩
  · exact ⟨sampleParts, none, stripped, unported, by decide, by decide⟩
  · exact ⟨by decide, by decide⟩
  · intro redirectUrl redirects
    exact absurd (unredirected.symm.trans redirects) (by simp)
  · exact ⟨⟨sampleParts, none, stripped, unported⟩, fun _ => ⟨[], rfl⟩⟩

/-- A control plane that accepts every request. -/
def acceptingPlane : ControlPlaneServer Unit where
  respond := fun _ _ => (.ok ⟨200, "\x7b\x7d"⟩, ())

/-- A worker whose executions are checks of a URL without a closing bracket. -/
def sampleWorker : WorkerPlatform where
  runtime := sampleGateway.runtime
  leaseTokenHash := fun _ => ""
  executeEnvelope := fun _ => LocalToolAdapter.execute sampleBrowser.toWebPlatform
    LocalScriptAdapter.sampleClock (sampleContext "http://[")

/-- The configuration of the worker. -/
def sampleConfig : WorkerConfig := { workerId := "w", workerToken := "tbk_w_1" }

/-- The worker before it handles the assignment. -/
def sampleState : WorkerState Unit := { plane := (), spool := Store.Table.empty }

/-- A URL without a closing bracket raises an exception, and the worker sends the acceptance of its
assignment but no result. -/
theorem bracket_raises :
    (sampleContext "http://[").Identified ∧
    LocalToolAdapter.execute sampleBrowser.toWebPlatform LocalScriptAdapter.sampleClock
      (sampleContext "http://[") = .error (.valueError "Invalid IPv6 URL") ∧
    ∃ after, WorkerDaemon.handleAssignment acceptingPlane sampleConfig sampleWorker
        [("assignment_id", .str "assign_a")] sampleState =
          .error (.raised (.valueError "Invalid IPv6 URL")) after ∧
      after.sent = [ControlPlaneClient.acceptance "tbk_w_1" "assign_a" "w"] := by
  have identified : (sampleContext "http://[").Identified := by decide
  have raises := LocalToolAdapter.execute_raises sampleBrowser.toWebPlatform
    LocalScriptAdapter.sampleClock (sampleContext "http://[") identified .brackets
    (by decide)
  obtain ⟨accepted, answers⟩ : ∃ accepted, ControlPlaneClient.answered
      (.ok ⟨200, "\x7b\x7d"⟩) = .ok accepted := by
    obtain ⟨accepted, loads⟩ := Option.isSome_iff_exists.mp
      (by decide : (jsonLoads "\x7b\x7d").isSome = true)
    refine ⟨accepted, ?_⟩
    rw [ControlPlaneClient.answered, if_neg (by decide)]
    simp only [loads]
  refine ⟨identified, raises, ControlPlaneClient.afterRequest acceptingPlane sampleState
    (ControlPlaneClient.acceptance "tbk_w_1" "assign_a" "w"), ?_, rfl⟩
  refine WorkerDaemon.handleAssignment_raised acceptingPlane sampleConfig sampleWorker _ sampleState
    _ (.str "assign_a") accepted _ rfl ?_ raises
  change ControlPlaneClient.send acceptingPlane
    (ControlPlaneClient.acceptance "tbk_w_1" "assign_a" "w") sampleState = _
  have answered : ControlPlaneClient.answered (acceptingPlane.respond sampleState.plane
      (ControlPlaneClient.acceptance "tbk_w_1" "assign_a" "w")).1 = .ok accepted := answers
  rw [ControlPlaneClient.send, answered]

end Backends

end TokenBank

import TokenBank.Core.CanonicalUrl

/-!
# What a canonical URL addresses

A canonical URL of a web address is put in the same form again, and has the same host and port,
if and only if the host of the address has neither a colon nor a bracket. An address of version 6
loses the brackets around it, and is read as another host with another port.
-/

namespace TokenBank

namespace Canonical

open Url

/-! ## Web addresses -/

/-- The URL is of one of the schemes of web addresses. -/
def webScheme (scheme : List Char) : Prop := scheme = "http".toList ∨ scheme = "https".toList

/-- The port, or the one the scheme has without saying so. -/
def effectivePort (scheme : List Char) : Option Nat → Option Nat
  | some port => some port
  | none =>
    if scheme = "http".toList then some 80
    else if scheme = "https".toList then some 443 else none

section Library

variable (library : Library)

/-- The host of a URL in lower case, and its port. -/
def target (url : List Char) : Except UrlError (List Char × Option Nat) := do
  let parts ← urlsplit library url
  let port ← port parts
  return (library.lower ((hostname library parts).getD []), effectivePort parts.scheme port)

/-- A canonical URL stands for what the URL does: it is canonical itself, and has the same host
and port. -/
def StandsFor (text url : List Char) : Prop :=
  canonicalUrl library text = .ok text ∧ target library text = target library (strip url)

/-- The parts of a URL decide its canonical form. -/
theorem canonicalUrl_parts (url : List Char) (parts : SplitResult) (number : Option Nat)
    (splits : urlsplit library (strip url) = .ok parts) (ported : port parts = .ok number) :
    canonicalUrl library url = .ok (urlunsplit (canonicalParts library parts number)) := by
  simp only [canonicalUrl, splits, ported, bind, Except.bind, pure, Except.pure]

/-- The parts of a URL decide what it addresses. -/
theorem target_parts (url : List Char) (parts : SplitResult) (number : Option Nat)
    (splits : urlsplit library url = .ok parts) (ported : port parts = .ok number) :
    target library url = .ok
      (library.lower ((hostname library parts).getD []), effectivePort parts.scheme number) := by
  simp only [target, splits, ported, bind, Except.bind, pure, Except.pure]

/-- A host is that of its network location in lower case. -/
theorem hostname_some (parts : SplitResult) (host : List Char)
    (hosted : hostname library parts = some host) :
    (hostinfo parts.netloc).1 ≠ [] ∧ host = lowerHost library (hostinfo parts.netloc).1 := by
  rw [hostname] at hosted
  split_ifs at hosted with empty
  exact ⟨empty, (Option.some.inj hosted).symm⟩

/-- The network location of a canonical URL has the host, in lower case, and perhaps a port. -/
theorem canonicalNetloc_forms (scheme host : List Char) (number : Option Nat) :
    canonicalNetloc scheme host number = host ∨ ∃ given, number = some given ∧
      defaultPort scheme given = false ∧
        canonicalNetloc scheme host number = host ++ ':' :: Nat.toDigits 10 given := by
  cases number with
  | none => exact Or.inl rfl
  | some given =>
    rw [canonicalNetloc]
    split_ifs with omitted
    · exact Or.inl rfl
    · exact Or.inr ⟨given, rfl, by simpa using omitted, rfl⟩

/-- The characters of the network location of a canonical URL. -/
theorem mem_canonicalNetloc (scheme host : List Char) (number : Option Nat) :
    ∀ character ∈ canonicalNetloc scheme host number,
      character ∈ host ∨ character = ':' ∨ digit character = true := by
  intro character member
  rcases canonicalNetloc_forms scheme host number with bare | ⟨given, -, -, ported⟩
  · exact Or.inl (bare ▸ member)
  · rw [ported, List.mem_append, List.mem_cons] at member
    rcases member with inHost | colon | digits
    · exact Or.inl inHost
    · exact Or.inr (Or.inl colon)
    · exact Or.inr (Or.inr (toDigits_digits given character digits))

/-- A mark other than a colon is in the network location of a canonical URL only if it is in the
host. -/
theorem mark_canonicalNetloc (scheme host : List Char) (number : Option Nat) (mark : Char)
    (other : mark ≠ ':') (unlike : digit mark = false)
    (member : mark ∈ canonicalNetloc scheme host number) : mark ∈ host := by
  rcases mem_canonicalNetloc scheme host number mark member with inHost | colon | isDigit
  · exact inHost
  · exact absurd colon other
  · rw [unlike] at isDigit
    cases isDigit

/-- The marks of the host of a canonical URL are in its network location. -/
theorem host_canonicalNetloc (scheme host : List Char) (number : Option Nat) :
    ∀ character ∈ host, character ∈ canonicalNetloc scheme host number := by
  intro character member
  rcases canonicalNetloc_forms scheme host number with bare | ⟨given, -, -, ported⟩
  · rw [bare]
    exact member
  · rw [ported]
    exact List.mem_append_left _ member

/-- The port that is left out is the one that a web address has without it. -/
theorem effectivePort_default (scheme : List Char) (given : Nat)
    (omitted : defaultPort scheme given = true) :
    effectivePort scheme none = effectivePort scheme (some given) := by
  simp only [defaultPort, Bool.or_eq_true, Bool.and_eq_true, decide_eq_true_eq] at omitted
  rcases omitted with ⟨rfl, rfl⟩ | ⟨rfl, rfl⟩ <;> rfl

/-- The host and the port of a canonical URL are read back, if there are no colons or brackets in
the host. -/
theorem canonicalNetloc_read (scheme host : List Char) (number : Option Nat)
    (inRange : ∀ given, number = some given → given ≤ 65535) (uncoloned : ':' ∉ host)
    (unmarked : '@' ∉ host) (unbracketed : '[' ∉ host) (parts : SplitResult)
    (located : parts.netloc = canonicalNetloc scheme host number) :
    (hostinfo parts.netloc).1 = host ∧ ∃ shown, port parts = .ok shown ∧
      effectivePort scheme shown = effectivePort scheme number ∧
        canonicalNetloc scheme host shown = canonicalNetloc scheme host number := by
  have bare (isHost : parts.netloc = host) :
      (hostinfo parts.netloc).1 = host ∧ port parts = .ok none := by
    rw [port, isHost, hostinfo_host host uncoloned unmarked unbracketed]
    exact ⟨rfl, rfl⟩
  cases number with
  | none => exact ⟨(bare located).1, none, (bare located).2, rfl, rfl⟩
  | some given =>
    rw [canonicalNetloc] at located
    split_ifs at located with omitted
    · refine ⟨(bare located).1, none, (bare located).2, effectivePort_default scheme given omitted, ?_⟩
      rw [canonicalNetloc, canonicalNetloc, if_pos omitted]
    · have undigit (mark : Char) (isMark : digit mark = false) (other : mark ≠ ':')
          (unlike : mark ∉ host) : mark ∉ host ++ ':' :: Nat.toDigits 10 given := by
        rw [List.mem_append, List.mem_cons, not_or, not_or]
        refine ⟨unlike, other, fun member => ?_⟩
        rw [toDigits_digits given mark member] at isMark
        cases isMark
      have read := hostinfo_port host (Nat.toDigits 10 given) uncoloned
        (undigit '@' (by decide) (by decide) unmarked)
        (undigit '[' (by decide) (by decide) unbracketed)
      rw [← located] at read
      exact ⟨by rw [read], some given,
        port_written parts given (by rw [read]) (inRange given rfl), rfl, rfl⟩

/-- No mark is a digit. -/
theorem marks_undigit : ∀ mark ∈ marks, digit mark = false :=
  forall_of_all marks _ (by decide)

/-! ## The canonical URL of a web address -/

variable (parts : SplitResult) (number : Option Nat)

/-- The marks of the network location of a canonical URL, colons apart, are those of the host. -/
theorem mark_iff (scheme host : List Char) (mark : Char) (isMark : mark ∈ marks)
    (other : mark ≠ ':') :
    mark ∈ canonicalNetloc scheme (library.lower host) number ↔ mark ∈ host := by
  rw [← library.lower_marks host mark isMark]
  constructor
  · exact mark_canonicalNetloc scheme _ number mark other (marks_undigit mark isMark)
  · exact host_canonicalNetloc scheme _ number mark

/-- A scheme of web addresses is in lower case. -/
theorem webScheme_lower (scheme : List Char) (isWeb : webScheme scheme) :
    library.lower scheme = scheme := by
  obtain ⟨-, -, -, lowered, characters⟩ := web_scheme scheme isWeb
  rw [library.lower_ascii scheme (fun character member => (characters character member).2), lowered]

/-- The network location of a canonical URL has no mark that is refused or ends it. -/
theorem canonicalNetloc_unmarked (url : List Char) (splits : urlsplit library url = .ok parts)
    (scheme : List Char) (mark : Char)
    (bad : mark ∈ ['/', '?', '#', '@', '\t', '\r', '\n'] ++ expanding) :
    mark ∉ canonicalNetloc scheme (library.lower (hostinfo parts.netloc).1) number := by
  obtain ⟨split, -, characters⟩ := urlsplit_ok library url parts splits
  have facts : ∀ mark ∈ ['/', '?', '#', '@', '\t', '\r', '\n'] ++ expanding,
      mark ∈ marks ∧ mark ≠ ':' ∧
      (delimiter mark = true ∨ mark = '@' ∨ mark ∈ ['\t', '\r', '\n'] ∨ mark ∈ expanding) :=
    forall_of_all _ _ (by decide)
  obtain ⟨isMark, other, kind⟩ := facts mark bad
  rw [mark_iff library number scheme _ mark isMark other]
  intro member
  obtain ⟨inNetloc, unlike⟩ := mem_host parts.netloc mark member
  have kept := mem_netloc url mark (split ▸ inNetloc)
  rcases kind with delimits | isAt | removed | expands
  · rw [kept.1] at delimits
    cases delimits
  · exact unlike isAt
  · exact kept.2 removed
  · rw [checkNetloc] at characters
    split_ifs at characters with found
    apply found
    rw [List.any_eq_true]
    exact ⟨mark, inNetloc, List.contains_iff_mem.mpr expands⟩

/-- A delimiter is one of three marks. -/
theorem delimiter_iff (character : Char) :
    delimiter character = true ↔ character ∈ ['/', '?', '#'] := by
  rw [delimiter, List.contains_iff_mem]

/-- The characters that are not quoted in a path are shown. -/
theorem pathSafe_shown : ∀ character ∈ pathSafe, 32 < character.toNat :=
  forall_of_all pathSafe _ (by decide)

/-- The host of a URL in lower case, which is empty if there is none. -/
theorem lower_hostname : library.lower ((hostname library parts).getD []) =
    library.lower (hostinfo parts.netloc).1 := by
  rw [hostname]
  split_ifs with unhosted
  · rw [unhosted]
    rfl
  · rw [Option.getD_some, lower_lowerHost]

variable (isWeb : webScheme parts.scheme)

include isWeb

/-- The parts of the canonical URL of a web address. -/
theorem canonicalParts_web : canonicalParts library parts number =
    { scheme := parts.scheme
      netloc :=
        canonicalNetloc parts.scheme (library.lower (hostinfo parts.netloc).1) number
      path := canonicalPath parts.path
      query := canonicalQuery parts.query
      fragment := [] } := by
  simp only [canonicalParts, lower_hostname, webScheme_lower library parts.scheme isWeb]

variable (url : List Char) (splits : urlsplit library url = .ok parts)

include splits

omit isWeb in
/-- The path behind a host is empty or begins with a slash. -/
theorem hosted_path (hosted : (hostinfo parts.netloc).1 ≠ []) :
    parts.path = [] ∨ ∃ rest, parts.path = '/' :: rest := by
  obtain ⟨split, -, -⟩ := urlsplit_ok library url parts splits
  have located : parts.netloc ≠ [] := by
    intro empty
    apply hosted
    rw [empty]
    rfl
  rw [split] at located ⊢
  exact path_rooted _ located

/-- The parts of the canonical URL of a web address are found again. -/
theorem canonicalParts_found : Web (canonicalParts library parts number) := by
  have unmarked := canonicalNetloc_unmarked library parts number url splits parts.scheme
  have queryPlain : ∀ character ∈ canonicalQuery parts.query, queryCharacter character = true ∨
      character = '&' ∨ character = '=' := urlencode_characters _
  have pathPlain := canonicalPath_plain parts.path
  rw [canonicalParts_web library parts number isWeb]
  constructor
  · exact isWeb
  · intro character member
    rw [← Bool.not_eq_true, delimiter_iff]
    intro delimits
    exact unmarked character (by simp only [List.mem_append, List.mem_cons] at delimits ⊢; tauto) member
  · exact canonicalPath_rooted parts.path
  · intro query
    exact absurd (pathPlain '?' query) (by decide)
  · intro fragment
    exact absurd (pathPlain '#' fragment) (by decide)
  · intro fragment
    exact absurd (queryPlain '#' fragment) (by decide)
  · rfl
  · intro character member
    rw [List.mem_append, List.mem_append] at member
    rcases member with (inNetloc | inPath) | inQuery
    · intro removed
      exact unmarked character (by simp only [List.mem_append, List.mem_cons] at removed ⊢; tauto)
        inNetloc
    · exact kept_shown character (plain_shown pathSafe pathSafe_shown character
        (pathPlain character inPath)).1
    · exact kept_shown character (urlencode_shown _ character inQuery).1

/-- There are no blanks around the canonical URL of a web address. -/
theorem strip_canonical : strip (urlunsplit (canonicalParts library parts number)) =
    urlunsplit (canonicalParts library parts number) := by
  have found := canonicalParts_found library parts number isWeb url splits
  apply strip_same
  · intro character first
    obtain ⟨letter, rest, begins, shown, ascii⟩ := web_head _ found
    rw [begins, List.head?_cons] at first
    exact Option.some.inj first ▸ blank_shown letter shown ascii
  · intro character last
    obtain ⟨given, isLast, behind⟩ := web_last _ found
    rw [isLast] at last
    have shown : 32 < given.toNat ∧ given.toNat < 128 := by
      rw [canonicalParts_web library parts number isWeb, List.mem_append] at behind
      rcases behind with inPath | inQuery
      · exact plain_shown pathSafe pathSafe_shown given (canonicalPath_plain _ given inPath)
      · rw [queryText] at inQuery
        split_ifs at inQuery
        · cases List.mem_cons.mp inQuery with
          | inl sign =>
            rw [sign]
            decide
          | inr written => exact urlencode_shown _ given written
        · cases inQuery
    exact Option.some.inj last ▸ blank_shown given shown.1 shown.2

/-- The canonical URL of a web address is split into its parts, unless there are brackets in its
host. -/
theorem urlsplit_canonical :
    urlsplit library (strip (urlunsplit (canonicalParts library parts number))) = (do
      checkBrackets library (canonicalParts library parts number).netloc
      return canonicalParts library parts number) := by
  have found := canonicalParts_found library parts number isWeb url splits
  have unmarked := canonicalNetloc_unmarked library parts number url splits parts.scheme
  have characters : checkNetloc (canonicalParts library parts number).netloc = .ok () := by
    rw [canonicalParts_web library parts number isWeb, checkNetloc, if_neg]
    intro expands
    obtain ⟨mark, member, listed⟩ := List.any_eq_true.mp expands
    exact unmarked mark (List.mem_append_right _ (List.contains_iff_mem.mp listed)) member
  rw [strip_canonical library parts number isWeb url splits, urlsplit_web library _ found,
    characters]
  rfl

/-- If there are brackets in the host of a web address, its canonical URL is refused. -/
theorem urlsplit_bracketed
    (bracketed : '[' ∈ (hostinfo parts.netloc).1 ∨ ']' ∈ (hostinfo parts.netloc).1) :
    urlsplit library (strip (urlunsplit (canonicalParts library parts number))) =
      .error .brackets := by
  have opening := mark_iff library number parts.scheme (hostinfo parts.netloc).1 '[' (by decide)
    (by decide)
  have closing := mark_iff library number parts.scheme (hostinfo parts.netloc).1 ']' (by decide)
    (by decide)
  have notBoth := host_brackets parts.netloc
  have refused : checkBrackets library (canonicalParts library parts number).netloc =
      .error .brackets := by
    rw [canonicalParts_web library parts number isWeb, checkBrackets, if_pos]
    intro same
    rw [Bool.eq_iff_iff, List.contains_iff_mem, List.contains_iff_mem, opening, closing] at same
    tauto
  rw [urlsplit_canonical library parts number isWeb url splits, refused]
  rfl

/-- Without brackets in its host, the canonical URL of a web address is split into its parts. -/
theorem urlsplit_unbracketed
    (unbracketed : '[' ∉ (hostinfo parts.netloc).1 ∧ ']' ∉ (hostinfo parts.netloc).1) :
    urlsplit library (strip (urlunsplit (canonicalParts library parts number))) =
      .ok (canonicalParts library parts number) := by
  have opening : '[' ∉ (canonicalParts library parts number).netloc := by
    rw [canonicalParts_web library parts number isWeb,
      mark_iff library number parts.scheme _ '[' (by decide) (by decide)]
    exact unbracketed.1
  have closing : ']' ∉ (canonicalParts library parts number).netloc := by
    rw [canonicalParts_web library parts number isWeb,
      mark_iff library number parts.scheme _ ']' (by decide) (by decide)]
    exact unbracketed.2
  have allowed : checkBrackets library (canonicalParts library parts number).netloc = .ok () := by
    rw [checkBrackets]
    simp [opening, closing]
  rw [urlsplit_canonical library parts number isWeb url splits, allowed]
  rfl

/-- Without colons and brackets in its host, a web address has a canonical URL that stands for
it. -/
theorem standsFor_unmarked (hosted : (hostinfo parts.netloc).1 ≠ []) (ported : port parts = .ok number)
    (uncoloned : ':' ∉ (hostinfo parts.netloc).1)
    (unbracketed : '[' ∉ (hostinfo parts.netloc).1 ∧ ']' ∉ (hostinfo parts.netloc).1) :
    canonicalUrl library (urlunsplit (canonicalParts library parts number)) =
        .ok (urlunsplit (canonicalParts library parts number)) ∧
      target library (urlunsplit (canonicalParts library parts number)) = target library url := by
  have stripped := strip_canonical library parts number isWeb url splits
  have again := urlsplit_unbracketed library parts number isWeb url splits unbracketed
  have formed := canonicalParts_web library parts number isWeb
  have kept (mark : Char) (isMark : mark ∈ marks) (absent : mark ∉ (hostinfo parts.netloc).1) :
      mark ∉ library.lower (hostinfo parts.netloc).1 :=
    fun member => absent ((library.lower_marks _ mark isMark).mp member)
  have unsigned : '@' ∉ (hostinfo parts.netloc).1 :=
    fun member => (mem_host parts.netloc '@' member).2 rfl
  obtain ⟨host, shown, read, effective, sameNetloc⟩ := canonicalNetloc_read parts.scheme
    (library.lower (hostinfo parts.netloc).1) number
    (fun given isSome => port_range parts given (isSome ▸ ported)) (kept ':' (by decide) uncoloned)
    (kept '@' (by decide) unsigned) (kept '[' (by decide) unbracketed.1)
    (canonicalParts library parts number) (by rw [formed])
  have filled : (hostinfo (canonicalParts library parts number).netloc).1 ≠ [] := by
    rw [host]
    exact fun empty => hosted (library.lower_filled _ empty)
  have scheme : (canonicalParts library parts number).scheme = parts.scheme := by rw [formed]
  have same : canonicalParts library (canonicalParts library parts number) shown =
      canonicalParts library parts number := by
    rw [canonicalParts_web library (canonicalParts library parts number) shown (scheme ▸ isWeb), host, library.lower_lower, scheme]
    rw [formed]
    simp only [sameNetloc, canonicalQuery_same,
      canonicalPath_same parts.path (hosted_path library parts url splits hosted)]
  constructor
  · rw [canonicalUrl_parts library _ _ shown again read, same]
  · rw [stripped] at again
    rw [target_parts library _ _ shown again read, target_parts library url parts number splits ported,
      scheme, effective, hostname, hostname, if_neg hosted, if_neg filled, host]
    simp only [Option.getD_some, lower_lowerHost, library.lower_lower]

/-- With a colon or a bracket in its host, a web address has no canonical URL that stands for
it. -/
theorem standsFor_marked (hosted : (hostinfo parts.netloc).1 ≠ []) (ported : port parts = .ok number)
    (same : canonicalUrl library (urlunsplit (canonicalParts library parts number)) =
        .ok (urlunsplit (canonicalParts library parts number)))
    (targets : target library (urlunsplit (canonicalParts library parts number)) =
      target library url) :
    ':' ∉ (hostinfo parts.netloc).1 ∧ '[' ∉ (hostinfo parts.netloc).1 ∧
      ']' ∉ (hostinfo parts.netloc).1 := by
  have stripped := strip_canonical library parts number isWeb url splits
  have unbracketed : '[' ∉ (hostinfo parts.netloc).1 ∧ ']' ∉ (hostinfo parts.netloc).1 := by
    by_contra bracketed
    rw [not_and_or, not_not, not_not] at bracketed
    have refused := urlsplit_bracketed library parts number isWeb url splits bracketed
    rw [canonicalUrl, refused] at same
    cases same
  refine ⟨?_, unbracketed⟩
  have again := urlsplit_unbracketed library parts number isWeb url splits unbracketed
  rw [stripped] at again
  rw [target_parts library url parts number splits ported] at targets
  cases read : port (canonicalParts library parts number) with
  | error refused =>
    rw [target, again] at targets
    simp only [bind, Except.bind, read] at targets
    cases targets
  | ok shown =>
    rw [target_parts library _ _ shown again read] at targets
    have hosts := (Prod.mk.inj (Except.ok.inj targets)).1
    intro coloned
    have inHost : ':' ∈ library.lower ((hostname library parts).getD []) := by
      rw [hostname, if_neg hosted, Option.getD_some, lower_lowerHost,
        library.lower_marks _ ':' (by decide)]
      exact coloned
    rw [← hosts, library.lower_marks _ ':' (by decide)] at inHost
    have unopened : '[' ∉ (canonicalParts library parts number).netloc := by
      rw [canonicalParts_web library parts number isWeb,
        mark_iff library number parts.scheme _ '[' (by decide) (by decide)]
      exact unbracketed.1
    rw [hostname] at inHost
    split_ifs at inHost
    · cases inHost
    · rw [Option.getD_some, mark_lowerHost library _ ':' (by decide)] at inHost
      exact host_uncoloned _ unopened inHost

end Library

/-! ## Which URLs have a canonical one that stands for them -/

/-- The canonical URL of a web address that has a host is canonical itself, and has the same host
in lower case and the same port, with the one the scheme has by default, if and only if the host
has neither a colon nor a bracket. -/
theorem canonicalUrl_standsFor_iff (library : Library) (url text : List Char) (parts : SplitResult)
    (host : List Char) (splits : urlsplit library (strip url) = .ok parts)
    (isWeb : webScheme parts.scheme) (hosted : hostname library parts = some host)
    (returns : canonicalUrl library url = .ok text) :
    StandsFor library text url ↔ ':' ∉ host ∧ '[' ∉ host ∧ ']' ∉ host := by
  obtain ⟨filled, rfl⟩ := hostname_some library parts host hosted
  rw [mark_lowerHost library _ ':' (by decide), mark_lowerHost library _ '[' (by decide),
    mark_lowerHost library _ ']' (by decide)]
  cases ported : port parts with
  | error refused =>
    simp only [canonicalUrl, splits, ported, bind, Except.bind] at returns
    cases returns
  | ok number =>
    rw [canonicalUrl_parts library url parts number splits ported] at returns
    obtain rfl := Except.ok.inj returns
    constructor
    · rintro ⟨same, targets⟩
      exact standsFor_marked library parts number isWeb (strip url) splits filled ported same targets
    · rintro ⟨uncoloned, unbracketed⟩
      exact standsFor_unmarked library parts number isWeb (strip url) splits filled ported uncoloned
        unbracketed

/-- The address of the machine itself in version 6. -/
def loopbackAddress (host : List Char) : Option Address :=
  if host = "::1".toList then
    some { version6 := true, isPrivate := true, isLoopback := true, isLinkLocal := false,
           isReserved := true }
  else none

/-- A name of a user, a default port, dots and escapes in a path and blank and repeated fields do
not matter. -/
theorem canonicalUrl_standsFor_sample : StandsFor (asciiLibrary loopbackAddress)
    "http://example.com/b/%7e?a=&a=1&z=+".toList
    " HTTP://user@Example.COM:080/a/../b//%7e?z=+&a=1&a=&#top".toList :=
  (canonicalUrl_standsFor_iff (asciiLibrary loopbackAddress) _ _
    ⟨"http".toList, "user@Example.COM:080".toList, "/a/../b//%7e".toList, "z=+&a=1&a=&".toList,
      "top".toList⟩
    "example.com".toList (by decide +kernel) (Or.inl rfl) (by decide +kernel)
    (by decide +kernel)).mpr (by decide)

/-- An address of version 6 is read as an empty host with a port that is not a number. -/
theorem bracketed_unlike : ∃ parts text,
    urlsplit (asciiLibrary loopbackAddress) (strip "http://[::1]/".toList) = .ok parts ∧
      webScheme parts.scheme ∧
      hostname (asciiLibrary loopbackAddress) parts = some "::1".toList ∧
      canonicalUrl (asciiLibrary loopbackAddress) "http://[::1]/".toList = .ok text ∧
      ¬ StandsFor (asciiLibrary loopbackAddress) text "http://[::1]/".toList := by
  refine ⟨⟨"http".toList, "[::1]".toList, ['/'], [], []⟩, "http://::1/".toList, by decide +kernel,
    Or.inl rfl, by decide +kernel, by decide +kernel, ?_⟩
  rintro ⟨same, -⟩
  have refused : canonicalUrl (asciiLibrary loopbackAddress) "http://::1/".toList =
      .error .portNotNumber := by decide +kernel
  rw [refused] at same
  cases same

end Canonical

end TokenBank

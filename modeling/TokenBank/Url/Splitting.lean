import Mathlib.Data.List.Basic
import Mathlib.Tactic.IntervalCases
import TokenBank.Url.Quoting

/-!
# Splitting

A URL is split into its scheme, its network location, a path, a query and a fragment, and put
together again. The network location has a host, in brackets or not, and a port; it may not
have a bracket without its counterpart, an invalid host in brackets, or a character whose
compatibility form has one of the marks that separate parts. Lower case beyond ASCII, and what
is known of the addresses of hosts, are parameters.
-/

namespace Url

/-! ## What is taken from elsewhere -/

/-- Characters whose compatibility form has a slash, a question mark, a number sign, an at sign
or a colon. -/
def expanding : List Char :=
  [0x2047, 0x2048, 0x2049, 0x2100, 0x2101, 0x2105, 0x2106, 0x2A74, 0xFE13, 0xFE16, 0xFE55, 0xFE56,
    0xFE5F, 0xFE6B, 0xFF03, 0xFF0F, 0xFF1A, 0xFF1F, 0xFF20].map Char.ofNat

/-- The characters that matter where a URL is split. -/
def marks : List Char := ['/', '?', '#', '@', ':', '[', ']', '%', '\t', '\r', '\n'] ++ expanding

/-- What is known of the address a host is given by. -/
structure Address where
  version6 : Bool
  isPrivate : Bool
  isLoopback : Bool
  isLinkLocal : Bool
  isReserved : Bool

/-- Lower case, which is known for ASCII, and the addresses that hosts are given by. In lower
case no mark appears or disappears, and what is behind a percent sign does not depend on what is
in front of it. -/
structure Library where
  lower : List Char → List Char
  address : List Char → Option Address
  lower_ascii : ∀ text, (∀ character ∈ text, character.toNat < 128) →
    lower text = text.map Char.toLower
  lower_lower : ∀ text, lower (lower text) = lower text
  lower_percent : ∀ front rest, lower (front ++ '%' :: rest) = lower front ++ '%' :: lower rest
  lower_marks : ∀ text mark, mark ∈ marks → (mark ∈ lower text ↔ mark ∈ text)
  lower_filled : ∀ text, lower text = [] → text = []

/-- A letter of ASCII is put in lower case, any other character is kept. -/
theorem toLower_cases (character : Char) : character.toLower = character ∨
    (97 ≤ character.toLower.toNat ∧ character.toLower.toNat ≤ 122 ∧
      character.toLower.toLower = character.toLower) := by
  by_cases upper : character.val ≥ 'A'.val ∧ character.val ≤ 'Z'.val
  · right
    have atLeast : 65 ≤ character.toNat := upper.1
    have atMost : character.toNat ≤ 90 := upper.2
    rw [← Char.ofNat_toNat character]
    interval_cases character.toNat <;> decide
  · left
    exact dif_neg upper

/-- A mark is not a letter. -/
theorem marks_unlike : ∀ mark ∈ marks,
    mark.toLower = mark ∧ ¬ (97 ≤ mark.toNat ∧ mark.toNat ≤ 122) :=
  forall_of_all marks _ (by decide)

/-- A text of ASCII in lower case is in lower case. -/
theorem ascii_lower (text : List Char) :
    (text.map Char.toLower).map Char.toLower = text.map Char.toLower := by
  rw [List.map_map]
  apply List.map_congr_left
  intro character _
  rcases toLower_cases character with kept | ⟨-, -, lowered⟩
  · rw [Function.comp_apply, kept]
    exact kept
  · exact lowered

/-- What is behind a percent sign is put in lower case by itself. -/
theorem ascii_percent (front rest : List Char) : (front ++ '%' :: rest).map Char.toLower =
    front.map Char.toLower ++ '%' :: rest.map Char.toLower := by
  rw [List.map_append, List.map_cons]
  rfl

/-- The marks of a text are those of the text in lower case. -/
theorem ascii_marks (text : List Char) (mark : Char) (isMark : mark ∈ marks) :
    mark ∈ text.map Char.toLower ↔ mark ∈ text := by
  obtain ⟨kept, unlike⟩ := marks_unlike mark isMark
  rw [List.mem_map]
  constructor
  · rintro ⟨character, member, lowered⟩
    rcases toLower_cases character with same | ⟨atLeast, atMost, -⟩
    · rw [← lowered, same]
      exact member
    · rw [lowered] at atLeast atMost
      exact absurd ⟨atLeast, atMost⟩ unlike
  · exact fun member => ⟨mark, member, kept⟩

/-- A text is empty if it is in lower case. -/
theorem ascii_filled (text : List Char) (empty : text.map Char.toLower = []) : text = [] :=
  List.map_eq_nil_iff.mp empty

/-- Lower case of ASCII alone is as lower case is assumed to be. -/
def asciiLibrary (address : List Char → Option Address) : Library where
  lower := List.map Char.toLower
  address := address
  lower_ascii _ _ := rfl
  lower_lower := ascii_lower
  lower_percent := ascii_percent
  lower_marks := ascii_marks
  lower_filled := ascii_filled

/-! ## Definitions -/

/-- The parts of a URL. -/
structure SplitResult where
  scheme : List Char
  netloc : List Char
  path : List Char
  query : List Char
  fragment : List Char
deriving DecidableEq

/-- Why a URL is refused. -/
inductive UrlError : Type
  | brackets
  | bracketedHost
  | compatibility
  | portNotNumber
  | portRange
deriving DecidableEq

/-- A letter of ASCII. -/
def letter (character : Char) : Bool :=
  ('a' ≤ character && character ≤ 'z') || ('A' ≤ character && character ≤ 'Z')

/-- A digit of ASCII. -/
def digit (character : Char) : Bool := '0' ≤ character && character ≤ '9'

/-- A character of a scheme. -/
def schemeCharacter (character : Char) : Bool :=
  letter character || digit character || ['+', '-', '.'].contains character

/-- A URL without the control characters and blanks in front of it, and without tabulators and
line breaks. -/
def cleaned (url : List Char) : List Char :=
  (url.dropWhile (fun character => character.toNat ≤ 32)).filter
    (fun character => character ∉ ['\t', '\r', '\n'])

/-- The scheme of a URL, in lower case, and what is behind it. -/
def splitScheme (url : List Char) : List Char × List Char :=
  let front := before ':' url
  if ':' ∈ url ∧ front.head?.any letter = true ∧ front.all schemeCharacter = true then
    (front.map Char.toLower, after ':' url)
  else ([], url)

/-- A character behind the network location. -/
def delimiter (character : Char) : Bool := ['/', '?', '#'].contains character

/-- The network location behind two slashes, and what is behind it. -/
def splitNetloc : List Char → List Char × List Char
  | '/' :: '/' :: rest =>
    (rest.takeWhile (fun character => !delimiter character),
      rest.dropWhile (fun character => !delimiter character))
  | url => ([], url)

/-- The parts of a URL, as far as they are not refused. -/
def splitText (url : List Char) : SplitResult :=
  let behindScheme := (splitScheme url).2
  let behindNetloc := (splitNetloc behindScheme).2
  { scheme := (splitScheme url).1
    netloc := (splitNetloc behindScheme).1
    path := before '?' (before '#' behindNetloc)
    query := after '?' (before '#' behindNetloc)
    fragment := after '#' behindNetloc }

section Library

variable (library : Library)

/-- A host in brackets is an address of a later version, or one of version 6. -/
def checkBracketedHost (host : List Char) : Bool :=
  if host.head? = some 'v' then
    let digits := (host.drop 1).takeWhile (fun character => (hexValue character).isSome)
    let rest := (host.drop 1).dropWhile (fun character => (hexValue character).isSome)
    digits ≠ [] && rest.head? = some '.' && rest.drop 1 ≠ [] && !(rest.drop 1).contains '\n'
  else (library.address host).any Address.version6

/-- A network location has no bracket without its counterpart, and no invalid host in brackets. -/
def checkBrackets (netloc : List Char) : Except UrlError Unit :=
  if netloc.contains '[' ≠ netloc.contains ']' then .error .brackets
  else if netloc.contains '[' && !checkBracketedHost library (before ']' (after '[' netloc)) then
    .error .bracketedHost
  else .ok ()

/-- A network location has no character whose compatibility form separates parts. -/
def checkNetloc (netloc : List Char) : Except UrlError Unit :=
  if netloc.any expanding.contains then .error .compatibility else .ok ()

/-- The parts of a URL. -/
def urlsplit (url : List Char) : Except UrlError SplitResult := do
  let parts := splitText (cleaned url)
  checkBrackets library parts.netloc
  checkNetloc parts.netloc
  return parts

/-- What is behind the last occurrence of a character, or the whole text. -/
def afterLast (mark : Char) (text : List Char) : List Char :=
  (text.reverse.takeWhile (fun character => character ≠ mark)).reverse

/-- The host and the port of a network location, as they are written. -/
def hostinfo (netloc : List Char) : List Char × List Char :=
  let info := afterLast '@' netloc
  if '[' ∈ info then
    (before ']' (after '[' info), after ':' (after ']' (after '[' info)))
  else (before ':' info, after ':' info)

/-- A host in lower case, but for a zone behind a percent sign. -/
def lowerHost (host : List Char) : List Char :=
  library.lower (before '%' host) ++ host.dropWhile (fun character => character ≠ '%')

/-- The host, if there is one. -/
def hostname (parts : SplitResult) : Option (List Char) :=
  let host := (hostinfo parts.netloc).1
  if host = [] then none else some (lowerHost library host)

end Library

/-- The port, if there is one. A number of more than 4300 digits is not read. -/
def port (parts : SplitResult) : Except UrlError (Option Nat) :=
  let text := (hostinfo parts.netloc).2
  if text = [] then .ok none
  else if text.all digit = false then .error .portNotNumber
  else if 4300 < text.length ∨ 65535 < Nat.ofDigitChars 10 text 0 then .error .portRange
  else .ok (some (Nat.ofDigitChars 10 text 0))

/-- Schemes that have a network location. -/
def usesNetloc : List String :=
  ["", "ftp", "http", "gopher", "nntp", "telnet", "imap", "wais", "file", "mms", "https", "shttp",
    "snews", "prospero", "rtsp", "rtsps", "rtspu", "rsync", "svn", "svn+ssh", "sftp", "nfs", "git",
    "git+ssh", "ws", "wss"]

/-- The URL of its parts. -/
def urlunsplit (parts : SplitResult) : List Char :=
  let located :=
    if parts.netloc ≠ [] ∨
        (parts.scheme ≠ [] ∧ (usesNetloc.map String.toList).contains parts.scheme = true) ∨
        parts.path.take 2 = ['/', '/'] then
      let rooted := if parts.path ≠ [] ∧ parts.path.head? ≠ some '/' then '/' :: parts.path
        else parts.path
      '/' :: '/' :: (parts.netloc ++ rooted)
    else parts.path
  let named := if parts.scheme ≠ [] then parts.scheme ++ ':' :: located else located
  let queried := if parts.query ≠ [] then named ++ '?' :: parts.query else named
  if parts.fragment ≠ [] then queried ++ '#' :: parts.fragment else queried

/-! ## Splitting again -/

/-- Parts that are found again in their URL: those of a web address whose fragment is empty. -/
structure Web (parts : SplitResult) : Prop where
  scheme : parts.scheme = "http".toList ∨ parts.scheme = "https".toList
  netloc : ∀ character ∈ parts.netloc, delimiter character = false
  rooted : ∃ rest, parts.path = '/' :: rest
  unqueried : '?' ∉ parts.path
  pathKept : '#' ∉ parts.path
  queryKept : '#' ∉ parts.query
  fragment : parts.fragment = []
  clean : ∀ character ∈ parts.netloc ++ parts.path ++ parts.query,
    character ∉ ['\t', '\r', '\n']

/-- What is written behind the path. -/
def queryText (query : List Char) : List Char := if query ≠ [] then '?' :: query else []

/-- The scheme of a web address is one in lower case. -/
theorem web_scheme (scheme : List Char)
    (isWeb : scheme = "http".toList ∨ scheme = "https".toList) :
    ':' ∉ scheme ∧ scheme.head?.any letter = true ∧ scheme.all schemeCharacter = true ∧
      scheme.map Char.toLower = scheme ∧
      ∀ character ∈ scheme, 32 < character.toNat ∧ character.toNat < 128 := by
  rcases isWeb with rfl | rfl <;>
    exact ⟨by decide, rfl, rfl, rfl, forall_of_all _ _ (by decide)⟩

/-- A path that begins with a slash is put behind the network location as it is. -/
theorem urlunsplit_web (parts : SplitResult) (web : Web parts) :
    urlunsplit parts = parts.scheme ++
      ':' :: '/' :: '/' :: (parts.netloc ++ (parts.path ++ queryText parts.query)) := by
  have named : parts.scheme ≠ [] := by
    rcases web.scheme with same | same <;> rw [same] <;> decide
  have located : parts.netloc ≠ [] ∨
      (parts.scheme ≠ [] ∧ (usesNetloc.map String.toList).contains parts.scheme = true) ∨
        parts.path.take 2 = ['/', '/'] := by
    right
    left
    rcases web.scheme with same | same <;> rw [same] <;> decide
  have rooted : ¬ (parts.path ≠ [] ∧ parts.path.head? ≠ some '/') := by
    obtain ⟨rest, path⟩ := web.rooted
    simp [path]
  simp only [urlunsplit, queryText, if_pos located, if_neg rooted, if_pos named,
    web.fragment, ne_eq, not_true_eq_false, if_false]
  split_ifs <;> simp

/-- A character that is shown is not removed. -/
theorem kept_shown (character : Char) (shown : 32 < character.toNat) :
    character ∉ ['\t', '\r', '\n'] := by
  intro removed
  simp only [List.mem_cons, List.not_mem_nil, or_false] at removed
  rcases removed with rfl | rfl | rfl <;> exact absurd shown (by decide)

/-- The characters of a web address are those of its parts, and marks between them. -/
theorem web_clean (parts : SplitResult) (web : Web parts) :
    ∀ character ∈ urlunsplit parts, character ∉ ['\t', '\r', '\n'] := by
  intro character member
  have kept := web.clean character
  rw [urlunsplit_web parts web, List.mem_append, List.mem_cons, List.mem_cons, List.mem_cons,
    List.mem_append, List.mem_append] at member
  rcases member with scheme | colon | slash | slash | netloc | path | query
  · exact kept_shown character ((web_scheme parts.scheme web.scheme).2.2.2.2 character scheme).1
  · rw [colon]
    decide
  · rw [slash]
    decide
  · rw [slash]
    decide
  · exact kept (List.mem_append_left _ (List.mem_append_left _ netloc))
  · exact kept (List.mem_append_left _ (List.mem_append_right _ path))
  · rw [queryText] at query
    split_ifs at query
    · cases List.mem_cons.mp query with
      | inl mark =>
        rw [mark]
        decide
      | inr inQuery => exact kept (List.mem_append_right _ inQuery)
    · cases query

/-- A web address begins with a letter of its scheme. -/
theorem web_head (parts : SplitResult) (web : Web parts) : ∃ first rest,
    urlunsplit parts = first :: rest ∧ 32 < first.toNat ∧ first.toNat < 128 := by
  have scheme := web_scheme parts.scheme web.scheme
  obtain ⟨first, rest, isScheme⟩ : ∃ first rest, parts.scheme = first :: rest := by
    rcases web.scheme with same | same <;> exact ⟨_, _, same⟩
  have member : first ∈ parts.scheme := by
    rw [isScheme]
    exact List.mem_cons_self
  refine ⟨first,
    rest ++ ':' :: '/' :: '/' :: (parts.netloc ++ (parts.path ++ queryText parts.query)), ?_,
    scheme.2.2.2.2 first member⟩
  rw [urlunsplit_web parts web, isScheme]
  rfl

/-- A web address ends with a character of its path or its query. -/
theorem web_last (parts : SplitResult) (web : Web parts) : ∃ last,
    (urlunsplit parts).getLast? = some last ∧ last ∈ parts.path ++ queryText parts.query := by
  have filled : parts.path ++ queryText parts.query ≠ [] := by
    obtain ⟨rest, path⟩ := web.rooted
    rw [path]
    exact List.cons_ne_nil _ _
  have split : urlunsplit parts = (parts.scheme ++ ':' :: '/' :: '/' :: parts.netloc) ++
      (parts.path ++ queryText parts.query) := by
    rw [urlunsplit_web parts web, List.append_assoc]
    rfl
  refine ⟨_, ?_, List.getLast_mem filled⟩
  rw [split, List.getLast?_append, List.getLast?_eq_some_getLast filled]
  rfl

/-- No character of a web address is removed. -/
theorem cleaned_web (parts : SplitResult) (web : Web parts) :
    cleaned (urlunsplit parts) = urlunsplit parts := by
  obtain ⟨first, rest, begins, shown, -⟩ := web_head parts web
  have undropped : (urlunsplit parts).dropWhile (fun character => character.toNat ≤ 32) =
      urlunsplit parts := by
    rw [begins, List.dropWhile_cons_of_neg]
    simpa using shown
  rw [cleaned, undropped, List.filter_eq_self]
  intro character member
  exact decide_eq_true (web_clean parts web character member)

/-- The scheme of a web address is found in front of its first colon. -/
theorem splitScheme_web (scheme rest : List Char)
    (isWeb : scheme = "http".toList ∨ scheme = "https".toList) :
    splitScheme (scheme ++ ':' :: rest) = (scheme, rest) := by
  obtain ⟨uncoloned, begins, allowed, lowered, -⟩ := web_scheme scheme isWeb
  rw [splitScheme]
  simp only [before_append ':' scheme rest uncoloned, after_append ':' scheme rest uncoloned,
    begins, allowed, lowered, List.mem_append, List.mem_cons, true_or, or_true, and_self, if_true]

/-- The network location of a web address ends in front of the path. -/
theorem splitNetloc_web (netloc path : List Char)
    (kept : ∀ character ∈ netloc, delimiter character = false) :
    splitNetloc ('/' :: '/' :: (netloc ++ '/' :: path)) = (netloc, '/' :: path) := by
  have undelimited : ∀ character ∈ netloc, (!delimiter character) = true := by
    intro character member
    rw [kept character member]
    rfl
  rw [splitNetloc, List.takeWhile_append_of_pos undelimited,
    List.dropWhile_append_of_pos undelimited]
  simp [delimiter]

/-- The parts of a web address are found again. -/
theorem splitText_web (parts : SplitResult) (web : Web parts) :
    splitText (urlunsplit parts) = parts := by
  obtain ⟨rest, path⟩ := web.rooted
  have behind : '/' :: (rest ++ queryText parts.query) = parts.path ++ queryText parts.query := by
    rw [path]
    rfl
  have unfragmented : '#' ∉ parts.path ++ queryText parts.query := by
    rw [List.mem_append, not_or, queryText]
    refine ⟨web.pathKept, ?_⟩
    split_ifs
    · simp [web.queryKept]
    · simp
  have text := urlunsplit_web parts web
  rw [← behind] at text
  simp only [splitText, text, splitScheme_web parts.scheme _ web.scheme,
    splitNetloc_web parts.netloc _ web.netloc]
  rw [behind, before_absent '#' _ unfragmented, after_absent '#' _ unfragmented]
  have queried : before '?' (parts.path ++ queryText parts.query) = parts.path ∧
      after '?' (parts.path ++ queryText parts.query) = parts.query := by
    rw [queryText]
    split_ifs with filled
    · exact ⟨before_append '?' _ _ web.unqueried, after_append '?' _ _ web.unqueried⟩
    · rw [List.append_nil, not_not.mp filled]
      exact ⟨before_absent '?' _ web.unqueried, after_absent '?' _ web.unqueried⟩
  rw [queried.1, queried.2, ← web.fragment]

/-- The parts of a URL that is not refused. -/
theorem urlsplit_ok (library : Library) (url : List Char) (parts : SplitResult)
    (splits : urlsplit library url = .ok parts) : parts = splitText (cleaned url) ∧
      checkBrackets library parts.netloc = .ok () ∧ checkNetloc parts.netloc = .ok () := by
  simp only [urlsplit] at splits
  cases brackets : checkBrackets library (splitText (cleaned url)).netloc with
  | error _ =>
    rw [brackets] at splits
    cases splits
  | ok _ =>
    rw [brackets] at splits
    cases characters : checkNetloc (splitText (cleaned url)).netloc with
    | error _ =>
      rw [characters] at splits
      cases splits
    | ok _ =>
      rw [characters] at splits
      have same := Except.ok.inj splits
      exact ⟨same.symm, same ▸ brackets, same ▸ characters⟩

/-- A web address is split into its parts, unless its network location is refused. -/
theorem urlsplit_web (library : Library) (parts : SplitResult) (web : Web parts) :
    urlsplit library (urlunsplit parts) = (do
      checkBrackets library parts.netloc
      checkNetloc parts.netloc
      return parts) := by
  rw [urlsplit, cleaned_web parts web, splitText_web parts web]

end Url

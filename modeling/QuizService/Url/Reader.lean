import QuizService.Url.Basic

namespace QuizService.Url

def isSlash (c : Char) : Bool :=
  c = '/' || c = '\\'

def isSeparator (isWeb : Bool) (c : Char) : Bool :=
  c = '/' || (isWeb && c = '\\')

def isSchemeChar (c : Char) : Bool :=
  c.isAlphanum || c = '+' || c = '-' || c = '.'

def scheme? (cs : List Char) : Option (String × List Char) :=
  match cs, Split.atFirst (fun c => !isSchemeChar c) cs with
  | first :: _, (name, ':' :: rest) => if first.isAlpha then some (lowered name, rest) else none
  | _, _ => none

def ending (cs : List Char) : List Char × Option (List Char) × Option (List Char) :=
  let (before, fragment) := Split.atFirst (· = '#') cs
  let (path, query) := Split.atFirst (· = '?') before
  (path, if query.isEmpty then none else some (query.drop 1),
    if fragment.isEmpty then none else some (fragment.drop 1))

def rooted (isWeb : Bool) (path : List Char) : List (List Char) :=
  let body :=
    match path with
    | c :: rest => if isSeparator isWeb c then rest else path
    | [] => []
  resolve [] (Split.pieces (isSeparator isWeb) body)

def hostAndRest (inBrackets : Bool) : List Char → List Char × List Char
  | [] => ([], [])
  | c :: cs =>
    if c = ':' ∧ inBrackets = false then ([], c :: cs)
    else
      let (host, rest) := hostAndRest (c = '[' || (inBrackets && c ≠ ']')) cs
      (c :: host, rest)

def channel? (scheme : String) : List Char → Option (Option Nat × List Char)
  | [] => some (none, [])
  | _ :: cs =>
    let (digits, rest) := Split.atFirst (fun c => !c.isDigit) cs
    let n := Decimal.value digits
    if (rest.isEmpty || rest.head? = some '\\') && decide (n < 65536) then
      some (if digits.isEmpty ∨ impliedChannel? scheme = some n then none else some n, rest)
    else none

def userAndPassword (cs : List Char) : List Char × List Char :=
  let (user, password) := Split.atFirst (· = ':') cs
  (user, password.drop 1)

def ofAuthority? (scheme : String) (cs : List Char) : Option Url := do
  let isWeb := isWebScheme scheme
  let (authority, rest) :=
    Split.atFirst (fun c => isSeparator isWeb c || c = '?' || c = '#') cs
  let (given, place) := (Split.atLast? (· = '@') authority).getD ([], authority)
  let (user, password) := userAndPassword given
  let (hostPart, afterHost) := hostAndRest false place
  let mayBeEmpty := !isWeb && place.length = authority.length && afterHost.isEmpty
  if hostPart.isEmpty && !mayBeEmpty then none
  else
    let host ← if isWeb then Host.ofDomain? hostPart else Host.ofName? hostPart
    let (channel, extra) ← channel? scheme afterHost
    let (path, query, fragment) := ending (extra ++ rest)
    let segments := if !isWeb && path.isEmpty then [] else rooted isWeb path
    some ⟨scheme, user, password, some host, channel, .segments segments, query, fragment⟩

def drivePath? : List (List Char) → Option (List (List Char))
  | s :: rest => if isDrive s then some ((s.take 1 ++ [':']) :: rest) else none
  | [] => none

def fileHost? (cs : List Char) : Option Host := do
  match ← Host.ofDomain? cs with
  | .named name => some (.named (if name = "localhost".toList then [] else name))
  | other => some other

def ofFile? (cs : List Char) : Option Url := do
  let (place, rest) :=
    match cs with
    | a :: b :: cs =>
      if isSlash a && isSlash b then
        let (place, rest) := Split.atFirst (fun c => isSlash c || c = '?' || c = '#') cs
        if isDrive place then ([], '/' :: place ++ rest) else (place, rest)
      else ([], a :: b :: cs)
    | _ => ([], cs)
  let host ← if place.isEmpty then some (.named []) else fileHost? place
  let (path, query, fragment) := ending rest
  let segments := rooted true path
  let (host, segments) :=
    match drivePath? segments with
    | some drive => (.named [], drive)
    | none => (host, segments)
  some ⟨"file", [], [], some host, none, .segments segments, query, fragment⟩

def ofOther? (scheme : String) (cs : List Char) : Option Url :=
  match cs with
  | '/' :: '/' :: rest => ofAuthority? scheme rest
  | _ =>
    let (path, query, fragment) := ending cs
    let path := if cs.head? = some '/' then .segments (rooted false path) else .plain path
    some ⟨scheme, [], [], none, none, path, query, fragment⟩

def ofRelative? (base : Url) (cs : List Char) : Option Url :=
  let slashes := cs.takeWhile isSlash
  let (path, query, fragment) := ending cs
  if 2 ≤ slashes.length then
    ofAuthority? base.scheme
      (if "//".toList.isPrefixOf cs then cs.drop 2 else cs.drop slashes.length)
  else if slashes.length = 1 then
    some { base with path := .segments (rooted true path), query := query, fragment := fragment }
  else if path.isEmpty then
    some { base with query := if query.isSome then query else base.query, fragment := fragment }
  else
    let before :=
      match base.path with
      | .segments ss => ss.dropLast
      | .plain _ => []
    let segments := resolve before.reverse (Split.pieces isSlash path)
    some { base with path := .segments segments, query := query, fragment := fragment }

def cleaned (cs : List Char) : List Char :=
  let isEdge (c : Char) : Bool := c.toNat ≤ 32
  (((cs.dropWhile isEdge).reverse.dropWhile isEdge).reverse).filter fun c =>
    c ∉ ['\t', '\n', '\r']

def ofText? (base : Option Url) (cs : List Char) : Option Url :=
  let cs := cleaned cs
  match scheme? cs with
  | some (scheme, rest) =>
    let slashes := rest.takeWhile isSlash
    if scheme = "file" then ofFile? rest
    else if isWebScheme scheme then
      match base with
      | some b =>
        if slashes.length < 2 ∧ b.scheme = scheme then ofRelative? b rest
        else ofAuthority? scheme (rest.drop slashes.length)
      | none => ofAuthority? scheme (rest.drop slashes.length)
    else ofOther? scheme rest
  | none => base.bind fun b => ofRelative? b cs

end QuizService.Url

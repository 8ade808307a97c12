import QuizService.Toml.Scalar

namespace QuizService.Toml

def depthLimit : Nat := 80

def isBareKeyChar (c : Char) : Bool :=
  c.isAlphanum || c = '_' || c = '-'

def simpleKey? (cs : List Char) : Option (String × List Char) := do
  let cs := skipSpaces cs
  let (name, rest) ←
    match cs with
    | '"' :: _ | '\'' :: _ => Text.oneLine? cs
    | _ =>
      let name := cs.takeWhile isBareKeyChar
      if name.isEmpty then none else some (name, cs.dropWhile isBareKeyChar)
  some (String.ofList name, skipSpaces rest)

def laterKeys? : Nat → List Char → Option (List String × List Char)
  | 0, _ => none
  | fuel + 1, '.' :: rest => do
    let (name, rest) ← simpleKey? rest
    let (names, rest) ← laterKeys? fuel rest
    some (name :: names, rest)
  | _ + 1, cs => some ([], cs)

def key? (cs : List Char) : Option ((List String × String) × List Char) := do
  let (first, rest) ← simpleKey? cs
  let (later, rest) ← laterKeys? (cs.length + 1) rest
  if later.length + 1 < depthLimit then some (Document.splitKey first later, rest) else none

def skipComment : List Char → List Char
  | '#' :: rest => rest.dropWhile isPlain
  | cs => cs

def skipFiller? : Nat → List Char → Option (List Char)
  | 0, _ => none
  | fuel + 1, cs =>
    match skipSpaces cs with
    | '#' :: rest => do skipFiller? fuel (← Line.ending? (rest.dropWhile isPlain))
    | c :: rest =>
      match Line.ending? (c :: rest) with
      | some rest => skipFiller? fuel rest
      | none => if c = '\r' then none else some (c :: rest)
    | [] => some []

def equals? (cs : List Char) : Option (List Char) :=
  match cs with
  | '=' :: rest => some (skipSpaces rest)
  | _ => none

def scalar? (cs : List Char) : Option (Value × List Char) :=
  match cs with
  | '"' :: _ | '\'' :: _ => (Text.read? cs).map fun p => (.string (String.ofList p.1), p.2)
  | 't' :: 'r' :: 'u' :: 'e' :: rest => some (.boolean true, rest)
  | 'f' :: 'a' :: 'l' :: 's' :: 'e' :: rest => some (.boolean false, rest)
  | _ =>
    match Time.read? cs with
    | some rest => some (.datetime, rest)
    | none => (Number.float? cs).or (Number.integer? cs)

mutual

def value? : Nat → Nat → List Char → Option (Value × List Char)
  | 0, _, _ => none
  | fuel + 1, depth, cs =>
    match cs with
    | '[' :: rest =>
      if depth + 1 < depthLimit then
        (items? fuel (depth + 1) rest).map fun p => (.array p.1, p.2)
      else none
    | '{' :: rest =>
      if depth + 1 < depthLimit then
        match skipSpaces rest with
        | '}' :: after => some (.table [], after)
        | _ => do
          let (nodes, after) ← pairs? fuel (depth + 1) [] rest
          some (.table (Node.entryValues nodes), after)
      else none
    | _ => scalar? cs

def items? : Nat → Nat → List Char → Option (List Value × List Char)
  | 0, _, _ => none
  | fuel + 1, depth, cs => do
    match ← skipFiller? (fuel + 1) cs with
    | ']' :: after => some ([], after)
    | rest =>
      let (v, rest) ← value? fuel depth rest
      match ← skipFiller? (fuel + 1) rest with
      | ']' :: after => some ([v], after)
      | ',' :: rest =>
        let (vs, after) ← items? fuel depth rest
        some (v :: vs, after)
      | _ => none

def pairs? : Nat → Nat → Nodes → List Char → Option (Nodes × List Char)
  | 0, _, _, _ => none
  | fuel + 1, depth, nodes, cs => do
    let ((path, key), rest) ← key? cs
    let (v, rest) ← value? fuel depth (← equals? rest)
    let nodes ← nodes.add? true path key v
    match skipSpaces rest with
    | '}' :: after => some (nodes, after)
    | ',' :: rest => pairs? fuel depth nodes rest
    | _ => none

end

def endOfLine? (cs : List Char) : Option (List Char) :=
  match skipComment (skipSpaces cs) with
  | [] => some []
  | rest => Line.ending? rest

def header? (d : Document) (cs : List Char) : Option (Document × List Char) :=
  match cs with
  | '[' :: '[' :: rest => do
    let ((path, key), rest) ← key? rest
    match rest with
    | ']' :: ']' :: rest => some (← d.appendTable? path key, ← endOfLine? rest)
    | _ => none
  | '[' :: rest => do
    let ((path, key), rest) ← key? rest
    match rest with
    | ']' :: rest => some (← d.openTable? path key, ← endOfLine? rest)
    | _ => none
  | _ => none

def assignment? (d : Document) (cs : List Char) : Option (Document × List Char) := do
  let ((path, key), rest) ← key? cs
  let (v, rest) ← value? (2 * cs.length + 2) 0 (← equals? rest)
  some (← d.assign? path key v, ← endOfLine? rest)

def lines? : Nat → Document → List Char → Option Document
  | 0, _, _ => none
  | fuel + 1, d, cs =>
    match skipSpaces cs with
    | [] => some d
    | '#' :: rest => do lines? fuel d (← endOfLine? ('#' :: rest))
    | '[' :: rest => do
      let (d, rest) ← header? d ('[' :: rest)
      lines? fuel d rest
    | c :: rest =>
      if c = '\n' ∨ c = '\r' then do lines? fuel d (← Line.ending? (c :: rest))
      else do
        let (d, rest) ← assignment? d (c :: rest)
        lines? fuel d rest

def withoutMark : List Char → List Char
  | [] => []
  | c :: rest => if c.toNat = 0xFEFF then rest else c :: rest

def ofText? (s : String) : Option (Entries Value) :=
  (lines? (s.length + 1) .empty (withoutMark s.toList)).map Document.entries

end QuizService.Toml

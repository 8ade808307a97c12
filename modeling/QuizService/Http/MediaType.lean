namespace QuizService.Http

structure MediaType where
  top : String
  subtype : List Char
  parameters : List (String × List Char)

namespace MediaType

def isTokenChar (c : Char) : Bool :=
  c.isAlphanum || c ∈ ['!', '#', '$', '%', '&', '\'', '*', '+', '-', '.', '^', '_', '`', '|', '~']

def lowered (cs : List Char) : String :=
  String.ofList (cs.map Char.toLower)

inductive Place where
  | beforeName
  | inName
  | beforeValue
  | inValue
  | openedQuote
  | inQuote
  | afterQuote

namespace Place

def isQuotable (c : Char) : Bool :=
  31 < c.toNat && c.toNat < 127

def step (c : Char) : Place → Option Place
  | .beforeName =>
    if c = ' ' then some .beforeName else if isTokenChar c then some .inName else none
  | .inName =>
    if isTokenChar c then some .inName else if c = '=' then some .beforeValue else none
  | .beforeValue =>
    if c = '"' then some .openedQuote else if isTokenChar c then some .inValue else none
  | .inValue =>
    if isTokenChar c then some .inValue else if c = ';' then some .beforeName else none
  | .openedQuote => if isQuotable c then some .inQuote else none
  | .inQuote =>
    if c = '"' then some .afterQuote else if isQuotable c then some .inQuote else none
  | .afterQuote =>
    if c = ';' then some .beforeName else if c = ' ' then some .afterQuote else none

def isEnd : Place → Bool
  | .beforeName => true
  | .beforeValue => true
  | .inValue => true
  | .afterQuote => true
  | _ => false

def isAfterValue : Place → Bool
  | .beforeValue => true
  | .inValue => true
  | .afterQuote => true
  | _ => false

end Place

def parameters? (place : Place) (name value : List Char) :
    List Char → Option (List (String × List Char))
  | [] =>
    if place.isEnd then some (if place.isAfterValue then [(lowered name, value)] else []) else none
  | c :: cs => do
    let next ← place.step c
    match next with
    | .beforeName =>
      let rest ← parameters? next [] [] cs
      some (if place.isAfterValue then (lowered name, value) :: rest else rest)
    | .inName => parameters? next (name ++ [c]) value cs
    | .inValue => parameters? next name (value ++ [c]) cs
    | .inQuote => parameters? next name (value ++ [c]) cs
    | _ => parameters? next name value cs

def ofText? (cs : List Char) : Option MediaType :=
  let top := cs.takeWhile isTokenChar
  match cs.dropWhile isTokenChar with
  | '/' :: rest =>
    let subtype := rest.takeWhile isTokenChar
    let whole (parameters : List (String × List Char)) : Option MediaType :=
      if top.isEmpty then none else some ⟨lowered top, subtype, parameters⟩
    match rest.dropWhile isTokenChar with
    | [] => whole []
    | ';' :: after =>
      if subtype.isEmpty then none else (parameters? .beforeName [] [] after).bind whole
    | _ => none
  | _ => none

def suffixed (subtype : List Char) : List Char × Option (List Char) :=
  match subtype with
  | [] => ([], none)
  | c :: cs =>
    let suffix := (cs.reverse.takeWhile fun d => d ≠ '+').reverse
    if suffix.length = cs.length then (subtype, none)
    else (c :: cs.take (cs.length - suffix.length - 1), some suffix)

def isJson (m : MediaType) : Bool :=
  let (name, suffix) := suffixed m.subtype
  m.top = "application" && (lowered name = "json" || suffix.map lowered = some "json")

def parameter? (m : MediaType) (name : String) : Option (List Char) :=
  (m.parameters.find? fun p => p.1 = name).map Prod.snd

end MediaType

end QuizService.Http

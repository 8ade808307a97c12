import QuizService.Domain.Normal
import QuizService.Domain.Punycode
import QuizService.Domain.Table.Direction
import QuizService.Domain.Table.Joining
import QuizService.Domain.Table.Mapped
import QuizService.Domain.Table.Valid

namespace QuizService.Domain

inductive Direction where
  | leftToRight
  | rightToLeft
  | arabicNumber
  | europeanNumber
  | neutral
  | mark
deriving DecidableEq

namespace Direction

def of (c : Char) : Direction :=
  if rightLetters.contains c || arabicLetters.contains c then .rightToLeft
  else if arabicNumbers.contains c then .arabicNumber
  else if europeanNumbers.contains c then .europeanNumber
  else if nonspacingMarks.contains c then .mark
  else if [europeanSeparators, europeanTerminators, commonSeparators, boundaryNeutrals,
      otherNeutrals].any fun s => s.contains c then .neutral
  else .leftToRight

def turns (label : List Char) : Bool :=
  label.any fun c => of c = .rightToLeft || of c = .arabicNumber

/-- Whether a label keeps its order: it starts with a letter, has no letter of the other direction,
and ends with a letter or number of its own; numbers of two kinds do not mix. -/
def isOrdered (label : List Char) : Bool :=
  let ds := label.map of
  let last := (ds.reverse.dropWhile fun d => d = .mark).head?
  match ds.head? with
  | none => true
  | some .rightToLeft =>
    ds.all (· ≠ .leftToRight) &&
      (last = some .rightToLeft || last = some .europeanNumber || last = some .arabicNumber) &&
      !(ds.contains .europeanNumber && ds.contains .arabicNumber)
  | some .leftToRight =>
    ds.all (fun d => d ≠ .rightToLeft && d ≠ .arabicNumber) &&
      (last = some .leftToRight || last = some .europeanNumber)
  | some _ => false

end Direction

def joiner : Char := '\u200d'

def nonJoiner : Char := '\u200c'

def isVirama (c : Char) : Bool :=
  combiningClass c = 9

def joinsNext (c : Char) : Bool :=
  joinsBoth.contains c || joinsLeft.contains c

def joinsPrevious (c : Char) : Bool :=
  joinsBoth.contains c || joinsRight.contains c

def areJoinersInPlace (before : List Char) : List Char → Bool
  | [] => true
  | c :: rest =>
    let afterVirama := before.head?.any isVirama
    let betweenLetters :=
      ((before.dropWhile transparent.contains).head?.any joinsNext) &&
        ((rest.dropWhile transparent.contains).head?.any joinsPrevious)
    (if c = joiner then afterVirama
      else if c = nonJoiner then afterVirama || betweenLetters
      else true) &&
      areJoinersInPlace (c :: before) rest

def isLabel (cs : List Char) : Bool :=
  cs.all valid.contains && !cs.contains '.' && !cs.head?.any marks.contains &&
    areJoinersInPlace [] cs && cs.take 4 ≠ "xn--".toList

def shown? (label : List Char) : Option (List Char) :=
  match label with
  | 'x' :: 'n' :: '-' :: '-' :: rest => do
    let cs ← Punycode.decode? rest
    if cs.all Punycode.isBasic then none
    else if isLabel cs ∧ normal cs = cs then some cs
    else none
  | _ => if isLabel label then some label else none

def sent (cs : List Char) : List Char :=
  if cs.all Punycode.isBasic then cs else "xn--".toList ++ Punycode.encode cs

def mapChar? (c : Char) : Option (List Char) :=
  if valid.contains c then some [c]
  else if ignored.contains c then some []
  else mapped.image? c

def isDenied (c : Char) : Bool :=
  c.toNat ≤ 32 || c.toNat = 127 ||
    c ∈ ['%', '#', '/', ':', '<', '>', '?', '@', '[', '\\', ']', '^', '|']

def joinLabels : List (List Char) → List Char
  | [] => []
  | [label] => label
  | label :: rest => label ++ '.' :: joinLabels rest

def toAscii? (domain : List Char) : Option (List Char) := do
  let chars ← domain.mapM mapChar?
  let labels ← (Split.pieces (· = '.') (normal chars.flatten)).mapM shown?
  let isOrdered := labels.any Direction.turns → labels.all Direction.isOrdered
  let ascii := joinLabels (labels.map sent)
  if isOrdered ∧ ascii.all (fun c => !isDenied c) then some ascii else none

end QuizService.Domain

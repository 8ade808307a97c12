import QuizService.Text.Basic

namespace QuizService.Http.Target

structure Marks where
  colons : Nat
  isOpened : Bool
  isClosed : Bool
  hasPercent : Bool

namespace Marks

def start : Marks := ⟨0, false, false, false⟩

def colonLimit : Nat := 8

def isPlain (c : Char) : Bool :=
  c.isAlphanum ||
    c ∈ ['!', '$', '&', '\'', '(', ')', '*', '+', ',', '-', '.', ';', '=', '_', '~']

def step (m : Marks) (c : Char) : Option Marks :=
  match c with
  | ':' => if m.colons < colonLimit then some { m with colons := m.colons + 1 } else none
  | '[' => if m.hasPercent || m.isOpened then none else some { m with isOpened := true }
  | ']' =>
    if m.isOpened && !m.isClosed then some ⟨0, true, true, false⟩ else none
  | '@' => some { m with colons := 0, hasPercent := false }
  | '%' => some { m with hasPercent := true }
  | _ => if isPlain c then some m else none

def isEnd (m : Marks) : Bool :=
  m.isOpened = m.isClosed && decide (m.colons ≤ 1) && !m.hasPercent

end Marks

def isAuthority (cs : List Char) : Bool :=
  match cs.foldlM Marks.step Marks.start with
  | some m => m.isEnd && cs.getLast? ≠ some '@'
  | none => false

def isAuthorityEnd (c : Char) : Bool :=
  c = '/' || c = '?' || c = '#'

def lengthLimit : Nat := 65534

def schemeLimit : Nat := 64

def isSchemeChar (c : Char) : Bool :=
  c.isAlphanum || c = '+' || c = '-' || c = '.'

def isAddress (text : List Char) : Bool :=
  decide (text.length ≤ lengthLimit) &&
    match Split.atFirst (fun c => !isSchemeChar c) text with
    | (scheme, ':' :: '/' :: '/' :: rest) =>
      let (authority, _) := Split.atFirst isAuthorityEnd rest
      decide (scheme.length ≤ schemeLimit) && !authority.isEmpty && isAuthority authority
    | _ => isAuthority text

end QuizService.Http.Target

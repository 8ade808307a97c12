import QuizService.Charset.Decode
import QuizService.Http.Framing
import QuizService.Http.Target
import QuizService.Url.Reader

namespace QuizService.Http

structure Delivery where
  head : ReplyHead
  body : Option (List Char)

namespace Delivery

def octets (s : String) : List Char :=
  (Utf8.encode s).map fun b => Char.ofNat b.toNat

def bytes (octets : List Char) : List UInt8 :=
  octets.map fun c => UInt8.ofNat c.toNat

def isBodiless (status : Nat) : Bool :=
  status ∈ [101, 204, 304]

def read? : Nat → List Char → Option Delivery
  | 0, _ => none
  | fuel + 1, cs => do
    let (h, rest) ← ReplyHead.read? cs
    if isBodiless h.status then some ⟨h, some []⟩
    else if h.status < 200 then read? fuel rest
    else some ⟨h, (← Framing.ofHead? h).body? rest⟩

def ofOctets? (cs : List Char) : Option Delivery :=
  read? (cs.length + 1) cs

def isRedirect (status : Nat) : Bool :=
  status ∈ [301, 302, 303, 307, 308]

def movedTo? (d : Delivery) (base : Url) : Option Url := do
  if isRedirect d.head.status then
    let value ← (d.head.values "location").head?
    let place ← Url.ofText? (some base) (← Utf8.decode? (bytes value))
    if Target.isAddress place.text then some place else none
  else none

def document? (d : Delivery) : Option String :=
  d.body.map fun cs => String.ofList (Utf8.lossy (bytes cs))

def charset (d : Delivery) : Charset :=
  let named := do
    let mediaType ← MediaType.ofText? (← (d.head.values "content-type").head?)
    Charset.ofLabel? (← mediaType.parameter? "charset")
  named.getD .utf8

def text (d : Delivery) : String :=
  d.charset.decode (bytes (d.body.getD []))

end Delivery

end QuizService.Http

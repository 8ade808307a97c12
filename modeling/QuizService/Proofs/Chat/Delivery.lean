import QuizService.Chat.Client
import QuizService.Proofs.Decimal.Shortest
import QuizService.Proofs.Http.Form

namespace QuizService

theorem Decimal.digits_status {n : ℕ} (hlow : 100 ≤ n) (hhigh : n < 1000) :
    ∃ a b c, digits n = [a, b, c] := by
  apply List.length_eq_three.mp
  have hlast : (digits (n / 10 / 10)).length = 1 := by
    rw [digits, if_pos (by omega), List.length_singleton]
  rw [length_digits_of_le (by omega), length_digits_of_le (by omega), hlast]

namespace Http

theorem digitChar_spec : ∀ d < 10, let c := Decimal.digitChar d
    c.isDigit = true ∧ isFieldText c = true ∧ isFieldBlank c = false ∧ c ≠ ',' := by
  decide

theorem spec_of_mem_digits {n : ℕ} {c : Char} (h : c ∈ Decimal.digits n) :
    c.isDigit = true ∧ isFieldText c = true ∧ isFieldBlank c = false ∧ c ≠ ',' := by
  obtain ⟨d, hd, rfl⟩ := Decimal.exists_of_mem_digits h
  exact digitChar_spec d hd

structure IsFieldValue (value : List Char) : Prop where
  text : ∀ c ∈ value, isFieldText c = true
  trimmed : trimField value = value

theorem trimField_of_not_blank {value : List Char} (h : ∀ c ∈ value, isFieldBlank c = false) :
    trimField value = value := by
  have hdrop (cs : List Char) (hcs : ∀ c ∈ cs, isFieldBlank c = false) :
      cs.dropWhile isFieldBlank = cs := by
    cases cs with
    | nil => rfl
    | cons c cs => simp [hcs c (List.mem_cons_self ..)]
  rw [trimField, hdrop value h, hdrop, List.reverse_reverse]
  simpa using h

theorem isFieldValue_digits (n : ℕ) : IsFieldValue (Decimal.digits n) where
  text _ hc := (spec_of_mem_digits hc).2.1
  trimmed := trimField_of_not_blank fun _ hc => (spec_of_mem_digits hc).2.2.1

theorem ending?_name {name : List Char} (hname : name ≠ [])
    (htoken : ∀ c ∈ name, MediaType.isTokenChar c = true) (rest : List Char) :
    Line.ending? (name ++ rest) = none := by
  obtain ⟨c, cs, rfl⟩ := List.exists_cons_of_ne_nil hname
  have hc := htoken c (List.mem_cons_self ..)
  unfold Line.ending?
  split
  · rename_i h
    rw [(List.cons.inj h).1] at hc
    exact absurd hc (by decide)
  · rename_i h
    rw [(List.cons.inj h).1] at hc
    exact absurd hc (by decide)
  · rfl

theorem fields?_cons {name value : List Char} (hname : name ≠ [])
    (htoken : ∀ c ∈ name, MediaType.isTokenChar c = true) (hvalue : IsFieldValue value)
    (room : ℕ) (rest : List Char) :
    ReplyHead.fields? (room + 1) (name ++ ':' :: ' ' :: (value ++ '\r' :: '\n' :: rest)) =
      (ReplyHead.fields? room rest).map fun p =>
        ((MediaType.lowered name, value) :: p.1, p.2) := by
  -- The name ends at the colon, the value at the end of the line.
  have hcolon : MediaType.isTokenChar ':' = false := by decide
  have hreturn : isFieldText '\r' = false := by decide
  have hspace : isFieldText ' ' = true := by decide
  have hblank : isFieldBlank ' ' = true := by decide
  have htrim : trimField (' ' :: value) = value := by
    rw [trimField, List.dropWhile_cons_of_pos hblank]
    exact hvalue.trimmed
  rw [ReplyHead.fields?, ending?_name hname htoken]
  simp only [List.takeWhile_append_of_pos htoken, List.dropWhile_append_of_pos htoken, hcolon,
    List.takeWhile_cons, List.dropWhile_cons, Bool.false_eq_true, if_false, if_true, hspace,
    List.takeWhile_append_of_pos hvalue.text, List.dropWhile_append_of_pos hvalue.text, hreturn,
    List.append_nil, Line.ending?, htrim, Option.bind_eq_bind, Option.bind_some]
  rw [if_neg (by simpa using hname)]
  cases ReplyHead.fields? room rest <;> rfl

theorem status?_digits {n : ℕ} (hlow : 100 ≤ n) (hhigh : n < 1000) (rest : List Char) :
    ReplyHead.status? (Decimal.digits n ++ rest) = some (n, rest) := by
  have hdigit (c : Char) (hc : c ∈ Decimal.digits n) : c.isDigit = true :=
    (spec_of_mem_digits hc).1
  have hvalue := Decimal.value_digits n
  obtain ⟨a, b, c, hn⟩ := Decimal.digits_status hlow hhigh
  rw [hn] at hdigit hvalue ⊢
  dsimp only [List.cons_append, List.nil_append, ReplyHead.status?]
  rw [hvalue, if_pos ⟨List.all_eq_true.mpr hdigit, hlow⟩]

theorem ofLengths?_digits {n : ℕ} (h : n ≤ Framing.lengthLimit) :
    Framing.ofLengths? [Decimal.digits n] = some (.sized n) := by
  have hpieces : Split.pieces (· = ',') (Decimal.digits n) = [Decimal.digits n] :=
    Form.pieces_of_not_mem fun c hc => by simpa using (spec_of_mem_digits hc).2.2.2
  have hnumber : Framing.number? (Decimal.digits n) = some n := by
    have hne : (Decimal.digits n).isEmpty = false := by
      simpa [List.length_pos_iff] using Decimal.length_digits_pos n
    have hall : (Decimal.digits n).all Char.isDigit = true :=
      List.all_eq_true.mpr fun c hc => (spec_of_mem_digits hc).1
    rw [Framing.number?, hne, hall, Decimal.value_digits]
    rfl
  simp [Framing.ofLengths?, Framing.parts, hpieces, (isFieldValue_digits n).trimmed, hnumber, h]

theorem octet_byte : ∀ n < 256, UInt8.ofNat (Char.ofNat n).toNat = UInt8.ofNat n := by
  decide +kernel

theorem bytes_octets (s : String) : Delivery.bytes (Delivery.octets s) = Utf8.encode s := by
  have hbyte (b : UInt8) : UInt8.ofNat (Char.ofNat b.toNat).toNat = b := by
    rw [octet_byte b.toNat b.toNat_lt, UInt8.ofNat_toNat]
  rw [Delivery.bytes, Delivery.octets, List.map_map]
  exact List.map_id'' hbyte _

end Http

namespace Charset

def withoutMark : List Char → List Char
  | '\uFEFF' :: cs => cs
  | cs => cs

theorem decode_chars (cs : List Char) :
    utf8.decode (cs.flatMap String.utf8EncodeChar) = String.ofList (withoutMark cs) := by
  have hread : readBare utf8 (cs.flatMap String.utf8EncodeChar) = cs := Utf8.lossy_chars cs
  cases cs with
  | nil => exact congrArg String.ofList hread
  | cons c cs =>
    obtain ⟨b, bs, hbytes, hstep⟩ := Utf8.step_char c (cs.flatMap String.utf8EncodeChar)
    have hmark (rest : List UInt8) :
        Utf8.step 0xEF (0xBB :: 0xBF :: rest) = (some '\uFEFF', rest) :=
      rfl
    rw [List.flatMap_cons, hbytes, List.cons_append] at hread ⊢
    unfold decode
    -- The bytes of the first mark are those of one character; no character starts with 0xFE or
    -- 0xFF, so the marks of the wide charsets are never met.
    split
    · rename_i rest h
      obtain ⟨rfl, htail⟩ := List.cons.inj h
      rw [htail, hmark] at hstep
      obtain ⟨hc, hrest⟩ := Prod.mk.inj hstep
      obtain rfl := Option.some.inj hc
      rw [hrest]
      exact congrArg String.ofList (Utf8.lossy_chars cs)
    · rename_i h
      obtain ⟨rfl, -⟩ := List.cons.inj h
      cases hstep
    · rename_i h
      obtain ⟨rfl, -⟩ := List.cons.inj h
      cases hstep
    · rename_i hplain _ _
      have hc : c ≠ '\uFEFF' := by
        rintro rfl
        have hbytes' : String.utf8EncodeChar '\uFEFF' = [0xEF, 0xBB, 0xBF] := by decide
        obtain ⟨rfl, rfl⟩ := List.cons.inj (hbytes.symm.trans hbytes')
        exact hplain _ rfl
      rw [hread]
      unfold withoutMark
      split
      · rename_i h
        exact absurd (List.cons.inj h).1 hc
      · rfl

end Charset

namespace ChatReply

open Http

variable (r : ChatReply)

def head : ReplyHead :=
  { isFirstVersion := false
    status := r.status
    fields := [("content-type", "application/json".toList),
      ("content-length", Decimal.digits (Delivery.octets r.body).length)] }

theorem octets_eq :
    r.octets = "HTTP/1.1 ".toList ++ (Decimal.digits r.status ++ ' ' :: '\r' :: '\n' ::
      ("content-type".toList ++ ':' :: ' ' :: ("application/json".toList ++ '\r' :: '\n' ::
        ("content-length".toList ++ ':' :: ' ' ::
          (Decimal.digits (Delivery.octets r.body).length ++ '\r' :: '\n' ::
            '\r' :: '\n' :: Delivery.octets r.body))))) := by
  have hfields (rest : List Char) :
      " \r\ncontent-type: application/json\r\ncontent-length: ".toList ++ rest =
        ' ' :: '\r' :: '\n' :: ("content-type".toList ++ ':' :: ' ' ::
          ("application/json".toList ++ '\r' :: '\n' ::
            ("content-length".toList ++ ':' :: ' ' :: rest))) :=
    rfl
  have hend : "\r\n\r\n".toList = ['\r', '\n', '\r', '\n'] := rfl
  unfold octets
  dsimp only
  simp only [hend, List.append_assoc, List.cons_append, List.nil_append, hfields]

theorem read?_octets (hlow : 100 ≤ r.status) (hhigh : r.status < 1000) :
    ReplyHead.read? r.octets = some (r.head, Delivery.octets r.body) := by
  have hversion (rest : List Char) :
      ReplyHead.version? (ReplyHead.skipEmptyLines ("HTTP/1.1 ".toList ++ rest)) =
        some (false, rest) :=
    rfl
  have hreason (rest : List Char) :
      ReplyHead.afterReason? (' ' :: '\r' :: '\n' :: rest) = some rest :=
    rfl
  have htype : IsFieldValue "application/json".toList := ⟨List.all_eq_true.mp rfl, rfl⟩
  have htoken {name : List Char} (h : name.all MediaType.isTokenChar = true) :
      ∀ c ∈ name, MediaType.isTokenChar c = true :=
    List.all_eq_true.mp h
  have hlast (rest : List Char) :
      ReplyHead.fields? 99 ('\r' :: '\n' :: rest) = some ([], rest) :=
    rfl
  rw [octets_eq, ReplyHead.read?, hversion]
  simp only [Option.bind_eq_bind, Option.bind_some, status?_digits hlow hhigh, hreason]
  rw [ReplyHead.fieldLimit, fields?_cons (by decide) (htoken rfl) htype,
    fields?_cons (by decide) (htoken rfl) (isFieldValue_digits _), hlast]
  rfl

theorem ofHead?_head (h : (Delivery.octets r.body).length ≤ Framing.lengthLimit) :
    Framing.ofHead? r.head = some (.sized (Delivery.octets r.body).length) := by
  have hcoding : r.head.values "transfer-encoding" = [] := rfl
  have hlength : r.head.values "content-length" =
      [Decimal.digits (Delivery.octets r.body).length] :=
    rfl
  rw [Framing.ofHead?, hcoding, hlength]
  exact ofLengths?_digits h

def carried : String :=
  if Delivery.isBodiless r.status then "" else r.body

variable {r}

theorem ofOctets?_octets (hlow : 200 ≤ r.status) (hhigh : r.status < 1000)
    (hsize : (Delivery.octets r.body).length ≤ Framing.lengthLimit) :
    Delivery.ofOctets? r.octets = some ⟨r.head, some (Delivery.octets r.carried)⟩ := by
  have hstatus : r.head.status = r.status := rfl
  have hbody : Framing.body? (Delivery.octets r.body) (.sized (Delivery.octets r.body).length) =
      some (Delivery.octets r.body) := by
    rw [Framing.body?, if_pos le_rfl, List.take_length]
  rw [Delivery.ofOctets?, Delivery.read?, r.read?_octets (by omega) hhigh]
  simp only [Option.bind_eq_bind, Option.bind_some, hstatus, carried]
  split
  · rfl
  · rw [if_neg (by omega), r.ofHead?_head hsize, Option.bind_some, hbody]

theorem movedTo?_head (body : Option (List Char)) (address : Url) :
    Delivery.movedTo? ⟨r.head, body⟩ address = none := by
  unfold Delivery.movedTo?
  split <;> rfl

theorem charset_head (body : Option (List Char)) : Delivery.charset ⟨r.head, body⟩ = .utf8 :=
  rfl

/-- The text that the client judges a reply by; where it is only shown it has no byte order
mark. -/
def judged (r : ChatReply) : String :=
  if 200 ≤ r.status ∧ r.status < 300 then r.carried
  else String.ofList (Charset.withoutMark r.carried.toList)

structure Delivers (r : ChatReply) (status : ℕ) (body : String) : Prop where
  status_eq : r.status = status
  low : 200 ≤ status
  high : status < 1000
  size : (Utf8.encode r.body).length ≤ Framing.lengthLimit
  judged_eq : r.judged = body

theorem Delivers.outcome_eq {status : ℕ} {body : String} (h : r.Delivers status body)
    (address : Url) : r.outcome address = Reply.outcome status body := by
  obtain ⟨rfl, hlow, hhigh, hsize, rfl⟩ := h
  have hoctets : (Delivery.octets r.body).length ≤ Framing.lengthLimit := by
    rwa [Delivery.octets, List.length_map]
  have hstatus : r.head.status = r.status := rfl
  rw [outcome, ofOctets?_octets hlow hhigh hoctets]
  simp only [movedTo?_head, hstatus, Option.isSome_none, Bool.false_eq_true, if_false,
    Delivery.document?, Delivery.text, charset_head, Option.map_some, Option.getD_some, judged,
    bytes_octets]
  split
  · rw [Utf8.lossy_encode, String.ofList_toList]
  · rw [Utf8.encode_eq, Charset.decode_chars]

end ChatReply

end QuizService

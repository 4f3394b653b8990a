import Wirelog.Http.Message
/-!
Messages as octets. A request is a head of lines, an empty line, and a body whose length the head
tells, either as a number or by chunks. A response is written with the length of its body.
-/
namespace Wirelog.Http.Wire

/-- What reading from the octets that have come so far gives. -/
inductive Read (α : Type) where
  /-- A value, and the octets after it. -/
  | done (value : α) (rest : List UInt8)
  /-- More octets are needed. -/
  | more
  /-- The octets are no message. -/
  | bad
deriving Inhabited

/-- Splits off a line, without its end. -/
def line? : List UInt8 → Option (List UInt8 × List UInt8)
  | [] => none
  | 10 :: rest => some ([], rest)
  | 13 :: 10 :: rest => some ([], rest)
  | b :: rest => (line? rest).map fun (l, after) => (b :: l, after)

/-- Splits off lines up to an empty one, at most so many. -/
def lines? : Nat → List UInt8 → Option (List (List UInt8) × List UInt8)
  | 0, _ => none
  | n + 1, s =>
    match line? s with
    | none => none
    | some ([], rest) => some ([], rest)
    | some (l, rest) => (lines? n rest).map fun (ls, after) => (l :: ls, after)

/-- Octets as characters of the same numbers. -/
def chars (l : List UInt8) : List Char :=
  l.map fun b => Char.ofNat b.toNat

/-- The version that a request line names. -/
def version? : List Char → Option Version
  | ['H', 'T', 'T', 'P', '/', '1', '.', '1'] => some .http11
  | ['H', 'T', 'T', 'P', '/', '1', '.', '0'] => some .http10
  | _ => none

/-- Reads a request line. -/
def requestLine? (l : List UInt8) : Option Request := do
  let text ← (Bytes.ofOctets l).toText?
  match Text.splitOn ' ' text.toList with
  | [method, target, version] =>
    if method.isEmpty || !method.all isTokenChar then none
    else
      let uri ← Uri.parse? (String.ofList target)
      let version ← version? version
      return { method := String.ofList method, uri, version }
  | _ => none

/-- Whether an octet is a blank within a line. -/
def isBlank (b : UInt8) : Bool :=
  b == 32 || b == 9

/-- Reads a header line. Blanks around the value do not belong to it. -/
def headerLine? (l : List UInt8) : Option (String × Bytes) := do
  let name := l.takeWhile (· != 58)
  let _ :: value := l.drop name.length | none
  let name ← headerName? (String.ofList (chars name))
  let value := ((value.dropWhile isBlank).reverse.dropWhile isBlank).reverse
  if isHeaderValue (Bytes.ofOctets value) then return (name, Bytes.ofOctets value) else none

/-- Reads the head of a request. -/
def head? : List (List UInt8) → Option Request
  | [] => none
  | first :: rest => do
    let r ← requestLine? first
    let headers ← rest.mapM headerLine?
    return { r with headers := .ofList headers }

/-- The number at the start of a line that opens a chunk. -/
def chunkSize? (l : List UInt8) : Option Nat :=
  let digits := (chars l).takeWhile fun c => (Text.hexValue c).isSome
  if digits.isEmpty || 15 < digits.length then none
  else Text.numeral 16 Text.hexValue digits

/-- Reads a body in chunks, at most so many. -/
def chunks (body : List UInt8) : Nat → List UInt8 → Read (List UInt8)
  | 0, _ => .bad
  | n + 1, s =>
    match line? s with
    | none => .more
    | some (l, rest) =>
      match chunkSize? l with
      | none => .bad
      | some 0 =>
        match lines? (rest.length + 1) rest with
        | some (_, rest) => .done body rest
        | none => .more
      | some size =>
        if rest.length < size then .more
        else match line? (rest.drop size) with
          | some ([], after) => chunks (body ++ rest.take size) n after
          | some _ => .bad
          | none => .more

/-- Whether the head of a request announces chunks. -/
def isChunked (h : Headers) : Bool :=
  match (h.getAll "transfer-encoding").getLast? with
  | some v => (valueText? v).any fun t => Text.asciiLower (Text.trim t) == "chunked"
  | none => false

/-- The length that the head of a request announces. -/
def length? (h : Headers) : Option Nat :=
  match h.get? "content-length" with
  | none => some 0
  | some v => (valueText? v).bind fun t =>
    if t.toList.all Char.isDigit then Text.decimal? t.toList else none

/-- Reads a request. Empty lines before it are skipped. -/
def request (s : List UInt8) : Read Request :=
  let s := s.dropWhile fun b => b == 13 || b == 10
  match lines? (s.length + 1) s with
  | none => .more
  | some (ls, rest) =>
    match head? ls with
    | none => .bad
    | some r =>
      if isChunked r.headers then
        match chunks [] (rest.length + 1) rest with
        | .done body rest => .done { r with body := Bytes.ofOctets body } rest
        | .more => .more
        | .bad => .bad
      else match length? r.headers with
        | none => .bad
        | some n =>
          if rest.length < n then .more
          else .done { r with body := Bytes.ofOctets (rest.take n) } (rest.drop n)

/-- The octets of a response. Its length is given unless its status forbids a body. -/
def ofResponse (r : Response) : Bytes :=
  let reason := (reasonPhrase? r.status).getD ""
  let start := Bytes.ofText ("HTTP/1.1 " ++ Text.natText r.status ++ " " ++ reason ++ "\r\n")
  let line (h : String × Bytes) : Bytes := Bytes.ofText (h.1 ++ ": ") ++ h.2 ++ Bytes.ofText "\r\n"
  let bare := r.status < 200 || r.status == 204 || r.status == 304
  let headers :=
    if bare || r.headers.contains "content-length" then r.headers
    else r.headers.append "content-length" (Bytes.ofText (Text.natText r.body.size))
  let block := headers.toList.foldl (fun acc h => acc ++ line h) start
  block ++ Bytes.ofText "\r\n" ++ (if bare then .empty else r.body)

end Wirelog.Http.Wire

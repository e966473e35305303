import Gateway.Http.Request
import Gateway.Text.Percent

/-!
Receiving requests from a stream of bytes, one byte at a time. The receiver knows where each request
ends, so that the next may follow it at once.
-/
namespace Gateway.Http

/-- The lines of a request before its body. -/
structure Head where
  method : String
  target : Target
  version : Version
  headers : List WireField
  deriving Repr, DecidableEq

/-- How the end of a body is found. -/
inductive Framing where
  | sized (length : Nat)
  | chunked
  deriving Repr, DecidableEq

namespace Head

def cr : UInt8 := 0x0D
def lf : UInt8 := 0x0A

def lines (bytes : Bytes) : List Bytes :=
  (bytes.splitOn lf).map fun l => if l.getLast? = some cr then l.dropLast else l

def isSpace (b : UInt8) : Bool := b == 0x20 || b == 0x09

def trimmedValue (value : Bytes) : Bytes :=
  ((value.dropWhile isSpace).reverse.dropWhile isSpace).reverse

/-- Reads a field: a name, a colon and a value. -/
def field? (line : Bytes) : Option WireField :=
  match line.dropWhile (· ≠ 0x3A) with
  | [] => none
  | _ :: value =>
    let name := Text.decoded (line.takeWhile (· ≠ 0x3A))
    (wireField name (trimmedValue value)).toOption

def version? (label : Bytes) : Option Version :=
  if label = Text.utf8 "HTTP/1.1" then some .http11
  else if label = Text.utf8 "HTTP/1.0" then some .http10
  else none

def ofLines? : List Bytes → Option Head
  | [] => none
  | first :: rest =>
    match first.splitOn 0x20 with
    | [method, target, label] => do
      let method := Text.decoded method
      if !isToken method then none
      let text := Text.decoded target
      if Text.utf8 text ≠ target then none
      let version ← version? label
      let target ← Target.ofText? text
      let headers ← rest.mapM field?
      return { method, target, version, headers }
    | _ => none

def values (h : Head) (name : String) : List Bytes :=
  (h.headers.filter (·.1 == name)).map (·.2)

/-- One of the options that the values of a header list. -/
def lists (h : Head) (name option : String) : Bool :=
  (h.values name).any fun v => (v.splitOn 0x2C).any fun o =>
    (Text.decoded (trimmedValue o)).toLower == option

def length? (value : Bytes) : Option Nat :=
  if value.isEmpty || !value.all (fun b => 0x30 ≤ b && b ≤ 0x39) then none
  else some (value.foldl (fun n b => n * 10 + (b.toNat - 0x30)) 0)

/-- How the end of the body is found; nothing if the headers contradict each other. -/
def framing? (h : Head) : Option Framing :=
  match h.values "transfer-encoding", (h.values "content-length").mapM length? with
  | [], some [] => some (.sized 0)
  | [], some (n :: more) => if more.all (· == n) then some (.sized n) else none
  | [], none => none
  | _, _ =>
    if h.version = .http11 ∧ h.lists "transfer-encoding" "chunked" then some .chunked else none

/-- The client expects to go on after this request. -/
def keepsAlive (h : Head) : Bool :=
  if h.version = .http10 then h.lists "connection" "keep-alive" else !h.lists "connection" "close"

/-- The client waits for a sign before it sends the body. -/
def awaitsContinue (h : Head) : Bool := h.lists "expect" "100-continue"

def request (h : Head) (body : List Frame) : Request :=
  { method := h.method, target := h.target, version := h.version
    headers := Request.grouped h.headers, body }

end Head

/-- Where a receiver stands. Bytes and chunks that were read stand with the last one first. -/
inductive Receiver where
  /-- Reading the lines before a body, of which there are `size` bytes. -/
  | head (size : Nat) (read : Bytes)
  | sized (h : Head) (left : Nat) (read : Bytes)
  | chunkSize (h : Head) (digits : Bytes) (read : Bytes)
  | chunkData (h : Head) (left : Nat) (read : Bytes)
  | chunkEnd (h : Head) (read : Bytes)
  | trailer (h : Head) (line : Bytes) (read : Bytes)
  | complete (h : Head) (body : Bytes)
  /-- What was read is no request. -/
  | bad
  deriving Repr, DecidableEq

namespace Receiver

/-- Bytes of the longest head. -/
def maxHead : Nat := 409600

def begin (h : Head) : Receiver :=
  match h.framing? with
  | some (.sized 0) => .complete h []
  | some (.sized n) => .sized h n []
  | some .chunked => .chunkSize h [] []
  | none => .bad

/-- Ends the lines before a body if there is an empty one. Empty lines in front do not count. -/
def endHead (size : Nat) (read : Bytes) : Receiver :=
  let complete := match read with
    | 0x0A :: 0x0D :: 0x0A :: _ | 0x0A :: 0x0A :: _ => true
    | _ => false
  if read.all fun b => b == Head.cr || b == Head.lf then .head 0 []
  else if complete then
    match Head.ofLines? ((Head.lines read.reverse).filter (!·.isEmpty)) with
    | some h => begin h
    | none => .bad
  else .head size read

/-- The size of a chunk, whose extensions do not count. -/
def chunkSize? (line : Bytes) : Option Nat :=
  let digits := Head.trimmedValue (line.takeWhile fun b => b ≠ 0x3B && b ≠ Head.cr)
  if digits.isEmpty then none
  else digits.foldlM (fun n b => (Text.hexDigit? b).map fun d => n * 16 + d.toNat) 0

def feed (r : Receiver) (b : UInt8) : Receiver :=
  match r with
  | head size read =>
    if size ≥ maxHead then .bad
    else if b = Head.lf then endHead (size + 1) (b :: read)
    else .head (size + 1) (b :: read)
  | sized h left read => if left ≤ 1 then .complete h (b :: read).reverse else .sized h (left - 1) (b :: read)
  | chunkSize h digits read =>
    if b = Head.lf then
      match chunkSize? digits.reverse with
      | some 0 => .trailer h [] read
      | some n => .chunkData h n read
      | none => .bad
    else .chunkSize h (b :: digits) read
  | chunkData h left read =>
    if left ≤ 1 then .chunkEnd h (b :: read) else .chunkData h (left - 1) (b :: read)
  | chunkEnd h read =>
    if b = Head.cr then .chunkEnd h read
    else if b = Head.lf then .chunkSize h [] read
    else .bad
  | trailer h line read =>
    if b ≠ Head.lf then .trailer h (b :: line) read
    else if line.all (· == Head.cr) then .complete h read.reverse
    else .trailer h [] read
  | complete h body => .complete h body
  | bad => .bad

def bodyLength : Receiver → Nat
  | sized _ _ read | chunkSize _ _ read | chunkData _ _ read | chunkEnd _ read | trailer _ _ read
  | complete _ read => read.length
  | _ => 0

/-- Receives bytes until a request is complete or cannot be, and gives the bytes that are left. -/
def feedAll (r : Receiver) : Bytes → Receiver × Bytes
  | [] => (r, [])
  | b :: bs =>
    match r with
    | complete .. | bad => (r, b :: bs)
    | r => feedAll (r.feed b) bs

end Receiver
end Gateway.Http

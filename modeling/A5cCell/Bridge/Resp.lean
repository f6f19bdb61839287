import A5cCell.Lib.Socket
import A5cCell.Lib.Utf8
import A5cCell.Lib.Value

/-!
# The protocol of the counter client

`_encode_resp_command`, `_read_resp` and the reads below it, over a stream that comes in pieces; and
the replies of a server, as they are written.
-/

namespace A5cCell.Bridge.Resp

open Py (Val)
open Socket (Stream Consumes recv)
open Utf8 (byte)

/-- The exceptions of a read. -/
inductive RespError where
  | runtimeError (message : String)
  | valueError
  | unicodeDecodeError
  | recursionError
  deriving DecidableEq

abbrev Read (α : Type) := Socket.Read RespError α

/-- What a read raises when the stream has ended. -/
def closed : RespError := .runtimeError "Valkey connection closed"

def crlf : List UInt8 := [byte '\r', byte '\n']

/-! ## Reading -/

/-- The loop of `_read_exact`; a read is of one byte at least, so it has as many turns as bytes. -/
def readExactFrom (length : Nat) : Nat → List UInt8 → Read (List UInt8)
  | 0, chunks => pure chunks
  | turns + 1, chunks =>
      if chunks.length < length then do
        let chunk ← recv (length - chunks.length)
        if chunk = [] then throw closed
        else readExactFrom length turns (chunks ++ chunk)
      else pure chunks

/-- `_read_exact`. -/
def readExact (length : Nat) : Read (List UInt8) := readExactFrom length length []

/-- The loop of `_read_line`; each turn takes a byte, and there is none after the last. -/
def readLineFrom : Nat → List UInt8 → Read (List UInt8)
  | 0, _ => throw closed
  | turns + 1, chunks =>
      if crlf.isSuffixOf chunks then pure (chunks.take (chunks.length - 2))
      else do
        let chunk ← readExact 1
        readLineFrom turns (chunks ++ chunk)

/-- `_read_line`. -/
def readLine : Read (List UInt8) := fun stream => readLineFrom (stream.bytes.length + 1) [] stream

/-- `data.decode("utf-8")`. -/
def decodeUtf8 (data : List UInt8) : Except RespError String :=
  match Utf8.decode data with
  | some text => .ok text
  | none => .error .unicodeDecodeError

/-- `int(data)`. -/
def intOf (data : List UInt8) : Except RespError Int :=
  if data.all (· < 128) then
    match Py.toInt? (String.ofList (data.map fun b => Char.ofNat b.toNat)) with
    | some n => .ok n
    | none => .error .valueError
  else .error .valueError

def hexDigits : List Char := "0123456789abcdef".toList

/-- `repr` of one byte, between its quotes. -/
def byteRepr (b : UInt8) : String :=
  if b = byte '\\' then "\\\\"
  else if b = byte '\t' then "\\t"
  else if b = byte '\n' then "\\n"
  else if b = byte '\r' then "\\r"
  else if byte ' ' ≤ b ∧ b ≤ byte '~' then String.singleton (Char.ofNat b.toNat)
  else String.ofList ['\\', 'x', hexDigits.getD (b.toNat / 16) '0', hexDigits.getD (b.toNat % 16) '0']

/-- `repr` of bytes; a quote among them changes the quotes. -/
def bytesRepr (data : List UInt8) : String :=
  let quote := if data.contains 39 && !data.contains 34 then "\"" else String.singleton (Char.ofNat 39)
  "b" ++ quote ++ String.join (data.map byteRepr) ++ quote

/-- `_read_line(sock).decode("utf-8")`. -/
def readText : Read String := do
  let line ← readLine
  Socket.ofExcept (decodeUtf8 line)

/-- `int(_read_line(sock))`. -/
def readInt : Read Int := do
  let line ← readLine
  Socket.ofExcept (intOf line)

/-- What `_read_resp` reads after the marker, with the reader of an element. -/
def readMarked (readItem : Read Val) (marker : List UInt8) : Read Val :=
  if marker = [byte '+'] then do
    let text ← readText
    pure (.str text)
  else if marker = [byte ':'] then do
    let n ← readInt
    pure (.int n)
  else if marker = [byte '-'] then do
    let message ← readText
    throw (.runtimeError message)
  else if marker = [byte '$'] then do
    let length ← readInt
    if length < 0 then pure .none
    else do
      let payload ← readExact length.toNat
      let _ ← readExact 2
      let text ← Socket.ofExcept (decodeUtf8 payload)
      pure (.str text)
  else if marker = [byte '*'] then do
    let length ← readInt
    if length < 0 then pure .none
    else do
      let items ← Socket.times readItem length.toNat
      pure (.list items)
  else throw (.runtimeError ("Unsupported Valkey response prefix: " ++ bytesRepr marker))

/-- `_read_resp`, as deep as the interpreter goes. -/
def readResp : Nat → Read Val
  | 0 => throw .recursionError
  | depth + 1 => do
      let marker ← readExact 1
      readMarked (readResp depth) marker

/-- `_read_transaction_response`. -/
def readTransactionResponse (depth commandCount : Nat) : Read (List Val) := do
  let _ ← readResp depth
  let _ ← Socket.times (readResp depth) commandCount
  let execResponse ← readResp depth
  match execResponse with
  | .list results => pure results
  | _ => throw (.runtimeError "Valkey EXEC did not return an array")

/-! ## Writing -/

/-- A part of a command, by its length. -/
def encodePart (part : String) : List UInt8 :=
  Utf8.encode ("$" ++ toString (Utf8.encode part).length ++ "\r\n") ++ (Utf8.encode part ++ crlf)

/-- `_encode_resp_command`. -/
def encodeRespCommand (parts : List String) : List UInt8 :=
  Utf8.encode ("*" ++ toString parts.length ++ "\r\n") ++ parts.flatMap encodePart

/-- What `_execute_transaction` sends. -/
def transactionPayload (commands : List (List String)) : List UInt8 :=
  encodeRespCommand ["MULTI"] ++ commands.flatMap encodeRespCommand ++ encodeRespCommand ["EXEC"]

/-! ## The replies of a server -/

inductive Reply where
  | simple (text : String)
  | integer (n : Int)
  | bulk (text : String)
  | nullBulk
  | array (items : List Reply)
  | nullArray
  | error (message : String)

/-- A line: a marker, and text up to CR LF. -/
def line (marker : Char) (text : String) : List UInt8 := byte marker :: (Utf8.encode text ++ crlf)

namespace Reply

mutual

/-- A reply, as a server writes it. -/
def encode : Reply → List UInt8
  | simple text => line '+' text
  | integer n => line ':' (toString n)
  | bulk text => line '$' (toString (Utf8.encode text).length) ++ (Utf8.encode text ++ crlf)
  | nullBulk => line '$' "-1"
  | array items => line '*' (toString items.length) ++ encodeAll items
  | nullArray => line '*' "-1"
  | error message => line '-' message

def encodeAll : List Reply → List UInt8
  | [] => []
  | item :: items => item.encode ++ encodeAll items

end

mutual

/-- What a reply stands for: the first error in it is raised. -/
def value : Reply → Except RespError Val
  | simple text => .ok (.str text)
  | integer n => .ok (.int n)
  | bulk text => .ok (.str text)
  | nullBulk => .ok .none
  | array items => (values items).map .list
  | nullArray => .ok .none
  | error message => .error (.runtimeError message)

def values : List Reply → Except RespError (List Val)
  | [] => .ok []
  | item :: items => do
      let v ← item.value
      let vs ← values items
      pure (v :: vs)

end

mutual

/-- Simple strings and errors are a line, and integers have 64 bits. -/
def WellFormed : Reply → Prop
  | simple text => ¬ crlf <:+: Utf8.encode text
  | integer n => -2 ^ 63 ≤ n ∧ n < 2 ^ 63
  | error message => ¬ crlf <:+: Utf8.encode message
  | array items => AllWellFormed items
  | _ => True

def AllWellFormed : List Reply → Prop
  | [] => True
  | item :: items => item.WellFormed ∧ AllWellFormed items

end

mutual

def HasError : Reply → Prop
  | error _ => True
  | array items => AnyHasError items
  | _ => False

def AnyHasError : List Reply → Prop
  | [] => False
  | item :: items => item.HasError ∨ AnyHasError items

end

mutual

/-- How deep its arrays are nested. -/
def depth : Reply → Nat
  | array items => depths items + 1
  | _ => 0

def depths : List Reply → Nat
  | [] => 0
  | item :: items => max item.depth (depths items)

end

end Reply

end A5cCell.Bridge.Resp

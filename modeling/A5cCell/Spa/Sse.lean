import Mathlib.Algebra.Group.Nat.Defs
import A5cCell.Lib.Str
import A5cCell.Lib.TextDecoder

/-!
# Server-sent events in the browser

`SseClient.read`, `SseParser` and `parseSseEvent` of `api/client.ts`. A JavaScript string is kept as
its characters: what the parser looks for, trims and cuts at takes one code unit each.
-/

namespace A5cCell.Spa

abbrev Text := List Char

/-- What `trim` and `trimStart` take away: white space, line ends and the byte order mark. -/
def isSpace (c : Char) : Bool :=
  let n := c.toNat
  (9 ≤ n && n ≤ 13) || n == 32 || n == 0xA0 || n == 0x1680 || (0x2000 ≤ n && n ≤ 0x200A) ||
    n == 0x2028 || n == 0x2029 || n == 0x202F || n == 0x205F || n == 0x3000 || n == 0xFEFF

def trimStart (text : Text) : Text := text.dropWhile isSpace

def trim (text : Text) : Text := (trimStart text).rdropWhile isSpace

/-- The number a whole number is kept as: its first 53 bits, rounded half to even; `none` where that
    is infinite. -/
def toNumber (n : Nat) : Option Nat :=
  let shift := n.log2 - 52
  let high := n >>> shift
  let low := n % 2 ^ shift
  let rounded := if 2 ^ shift < 2 * low ∨ (2 ^ shift = 2 * low ∧ high % 2 = 1) then high + 1 else high
  if rounded * 2 ^ shift < 2 ^ 1024 then some (rounded * 2 ^ shift) else none

/-- `Number.parseInt(value, 10)`, where it is finite. -/
def parseInt (value : Text) : Option Int :=
  let text := trimStart value
  let digits := (if text.head? = some '-' ∨ text.head? = some '+' then text.drop 1 else text).takeWhile
    Char.isDigit
  if digits = [] then none
  else (toNumber (Py.natOfDigits digits)).map fun n => if text.head? = some '-' then -(n : Int) else n

structure SseEvent where
  event : Text
  data : Text
  id : Option Text
  retry : Option Int
  raw : Text
deriving DecidableEq

/-- The variables of `parseSseEvent`. -/
structure Fields where
  event : Text := "message".toList
  data : List Text := []
  id : Option Text := none
  retry : Option Int := none

/-- One line of a chunk. -/
def Fields.read (fields : Fields) (line : Text) : Fields :=
  if line.isEmpty || line.head? == some ':' then fields
  else
    let field := line.takeWhile (· != ':')
    let value := trimStart ((line.dropWhile (· != ':')).drop 1)
    if field = "event".toList then { fields with event := value }
    else if field = "data".toList then { fields with data := fields.data ++ [value] }
    else if field = "id".toList then { fields with id := some value }
    else if field = "retry".toList then { fields with retry := parseInt value }
    else fields

/-- `rawChunk.replace(/\r/g, "")`. -/
def withoutCr (rawChunk : Text) : Text := rawChunk.filter (· != '\r')

/-- `parseSseEvent`. -/
def parseSseEvent (rawChunk : Text) : Option SseEvent :=
  let chunk := trim (withoutCr rawChunk)
  if chunk = [] then none
  else
    let fields := (chunk.splitOn '\n').foldl Fields.read {}
    some {
      event := fields.event
      data := ['\n'].intercalate fields.data
      id := fields.id
      retry := fields.retry
      raw := chunk }

/-- `buffer.indexOf("\n\n")`. -/
def boundary? : Text → Option Nat
  | '\n' :: '\n' :: _ => some 0
  | _ :: rest => (boundary? rest).map (· + 1)
  | [] => none

structure SseParser where
  buffer : Text

/-- The loop of `drain`. Each turn shortens the buffer, which the fuel is the length of. -/
def drainLoop : Nat → Text → List SseEvent × SseParser
  | 0, buffer => ([], ⟨buffer⟩)
  | n + 1, buffer =>
      match boundary? buffer with
      | none => ([], ⟨buffer⟩)
      | some boundary =>
          let drained := drainLoop n (buffer.drop (boundary + 2))
          ((parseSseEvent (buffer.take boundary)).toList ++ drained.1, drained.2)

def SseParser.drain (p : SseParser) : List SseEvent × SseParser :=
  drainLoop p.buffer.length p.buffer

def SseParser.push (p : SseParser) (chunk : Text) : List SseEvent × SseParser :=
  SseParser.drain ⟨p.buffer ++ chunk⟩

/-- `flush`, after which nothing is read. -/
def SseParser.flush (p : SseParser) (chunk : Text) : List SseEvent :=
  let buffer := p.buffer ++ chunk
  if trim buffer = [] then [] else (parseSseEvent buffer).toList

/-- The loop of `read`, over the chunks the reader gives. -/
def readLoop (decoder : TextDecoder.Decoder) (parser : SseParser) : List (List UInt8) → List SseEvent
  | [] => parser.flush decoder.last
  | value :: rest =>
      let decoded := decoder.decode value
      let pushed := parser.push decoded.2
      pushed.1 ++ readLoop decoded.1 pushed.2 rest

/-- `SseClient.read`: all the events it yields. -/
def read (chunks : List (List UInt8)) : List SseEvent :=
  readLoop TextDecoder.new ⟨[]⟩ chunks

end A5cCell.Spa

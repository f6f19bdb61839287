import A5cCell.Bridge.OnePreamble
import A5cCell.Spa.SseLines

/-!
# Server-sent events through the bridge

The bridge writes every line of the mock runtime's stream with an empty line after it, which makes it
an event of its own. What the browser reads of it is what it would have read of the runtime's own
bytes where no event of theirs has two lines.
-/

namespace A5cCell.Bridge.RouteAdapter

open RuntimeCalls
open Spa (Text eventsOf heldLines pieces parseSseEvent)
open TextDecoder (endsLine markedText)

/-- The bytes that are written of a line: `raw_line + b"\n\n"`. -/
def Chunk.lineBytes : Chunk → List UInt8
  | .body (.line raw) => raw ++ [10, 10]
  | _ => []

/-- The lines of a stream of bytes that are not empty. -/
def linesOf (bytes : List UInt8) : List (List UInt8) :=
  (bytes.splitOnP endsLine).filter (!·.isEmpty)

theorem lineBytes_lineChunks (lines : List (List UInt8)) : (lineChunks lines).flatMap Chunk.lineBytes =
    (lines.filter (!·.isEmpty)).flatMap fun raw => raw ++ [10, 10] := by
  rw [lineChunks, List.flatMap_map]
  rfl

/-- The text of lines that are written is their texts. -/
theorem markedText_lineBytes (lines : List (List UInt8)) :
    markedText (lines.flatMap fun raw => raw ++ [10, 10]) =
      (lines.map markedText).flatMap fun line => line ++ ['\n', '\n'] := by
  induction lines with
  | nil => rfl
  | cons raw lines ih =>
    have hbytes : (raw :: lines).flatMap (fun raw => raw ++ [10, 10]) =
        raw ++ 10 :: ([] ++ 10 :: lines.flatMap (fun raw => raw ++ [10, 10])) := by simp
    rw [hbytes, TextDecoder.markedText_ascii raw (by decide), TextDecoder.markedText_ascii []
      (by decide), ih]
    simp [markedText, TextDecoder.feed, TextDecoder.finish]

theorem filterMap_linesOf (bytes : List UInt8) :
    ((linesOf bytes).map markedText).filterMap parseSseEvent =
      ((bytes.splitOnP endsLine).map markedText).filterMap parseSseEvent := by
  unfold linesOf
  generalize bytes.splitOnP endsLine = runs
  induction runs with
  | nil => rfl
  | cons run runs ih =>
    cases run with
    | nil =>
      have hnone : parseSseEvent (markedText []) = none := rfl
      rw [List.filter_cons_of_neg (by simp), ih, List.map_cons, List.filterMap_cons_none hnone]
    | cons byte run =>
      rw [List.filter_cons_of_pos (by simp), List.map_cons, List.map_cons, List.filterMap_cons,
        List.filterMap_cons, ih]

/-- What is read of the lines a stream is written as. -/
theorem read_lineBytes {chunks : List (List UInt8)} {upstream : List UInt8}
    (h : chunks.flatten = (linesOf upstream).flatMap fun raw => raw ++ [10, 10]) :
    Spa.read chunks = ((markedText upstream).splitOnP TextDecoder.lineEnd).filterMap parseSseEvent := by
  have hnewline : ∀ line ∈ (linesOf upstream).map markedText, '\n' ∉ line := by
    intro line hline hmem
    obtain ⟨run, hrun, rfl⟩ := List.mem_map.1 hline
    have hends := Spa.not_of_mem_splitOnP (List.mem_of_mem_filter hrun)
    exact absurd (TextDecoder.lineEnd_markedText hends '\n' hmem) (by decide)
  rw [Spa.read_eq, h, TextDecoder.decode_eq, Spa.eventsOf_withoutMark, markedText_lineBytes,
    Spa.eventsOf_lines hnewline, filterMap_linesOf, TextDecoder.markedText_lines]

theorem written_lineBytes {env : Surroundings} {inv : AgentInvocation} {url : String}
    {answer : MockAnswer}
    (hpost : env.post (Py.rstripChar '/' url) (buildRuntimePayload inv) = .ok answer)
    (hok : answer.ok = true) :
    (written (handleStreamingInvocation env inv url)).flatMap Chunk.lineBytes =
      (answer.lines.filter (!·.isEmpty)).flatMap fun raw => raw ++ [10, 10] := by
  obtain ⟨headers, record, hsaid, -, -⟩ := stream_spec hpost hok
  rw [written, hsaid, List.filterMap_append, chunks_write, List.flatMap_append, List.flatMap_cons,
    lineBytes_lineChunks]
  simp [Act.chunk?, Chunk.lineBytes]

section

variable {env : Surroundings} {inv : AgentInvocation} {url : String} {answer : MockAnswer}
  {upstream : List UInt8} {sent received : List (List UInt8)}

/-- **Events through the bridge**: what the browser reads of the bridge's bytes is what it would read of
    the runtime's, in any chunks, where no event of theirs has two lines that hold something. The lines
    the library yields are those of the bytes, with or without empty ones. -/
theorem streamed_events_iff
    (hpost : env.post (Py.rstripChar '/' url) (buildRuntimePayload inv) = .ok answer)
    (hok : answer.ok = true) (hlines : answer.lines.filter (!·.isEmpty) = linesOf upstream)
    (hsent : sent.flatten = upstream)
    (hreceived : received.flatten =
      (written (handleStreamingInvocation env inv url)).flatMap Chunk.lineBytes) :
    (Spa.read received).map Spa.SseEvent.said = (Spa.read sent).map Spa.SseEvent.said ↔
      ∀ block ∈ pieces (markedText upstream), (heldLines block).length ≤ 1 := by
  have hbytes : received.flatten = (linesOf upstream).flatMap fun raw => raw ++ [10, 10] := by
    rw [hreceived, written_lineBytes hpost hok, hlines]
  rw [read_lineBytes hbytes, Spa.read_eq, hsent, TextDecoder.decode_eq, Spa.eventsOf_withoutMark,
    Spa.events_of_lines_iff]

end

/-- The bytes of an event with data only, and of one with a name. -/
def plainEvent : List UInt8 := Utf8.encode "data: a\n\n"

def namedEvent : List UInt8 := Utf8.encode "event: tool\ndata: a\n\n"

/-- A mock runtime that streams lines. -/
def mockLines (lines : List (List UInt8)) : Surroundings :=
  { answeringRuntime none with
    mockRuntimeUrl := .str "http://mock"
    post := fun _ _ => .ok ⟨200, none, "", lines, none⟩ }

theorem streamed_events_plainEvent :
    (Spa.read [Utf8.encode "data", Utf8.encode ": a\n\n"]).map Spa.SseEvent.said =
      (Spa.read [plainEvent]).map Spa.SseEvent.said := by
  have hpost : (mockLines [Utf8.encode "data: a", []]).post (Py.rstripChar '/' "http://mock")
      (buildRuntimePayload (echoInvocation .streaming true)) =
        .ok ⟨200, none, "", [Utf8.encode "data: a", []], none⟩ := rfl
  have hreceived : [Utf8.encode "data", Utf8.encode ": a\n\n"].flatten =
      (written (handleStreamingInvocation (mockLines [Utf8.encode "data: a", []])
        (echoInvocation .streaming true) "http://mock")).flatMap Chunk.lineBytes := by decide +kernel
  have hlines : [Utf8.encode "data: a", []].filter (!·.isEmpty) = linesOf plainEvent := by
    decide +kernel
  have hheld : (pieces (markedText plainEvent)).all (fun block => (heldLines block).length ≤ 1) =
      true := by decide +kernel
  refine (streamed_events_iff hpost rfl hlines List.flatten_singleton hreceived).mpr ?_
  intro block hblock
  exact of_decide_eq_true (List.all_eq_true.mp hheld block hblock)

/-- An event with a name is read as two events: the name without the data, and the data without the
    name. -/
theorem namedEvent_is_split :
    (Spa.read [(written (handleStreamingInvocation (mockLines [Utf8.encode "event: tool",
        Utf8.encode "data: a", []]) (echoInvocation .streaming true) "http://mock")).flatMap
          Chunk.lineBytes]).map Spa.SseEvent.said ≠
      (Spa.read [namedEvent]).map Spa.SseEvent.said := by
  decide +kernel

end A5cCell.Bridge.RouteAdapter

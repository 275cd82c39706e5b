import Outbound.Dispatch.Submission
import Outbound.Event
import Outbound.Progress.Meter

/-! The progress of an upload. A body of parts is metered while it is sent; other bodies are not. -/

namespace Outbound.Upload

def events (id : RequestId) (start : Time) (total : Option Nat)
    (polls : List (Time × Polled IoError)) : List Event :=
  ((Meter.start start total).run polls).filterMap fun reading =>
    reading.report.map fun p => .dataSend id p.bytes p.total

def polled : Delivery → Polled IoError
  | .data bytes => .chunk bytes
  | .failed e => .failed e

def eventsOf (fs : FileSystem) (id : RequestId) (start : Time) (times : List Time)
    (p : Payload) : Except RoomError (List Event) :=
  match p with
  | .multipart body =>
    (body.drain fs).map fun ds =>
      events id start body.contentLength (times.zip (ds.map polled ++ [.ended]))
  | _ => .ok []

end Outbound.Upload

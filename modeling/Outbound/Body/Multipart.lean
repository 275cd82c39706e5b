import Outbound.File.Resolver
import Outbound.Request.Descriptor
import Outbound.Text.Quoted
import Outbound.Word

/-! A body of several parts. Each part has a head, its content and a line break; a boundary stands
in front of each head and behind the last part. The parts are looked at in order, and the first that
is invalid decides. -/

namespace Outbound

/-- The result of a trial that asks for files: which references were asked for, and the outcome. -/
structure Trial (α : Type) (ε : Type := Failure) where
  asked : List String := []
  outcome : Except ε α

namespace Trial

variable {α β ε : Type}

def fail (e : ε) : Trial α ε := { outcome := .error e }

def succeed (a : α) : Trial α ε := { outcome := .ok a }

def andThen (t : Trial α ε) (next : α → Trial β ε) : Trial β ε :=
  match t.outcome with
  | .error e => ⟨t.asked, .error e⟩
  | .ok a => ⟨t.asked ++ (next a).asked, (next a).outcome⟩

/-- The same trial as a part of one that may break off as well. -/
def halting (t : Trial α) : Trial α Halt := ⟨t.asked, t.outcome.mapError .failure⟩

def ask (resolve : FileResolver) (uri : String) : Trial ResolvedFile :=
  ⟨[uri], match resolve uri with
    | some file => .ok file
    | none => .error (.fileNotFound uri)⟩

theorem andThen_eq_ok_iff {t : Trial α ε} {next : α → Trial β ε} {b : β} :
    (t.andThen next).outcome = .ok b ↔ ∃ a, t.outcome = .ok a ∧ (next a).outcome = .ok b := by
  unfold andThen
  cases t.outcome <;> simp

theorem halting_eq_ok_iff {t : Trial α} {a : α} :
    t.halting.outcome = .ok a ↔ t.outcome = .ok a := by
  unfold halting
  cases t.outcome with
  | error f => exact iff_of_false nofun nofun
  | ok b =>
    rw [Except.ok.injEq]
    exact ⟨Except.ok.inj, congrArg Except.ok⟩

end Trial

namespace Multipart

inductive Content
  | bytes (data : Bytes)
  | stream (source : ByteSource)
  deriving DecidableEq, Repr, Inhabited

def Content.drain (fs : FileSystem) : Content → Except RoomError (List Delivery)
  | .bytes data => .ok [.data data]
  | .stream source => source.drain fs

structure Segment where
  fields : FieldList
  contentType : Option String
  content : Content
  length : Option Nat
  deriving DecidableEq, Repr, Inhabited

end Multipart

structure Multipart where
  boundary : String
  mediaType : String
  segments : List Multipart.Segment
  deriving DecidableEq, Repr, Inhabited

namespace Multipart

def defaultType : String := "multipart/form-data"

def lineBreak : List Char := ['\r', '\n']

def line (name value : String) : List Char :=
  name.toList ++ ':' :: ' ' :: value.toList ++ lineBreak

def Segment.head (boundary : String) (s : Segment) : Bytes :=
  Utf8.encode <|
    '-' :: '-' :: boundary.toList ++ lineBreak ++
      s.fields.fields.flatMap (fun f => line f.name f.value) ++
      (s.contentType.map (line "Content-Type")).getD [] ++
      (s.length.map fun n => line "Content-Length" (String.ofList (Ascii.decimal n))).getD [] ++
      lineBreak

def closing (boundary : String) : Bytes :=
  Utf8.encode ('-' :: '-' :: boundary.toList ++ '-' :: '-' :: lineBreak)

/-- Reads the headers of a part. Type and length are taken out of them. -/
def segmentFields (userAgent : Option String) (part : Part) :
    Except Failure (FieldList × Option String) :=
  match FieldList.build? part.headers userAgent false with
  | none => .error .invalidPartHeaders
  | some l =>
    .ok ((l.removeAll Header.contentType).removeAll Header.contentLength, l.contentType?)

def segment (resolve : FileResolver) (userAgent : Option String) (part : Part) : Trial Segment :=
  match segmentFields userAgent part with
  | .error f => .fail f
  | .ok (fields, contentType) =>
    match part.content with
    | none => .fail .unrecognizedPart
    | some (.text text) =>
      let data := Utf8.encode text.toList
      .succeed ⟨fields, contentType, .bytes data, some data.length⟩
    | some (.file uri) =>
      if contentType.isNone then .fail .missingPartContentType
      else (Trial.ask resolve uri).andThen fun file =>
        .succeed ⟨fields, contentType, .stream file.source, file.length⟩

def readParts (resolve : FileResolver) (userAgent : Option String) :
    List Part → Trial (List Segment)
  | [] => .succeed []
  | part :: parts =>
    (segment resolve userAgent part).andThen fun s =>
      (readParts resolve userAgent parts).andThen fun ss => .succeed (s :: ss)

def assemble (resolve : FileResolver) (userAgent : Option String) (boundary mediaType : String)
    (parts : List Part) : Trial Multipart :=
  (readParts resolve userAgent parts).andThen fun ss => .succeed ⟨boundary, mediaType, ss⟩

def contentType (m : Multipart) : String := m.mediaType ++ "; boundary=" ++ m.boundary

def Segment.encodedLength (boundary : String) (s : Segment) : Option Nat :=
  s.length.map fun n => (s.head boundary).length + n + lineBreak.length

def closingLength (boundary : String) : Nat := 2 * 2 + boundary.utf8ByteSize + lineBreak.length

def contentLength (m : Multipart) : Option Nat :=
  m.segments.foldr (fun s total => do return (← s.encodedLength m.boundary) + (← total))
    (some (closingLength m.boundary))

/-- What is added up for the length: the closing line, and the parts up to the first whose length is
unknown. -/
def counted (m : Multipart) : Nat :=
  (m.segments.takeWhile (·.length.isSome)).foldr
    (fun s total => (s.encodedLength m.boundary).getD 0 + total) (closingLength m.boundary)

/-- Whether 64 bits hold the sum. -/
def countable (m : Multipart) : Bool := m.counted < Word.count64

def Segment.drain (fs : FileSystem) (boundary : String) (s : Segment) :
    Except RoomError (List Delivery) :=
  (s.content.drain fs).map fun content =>
    .data (s.head boundary) :: content ++ [.data (Utf8.encode lineBreak)]

def drain (fs : FileSystem) (m : Multipart) : Except RoomError (List Delivery) :=
  (m.segments.mapM (Segment.drain fs m.boundary)).map fun pieces =>
    pieces.flatten ++ [.data (closing m.boundary)]

def debug (m : Multipart) : String :=
  "MultipartBody \x7b boundary: " ++ Text.quote m.boundary ++ ", media_type: " ++
    Text.quote m.mediaType ++ ", parts: " ++ toString m.segments.length ++ " \x7d"

end Multipart
end Outbound

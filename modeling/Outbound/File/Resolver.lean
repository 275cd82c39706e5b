import Outbound.File.Source
import Outbound.Url.FilePath

/-! Finding what a reference to a file stands for. References to files of this machine are absolute
paths and `file` URLs; others are known to the caller alone. Finding a file looks at its length and
does not open it. -/

namespace Outbound

structure ResolvedFile where
  source : ByteSource
  length : Option Nat
  deriving DecidableEq, Repr, Inhabited

namespace ResolvedFile

def ofBytes (data : Bytes) : ResolvedFile := ⟨.ofBytes data, some data.length⟩

end ResolvedFile

def showLength : Option Nat → String
  | none => "None"
  | some n => "Some(" ++ toString n ++ ")"

def ResolvedFile.debug (f : ResolvedFile) : String :=
  "ResolvedFile \x7b length: " ++ showLength f.length ++ ", .. \x7d"

abbrev FileResolver := String → Option ResolvedFile

namespace FileResolver

def defaultChunkSize : Nat := 8192

def pathFor? (uri : String) : Option String :=
  if "file:".toList.isPrefixOf uri.toList then
    match Url.parse uri with
    | .ok u => u.filePath?
    | .error _ => none
  else if uri.toList.head? = some '/' then some uri
  else none

/-- Finds files of this machine. Chunks have at least one byte. -/
def machine (fs : FileSystem) (chunkSize : Nat) : FileResolver := fun uri => do
  let path ← pathFor? uri
  let length ← fs.length? path
  some ⟨.file path (max 1 chunkSize), some length⟩

def orElse (first second : FileResolver) : FileResolver := fun uri => first uri <|> second uri

end FileResolver
end Outbound

import Outbound.Text.Blank
import Outbound.File.Handle

/-! Files and directories by their absolute paths. A path is walked from the root: every step has to
start in a directory, a point stays there, and two points go up. -/

namespace Outbound

abbrev Location := List String

/-- A directory is one of those listed, or on the way to one. -/
structure FileSystem where
  files : List (Location × Bytes) := []
  directories : List Location := []
  deriving DecidableEq, Repr, Inhabited

namespace FileSystem

def content? (fs : FileSystem) (l : Location) : Option Bytes :=
  (fs.files.find? (·.1 = l)).map (·.2)

def isDirectory (fs : FileSystem) (l : Location) : Bool :=
  l.isEmpty || fs.directories.any l.isPrefixOf

def walk (fs : FileSystem) (l : Location) : List String → Option Location
  | [] => some l
  | name :: names =>
    if !fs.isDirectory l then none
    else if name = "" || name = "." then fs.walk l names
    else if name = ".." then fs.walk l.dropLast names
    else fs.walk (l ++ [name]) names

def pathLimit : Nat := 4096

def locate? (fs : FileSystem) (path : String) : Option Location :=
  if pathLimit ≤ path.utf8ByteSize then none
  else match path.toList with
  | '/' :: rest => fs.walk [] ((Text.split '/' rest).map String.ofList)
  | _ => none

def write (fs : FileSystem) (l : Location) (data : Bytes) : FileSystem :=
  if fs.isDirectory l then fs
  else { files := (l, data) :: fs.files.filter (·.1 ≠ l)
         directories := l.dropLast :: fs.directories }

/-- Deletes a file. Directories stay, also when nothing is left in them. -/
def delete (fs : FileSystem) (l : Location) : FileSystem :=
  { fs with files := fs.files.filter (·.1 ≠ l) }

def length? (fs : FileSystem) (path : String) : Option Nat := do
  (← fs.content? (← fs.locate? path)).length

/-- What opening a file gives. A directory can be opened, too, but not read. -/
def openFile (fs : FileSystem) (path : String) : Except IoError Handle :=
  match fs.locate? path with
  | none => .error ⟨.notFound, "No such file or directory (os error 2)"⟩
  | some l =>
    match fs.content? l with
    | some data => .ok (.start data)
    | none =>
      if fs.isDirectory l then
        .ok (.start [] [{ answer := .fails ⟨.isADirectory, "Is a directory (os error 21)"⟩ }])
      else .error ⟨.notFound, "No such file or directory (os error 2)"⟩

theorem openFile_eq_start {fs : FileSystem} {path : String} {l : Location} {data : Bytes}
    (hlocated : fs.locate? path = some l) (hdata : fs.content? l = some data) :
    fs.openFile path = .ok (.start data) := by
  simp [openFile, hlocated, hdata]

end FileSystem
end Outbound

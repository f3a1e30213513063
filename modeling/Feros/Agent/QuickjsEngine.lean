import Feros.Library.FileCalls
import Feros.Library.Run
/-! # The script engine

The file functions of a tool script.  A script names files by strings; they are taken below the sandbox, a
directory of the host.  A sandbox given by a relative path is the absolute path it stands for.

* **`resolveSandboxPath`**: the path of a file, or none if the string is refused.
* **`sandboxFileRead`**, **`sandboxFileWrite`**, **`sandboxFileExists`**: the functions a script can call.
* **`ScriptCall`**: a call of a script, and **`step`**, what it does to the disk. -/

namespace Feros.QuickjsEngine

open Posix

/-- Maximum bytes per `file_write` call. -/
def maxFileSize : ℕ := 1048576

/-- Maximum number of files in the sandbox. -/
def maxSandboxFiles : ℕ := 100

/-! ## Paths -/

/-- The segments between the slashes of a path. -/
def segments (path : String) : List String := (path.toList.splitOn '/').map String.ofList

def isAbsolute (path : String) : Bool := path.toList.head? == some '/'

/-- The path without its last component. -/
def parent? (path : List String) : Option (List String) :=
  if components path = [] then none else some (components path).dropLast

def resolveSandboxPath (disk : Volume) (sandbox : List String) (relative : String) : Option (List String) :=
  if relative.isEmpty then none
  else if isAbsolute relative then none
  -- On this system a component is no prefix, and the root only if the path is absolute.
  else if (segments relative).contains ".." then none
  else
    let fullPath := sandbox ++ segments relative
    match parent? fullPath with
    | none => some fullPath
    | some parent =>
      if disk.pathExists parent then
        match disk.canonicalize parent with
        | .ok canonicalParent =>
          match disk.canonicalize sandbox with
          | .ok canonicalSandbox => if canonicalSandbox.isPrefixOf canonicalParent then some fullPath else none
          | .error _ => some fullPath
        | .error _ => some fullPath
      else some fullPath

/-! ## The functions of a script -/

def notEnabled : String := "Error: file I/O not enabled"

def invalidPath (path : String) : String := "Error: invalid path '" ++ path ++ "'"

def sandboxFileRead (disk : Volume) (sandbox : Option (List String)) (path : String) : Volume × String :=
  match sandbox with
  | none => (disk, notEnabled)
  | some sb =>
    match resolveSandboxPath disk sb path with
    | none => (disk, invalidPath path)
    | some fullPath =>
      match disk.readToString fullPath with
      | (disk, .ok text) => (disk, text)
      | (disk, .error e) => (disk, "Error reading '" ++ path ++ "': " ++ e.message)

/-- The files below a directory; the recursion over the entries is `Forest.files`. -/
def countFilesRecursive (disk : Volume) (dir : List String) : ℕ :=
  match disk.resolve dir with
  | .ok place => disk.tree.filesAt place
  | .error _ => 0

/-- The directory of a file is made. -/
def createParent (disk : Volume) (fullPath : List String) : Volume × Except IoError Unit :=
  match parent? fullPath with
  | none => (disk, .ok ())
  | some parent => disk.createDirAll parent

def sandboxFileWrite (disk : Volume) (sandbox : Option (List String)) (path content : String) : Volume × String :=
  match sandbox with
  | none => (disk, notEnabled)
  | some sb =>
    if content.utf8ByteSize > maxFileSize then
      (disk, "Error: content too large (" ++ toString content.utf8ByteSize ++ " bytes, max " ++
        toString maxFileSize ++ ")")
    else
      match resolveSandboxPath disk sb path with
      | none => (disk, invalidPath path)
      | some fullPath =>
        match disk.createDirAll sb with
        | (disk, .error e) => (disk, "Error creating sandbox: " ++ e.message)
        | (disk, .ok ()) =>
          if countFilesRecursive disk sb ≥ maxSandboxFiles ∧ disk.pathExists fullPath = false then
            (disk, "Error: sandbox file limit reached (max " ++ toString maxSandboxFiles ++ ")")
          else
            match createParent disk fullPath with
            | (disk, .error e) => (disk, "Error creating directory: " ++ e.message)
            | (disk, .ok ()) =>
              match disk.write fullPath content.toUTF8 with
              | (disk, .ok ()) => (disk, "ok")
              | (disk, .error e) => (disk, "Error writing '" ++ path ++ "': " ++ e.message)

def sandboxFileExists (disk : Volume) (sandbox : Option (List String)) (path : String) : Bool :=
  match sandbox with
  | none => false
  | some sb =>
    match resolveSandboxPath disk sb path with
    | none => false
    | some fullPath => disk.pathExists fullPath

/-! ## Runs -/

/-- A call of a script. -/
inductive ScriptCall where
  | fileRead (path : String)
  | fileWrite (path content : String)
  | fileExists (path : String)
  deriving DecidableEq, Repr

/-- **What a call does to the disk.** -/
def step (sandbox : List String) (disk : Volume) : ScriptCall → Volume
  | .fileRead path => (sandboxFileRead disk (some sandbox) path).1
  | .fileWrite path content => (sandboxFileWrite disk (some sandbox) path content).1
  | .fileExists _ => disk

end Feros.QuickjsEngine

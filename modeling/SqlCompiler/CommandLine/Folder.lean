import SqlCompiler.RequestFile.Failure

/-!
# Folders of files

The command reads a file by a path that starts in the folder where it runs.  A
folder here holds texts under names and has no folders inside.  A path is
followed step by step: an empty step and a single dot stay, two dots lead out
of the folder, and nothing but more folders is known outside.  Only the last
step may name a file, so a slash behind a file is refused.
-/

namespace SqlCompiler

/-- The files of a folder: their names and their texts. -/
structure Folder where
  files : List (String × String)
  deriving Repr

namespace Folder

def nameLimit : Nat := 255

def pathLimit : Nat := 4096

def textOf? (folder : Folder) (name : String) : Option String :=
  (folder.files.find? (·.1 == name)).map Prod.snd

/-- Follow the steps of a path from inside the folder or from outside. -/
def follow (folder : Folder) (inside : Bool) : List String → Except FileProblem String
  | [] => .error .isFolder
  | step :: rest =>
      if step = "" ∨ step = "." then folder.follow inside rest
      else if step = ".." then folder.follow false rest
      else if nameLimit < step.utf8ByteSize then .error .nameTooLong
      else
        match if inside then folder.textOf? step else none with
        | none => .error .missing
        | some text => if rest.isEmpty then .ok text else .error .notFolder

def read (folder : Folder) (path : String) : Except FileProblem String :=
  if path.toList.contains (Char.ofNat 0) then .error .nameWithZero
  else if path.isEmpty then .error .missing
  else if pathLimit ≤ path.utf8ByteSize then .error .nameTooLong
  else folder.follow (path.toList.head? != some '/') (path.splitOn "/")

/-- A single dot at the front of a path changes nothing. -/
@[simp]
theorem follow_dot (folder : Folder) (inside : Bool) (rest : List String) :
    folder.follow inside ("." :: rest) = folder.follow inside rest := by
  rw [follow]
  simp

/-- No path that has left the folder reads a file. -/
theorem follow_outside (folder : Folder) (steps : List String) (text : String) :
    folder.follow false steps ≠ .ok text := by
  induction steps with
  | nil => simp [follow]
  | cons step rest ih =>
      rw [follow]
      split
      · exact ih
      · split
        · exact ih
        · split <;> simp

end Folder

end SqlCompiler

/-! Files as a command sees them: named contents that can be read and written, in whatever
setting, and a directory kept as a value. -/

namespace ScentedGrid.CommandLine

inductive FileFault where
  | missing
  | other (cause : String)

def FileFault.text : FileFault → String
  | missing => "No such file or directory (os error 2)"
  | other cause => cause

structure FileAccess (m : Type → Type) where
  read : String → m (Except FileFault (List UInt8))
  write : String → List UInt8 → m (Except FileFault Unit)

/-- A directory of files that has no directories in it. -/
structure Directory where
  files : List (String × List UInt8)

namespace Directory

/-- The parts of a path between its slashes. -/
def parts : List Char → List (List Char)
  | [] => [[]]
  | '/' :: rest => [] :: parts rest
  | c :: rest =>
    match parts rest with
    | [] => [[c]]
    | part :: more => (c :: part) :: more

/-- A part that leads nowhere else: none at all, or one dot. -/
def isStill (part : List Char) : Bool := part.isEmpty || part == ['.']

/-- The file in the directory that a path can lead to. Only parts that lead nowhere else come
before its name and nothing comes after it; a path that begins with a slash leads elsewhere. -/
def fileName? (path : String) : Option String :=
  match parts path.toList with
  | [] :: _ => none
  | parts =>
    match parts.dropWhile isStill with
    | [name] => if name == ['.', '.'] then none else some (String.ofList name)
    | _ => none

def read (directory : Directory) (path : String) : Except FileFault (List UInt8) :=
  match (fileName? path).bind fun name => directory.files.lookup name with
  | some content => .ok content
  | none => .error .missing

/-- A written file takes the place of one of the same name. -/
def write (directory : Directory) (path : String) (content : List UInt8) :
    Except FileFault Directory :=
  match fileName? path with
  | some name => .ok ⟨(name, content) :: directory.files.filter (·.1 != name)⟩
  | none => .error .missing

def access : FileAccess (StateM Directory) :=
  { read := fun path => return (← get).read path
    write := fun path content => do
      match (← get).write path content with
      | .ok directory => do
        set directory
        return .ok ()
      | .error fault => return .error fault }

end Directory
end ScentedGrid.CommandLine

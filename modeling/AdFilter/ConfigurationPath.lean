import AdFilter.Text.Basic

namespace AdFilter

/-!
# Where the configuration is kept

The directory for configurations depends on the platform.  Paths are written in normal form: without empty parts
and single points, and with one or exactly two slashes in front if they are absolute.
-/

/-- A path: the slashes in front and the parts between slashes. -/
structure FilePath where
  root : Text
  parts : List Text
  deriving Repr, DecidableEq

namespace FilePath

/-- The slashes that the normal form of a path has in front. -/
def rootOf (path : Text) : Text :=
  match (path.takeWhile (· = '/')).length with
  | 0 => []
  | 2 => ['/', '/']
  | _ => ['/']

/-- The path that a text stands for. -/
def ofText (path : Text) : FilePath :=
  ⟨rootOf path, (List.splitOn '/' path).filter fun part => part ≠ [] && part ≠ ['.']⟩

/-- The path of something in a directory. -/
def child (directory : FilePath) (name : Text) : FilePath :=
  ⟨directory.root, directory.parts ++ [name]⟩

/-- The text of a path. -/
def toText (path : FilePath) : Text :=
  path.root ++ List.intercalate ['/'] path.parts

end FilePath

/-- The variables that say where directories are. -/
structure DirectoryVariables where
  home : Text
  configHome : Option Text
  localAppData : Option Text
  deriving Repr, DecidableEq

/-- A family of platforms that keep configurations in the same place. -/
inductive Platform where
  | windows
  | mac
  | other
  deriving Repr, DecidableEq

namespace Platform

/-- The platform with a name. -/
def ofName (name : Text) : Platform :=
  if name = "win32".toList then
    .windows
  else if name = "darwin".toList then
    .mac
  else
    .other

end Platform

namespace DirectoryVariables

/-- The home directory: slashes at the end do not count, and without a name it is the root. -/
def homePath (environment : DirectoryVariables) : FilePath :=
  let name := (environment.home.reverse.dropWhile (· = '/')).reverse
  FilePath.ofText (if name = [] then ['/'] else name)

/-- The directory that holds the configurations of all programs. -/
def baseDirectory (environment : DirectoryVariables) : Platform → FilePath
  | .windows =>
      match environment.localAppData with
      | some path => FilePath.ofText path
      | none => (environment.homePath.child "AppData".toList).child "Local".toList
  | .mac => (environment.homePath.child "Library".toList).child "Application Support".toList
  | .other =>
      match environment.configHome with
      | some path => FilePath.ofText path
      | none => environment.homePath.child ".config".toList

/-- The directory that holds the configuration. -/
def configDirectory (environment : DirectoryVariables) (platform : Platform) : FilePath :=
  (environment.baseDirectory platform).child "abprules".toList

end DirectoryVariables

end AdFilter

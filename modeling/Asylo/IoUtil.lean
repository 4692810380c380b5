import Mathlib

/-! Path normalization (`platform/posix/io/util.cc`), which `CanonicalizePath`
applies to every path before it picks a handler for it.

`NormalizePath` scans the path for the directory names between slashes and
keeps a stack of them: an empty name and `.` are left out, `..` pops the last
directory (the root stays the root), and any other name is pushed. The result
is `/` followed by the stack joined with `/`. A path is a list of characters
here. -/
namespace Asylo.Io.Util

/-- `path.find_first_of(c, pos)`: the first `c` at or after `pos`, `npos`
(`none`) when there is none. -/
def findFirstOf (path : List Char) (c : Char) (pos : Nat) : Option Nat :=
  ((path.drop pos).idxOf? c).map (pos + ·)

/-- What the loop of `NormalizePath` does with one directory name. -/
def resolveName (directories : List (List Char)) (name : List Char) : List (List Char) :=
  -- an empty name or "." is left out entirely
  if name.isEmpty || name == ['.'] then directories
  -- ".." backs up by one; at the root it stays at the root
  else if name == ['.', '.'] then directories.dropLast
  else directories ++ [name]

/-- The `while` loop of `NormalizePath` from `current_directory`, for at most
`fuel` rounds. -/
def normalizeLoop (path : List Char) : Nat → Nat → List (List Char) → List (List Char)
  | 0, _, directories => directories
  | fuel + 1, currentDirectory, directories =>
    if currentDirectory < path.length then
      let nextDirectory := (findFirstOf path '/' currentDirectory).getD path.length
      let name := (path.drop currentDirectory).take (nextDirectory - currentDirectory)
      normalizeLoop path fuel (nextDirectory + 1) (resolveName directories name)
    else directories

/-- `NormalizePath(path)`. Each round moves `current_directory` forward by at
least one, so `path.size()` rounds finish the loop (`normalizeLoop_eq`). -/
def normalizePath (path : List Char) : List Char :=
  '/' :: ['/'].intercalate (normalizeLoop path path.length 0 [])

example : normalizePath "/foo/bar/baz/../../qux".toList = "/foo/qux".toList := by decide

example : normalizePath "/foo/bar\\/baz/../qux".toList = "/foo/bar\\/qux".toList := by decide

end Asylo.Io.Util

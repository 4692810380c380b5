import Asylo.IoUtil
import Asylo.OrderedMap

/-! The virtual path handlers of the `IOManager`
(`platform/posix/io/io_manager.cc`): the map from path prefixes to handlers,
`RegisterVirtualPathHandler` and `DeregisterVirtualPathHandler`,
`HandlerForPath`, which picks the handler of a path, and `CanonicalizePath`,
which turns a path into the absolute normal form it is looked up by.

`prefix_to_handler_` is a `std::map` ordered by `std::string` comparison,
which is the lexicographic order of the characters. A handler is its pointer:
an element of any type with equality, `none` for a null pointer.

`HandlerForPath` takes the `lower_bound` of the prefix it is looking for; if
that is not the prefix itself it steps back to the entry before, compares it
with the prefix (`absl::c_mismatch`), and returns its handler if the entry is
the prefix up to a slash. Otherwise it backs up inside that entry to the
nearest slash before the mismatch and looks again for what precedes it. -/
namespace Asylo.Io

/-- The `errno` values of the `IOManager`. -/
inductive Errno
  | ENOENT
  | EACCES
  | EBADF
  | EINVAL
  | EPERM
  | EFAULT
  | ENOSYS
  | EMFILE
  | ENFILE
  | EBADE
  deriving DecidableEq, Repr

/-- `prefix_to_handler_`. -/
abbrev PrefixToHandler (α : Type) := OrderedMap (List Char) α

variable {α : Type}

/-- `RegisterVirtualPathHandler(path_prefix, handler)`: a null handler, and a
prefix that is neither empty nor starts with a slash and ends without one, are
refused; `emplace` keeps a handler already registered under the prefix. -/
def registerVirtualPathHandler (prefixToHandler : PrefixToHandler α) (pathPrefix : List Char)
    (handler : Option α) : Bool × PrefixToHandler α :=
  match handler with
  | none => (false, prefixToHandler)
  | some handler =>
    if pathPrefix ≠ [] ∧ (pathPrefix.head? ≠ some '/' ∨ pathPrefix.getLast? = some '/') then
      (false, prefixToHandler)
    else (true, prefixToHandler.emplace pathPrefix handler)

/-- `DeregisterVirtualPathHandler(path_prefix)`. -/
def deregisterVirtualPathHandler (prefixToHandler : PrefixToHandler α) (pathPrefix : List Char) :
    PrefixToHandler α :=
  prefixToHandler.erase pathPrefix

/-- `absl::c_mismatch(prefix, current)`: how far the two agree, at most the
whole of `prefix`. -/
def mismatch : List Char → List Char → Nat
  | c :: pathPrefix, d :: current => if c = d then mismatch pathPrefix current + 1 else 0
  | _, _ => 0

/-- `while (*end_prefix != '/') --end_prefix;` from position `pos` of
`pathPrefix`: the last slash at or before `pos`, where the position past the
end holds the terminating NUL. `none` where the loop would step before the
beginning. -/
def backUpToSlash (pathPrefix : List Char) : Nat → Option Nat
  | 0 => if pathPrefix[0]? = some '/' then some 0 else none
  | pos + 1 => if pathPrefix[pos + 1]? = some '/' then some (pos + 1) else backUpToSlash pathPrefix pos

/-- How one round of the loop of `HandlerForPath` ends. -/
inductive Round (α : Type)
  /-- It returns a handler. -/
  | found (handler : α)
  /-- It leaves the loop: no handler. -/
  | missing
  /-- It looks again, for a new `current_prefix`. -/
  | next (currentPrefix : List Char)
  deriving DecidableEq, Repr

/-- One round of the `while (true)` loop of `HandlerForPath`, looking for
`current_prefix`. -/
def handlerForPathRound (prefixToHandler : PrefixToHandler α) (currentPrefix : List Char) : Round α :=
  let iter := prefixToHandler.lowerBound currentPrefix
  -- lower_bound can land directly on a match
  match prefixToHandler.entries[iter]?.filter (·.1 == currentPrefix) with
  | some (_, handler) => .found handler
  | none =>
    match iter with
    -- no prefix before the lower bound: no handler
    | 0 => .missing
    | iter + 1 =>
      match prefixToHandler.entries[iter]? with
      | none => .missing
      | some (pathPrefix, handler) =>
        let endPrefix := mismatch pathPrefix currentPrefix
        -- the whole prefix, and then a slash in the current prefix
        if endPrefix = pathPrefix.length ∧ currentPrefix[endPrefix]? = some '/' then .found handler
        else
          match backUpToSlash pathPrefix endPrefix with
          | none => .missing
          | some endPrefix => .next (pathPrefix.take endPrefix)

/-- The loop of `HandlerForPath`, for at most `fuel` rounds. -/
def handlerForPathLoop (prefixToHandler : PrefixToHandler α) : Nat → List Char → Option α
  | 0, _ => none
  | fuel + 1, currentPrefix =>
    match handlerForPathRound prefixToHandler currentPrefix with
    | .found handler => some handler
    | .missing => none
    | .next currentPrefix => handlerForPathLoop prefixToHandler fuel currentPrefix

/-- `HandlerForPath(path)`. Every round looks for a shorter prefix than the
last (`handlerForPathLoop_fuel`), so `path.size() + 1` rounds finish it. -/
def handlerForPath (prefixToHandler : PrefixToHandler α) (path : List Char) : Option α :=
  handlerForPathLoop prefixToHandler (path.length + 1) path

/-- `CanonicalizePath(path)`, with the current working directory. A relative
path is put after the working directory and must resolve to the handler of
the working directory, if it has one. -/
def canonicalizePath [DecidableEq α] (prefixToHandler : PrefixToHandler α) (currentWorkingDirectory : List Char)
    (path : List Char) : Except (Errno × String) (List Char) :=
  if path = [] then .error (.ENOENT, "Cannot canonicalize empty path")
  else if path.head? ≠ some '/' then
    if currentWorkingDirectory = [] then
      .error (.ENOENT, "Canonicalization of relative path before initialization")
    else
      let requiredHandler := handlerForPath prefixToHandler currentWorkingDirectory
      let ret := Util.normalizePath (currentWorkingDirectory ++ '/' :: path)
      if requiredHandler.isSome ∧ handlerForPath prefixToHandler ret ≠ requiredHandler then
        .error (.EACCES, "Relative path resolution across access domains")
      else .ok ret
  else .ok (Util.normalizePath path)

end Asylo.Io

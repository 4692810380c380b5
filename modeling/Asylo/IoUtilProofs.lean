import Asylo.IoUtil
import Asylo.ListSplitOn

/-! What `NormalizePath` computes, and why `CanonicalizePath` may normalize a
relative path after it has put the working directory in front.

The loop looks for the next slash and takes the name before it, so it resolves
the parts of `path.splitOn '/'` one after another (`normalizeLoop_eq`). The
stack it leaves holds only names that are not empty, `.` or `..` and have no
slash; joined with slashes, such names split back into themselves. From this
the normal form follows (`normalizePath_canonical`), and also that a normal
form resolves to its own names, so normalizing twice changes nothing and
normalizing a prefix first does not change the result (`normalizePath_append`). -/
namespace Asylo.Io.Util

/-- Resolving names one after another from a stack of directories. -/
def resolve (directories : List (List Char)) (names : List (List Char)) : List (List Char) :=
  names.foldl resolveName directories

@[simp] theorem resolve_nil (directories : List (List Char)) : resolve directories [] = directories := rfl

@[simp] theorem resolve_cons (directories : List (List Char)) (name : List Char) (names : List (List Char)) :
    resolve directories (name :: names) = resolve (resolveName directories name) names := rfl

theorem resolve_append (directories : List (List Char)) (names names' : List (List Char)) :
    resolve directories (names ++ names') = resolve (resolve directories names) names' :=
  List.foldl_append

@[simp] theorem resolveName_nil (directories : List (List Char)) : resolveName directories [] = directories := rfl

/-! ## The scan for the next slash -/

theorem findFirstOf_of_split {path : List Char} {pos : Nat} {name tail : List Char}
    (split : path.drop pos = name ++ '/' :: tail) (absent : '/' ∉ name) :
    findFirstOf path '/' pos = some (pos + name.length) := by
  rw [findFirstOf, split, List.idxOf?_append_cons_of_not_mem tail absent]
  rfl

theorem findFirstOf_of_not_mem {path : List Char} {pos : Nat} (absent : '/' ∉ path.drop pos) :
    findFirstOf path '/' pos = none := by
  rw [findFirstOf, List.idxOf?_eq_none_iff.mpr absent]
  rfl

/-- Past the end there is one empty name, which changes nothing. -/
theorem resolve_drop_of_le {path : List Char} {pos : Nat} (directories : List (List Char))
    (past : path.length ≤ pos) : resolve directories ((path.drop pos).splitOn '/') = directories := by
  rw [List.drop_eq_nil_of_le past, List.splitOn_nil]
  rfl

/-- The loop resolves the parts of what is left of the path, one per round,
as long as it has a round for each character left. -/
theorem normalizeLoop_eq (path : List Char) :
    ∀ (fuel currentDirectory : Nat) (directories : List (List Char)), path.length - currentDirectory ≤ fuel →
      normalizeLoop path fuel currentDirectory directories =
        resolve directories ((path.drop currentDirectory).splitOn '/')
  | 0, currentDirectory, directories, enough => by
    rw [normalizeLoop, resolve_drop_of_le directories (by omega)]
  | fuel + 1, currentDirectory, directories, enough => by
    rw [normalizeLoop]
    split
    · rename_i inside
      dsimp only
      by_cases slash : '/' ∈ path.drop currentDirectory
      -- the name runs up to the first slash; the next round starts past it
      · obtain ⟨name, tail, split, absent⟩ := List.exists_append_cons_of_mem_first '/' slash
        have lengths := congrArg List.length split
        simp only [List.length_drop, List.length_append, List.length_cons] at lengths
        have rest : path.drop (currentDirectory + name.length + 1) = tail := by
          rw [Nat.add_assoc, ← List.drop_drop, split, ← List.drop_drop, List.drop_left]
          rfl
        rw [findFirstOf_of_split split absent, Option.getD_some, Nat.add_sub_cancel_left, split, List.take_left,
          normalizeLoop_eq path fuel _ _ (by omega), rest, List.splitOn_append_cons_self_of_not_mem absent, resolve_cons]
      -- no slash is left: the rest is the last name, and the loop ends
      · rw [findFirstOf_of_not_mem slash, Option.getD_none,
          List.take_of_length_le (by simp), normalizeLoop_eq path fuel _ _ (by omega),
          resolve_drop_of_le _ (by omega), List.splitOn_eq_singleton slash, resolve_cons, resolve_nil]
    · rename_i outside
      rw [resolve_drop_of_le directories (by omega)]

/-- `NormalizePath` joins what resolving the parts of the path leaves. -/
theorem normalizePath_eq (path : List Char) :
    normalizePath path = '/' :: ['/'].intercalate (resolve [] (path.splitOn '/')) := by
  rw [normalizePath, normalizeLoop_eq path path.length 0 [] (by omega), List.drop_zero]

/-! ## The stack of directories -/

/-- A name that the stack may hold: not empty, `.` or `..`, and without a
slash. -/
structure GoodName (name : List Char) : Prop where
  nonempty : name ≠ []
  notDot : name ≠ ['.']
  notDotDot : name ≠ ['.', '.']
  noSlash : '/' ∉ name

/-- A good name is pushed. -/
theorem resolveName_of_good {name : List Char} (good : GoodName name) (directories : List (List Char)) :
    resolveName directories name = directories ++ [name] := by
  have notEmpty : name.isEmpty = false := List.isEmpty_eq_false_iff.mpr good.nonempty
  have notDot : (name == ['.']) = false := beq_eq_false_iff_ne.mpr good.notDot
  have notDotDot : (name == ['.', '.']) = false := beq_eq_false_iff_ne.mpr good.notDotDot
  simp only [resolveName, notEmpty, notDot, notDotDot, Bool.or_false, Bool.false_eq_true, if_false]

/-- Good names are pushed one after another. -/
theorem resolve_of_good (directories : List (List Char)) :
    ∀ {names : List (List Char)}, (∀ name ∈ names, GoodName name) → resolve directories names = directories ++ names
  | [], _ => by simp
  | name :: names, good => by
    rw [resolve_cons, resolveName_of_good (good name (List.mem_cons_self ..)),
      resolve_of_good _ fun other member => good other (List.mem_cons_of_mem _ member)]
    simp

/-- One name keeps the stack good, if it has no slash. -/
theorem resolveName_good {directories : List (List Char)} {name : List Char}
    (good : ∀ directory ∈ directories, GoodName directory) (noSlash : '/' ∉ name) :
    ∀ directory ∈ resolveName directories name, GoodName directory := by
  unfold resolveName
  split
  · exact good
  · split
    · exact fun directory member => good directory (List.dropLast_subset directories member)
    -- a name that is pushed is none of the names left out
    · rename_i skipped dotDot
      simp only [Bool.or_eq_true, beq_iff_eq, not_or, List.isEmpty_iff] at skipped dotDot
      intro directory member
      rcases List.mem_append.mp member with kept | pushed
      · exact good directory kept
      · rw [List.mem_singleton.mp pushed]
        exact ⟨skipped.1, skipped.2, dotDot, noSlash⟩

/-- Resolving names without slashes keeps the stack good. -/
theorem resolve_good :
    ∀ {directories : List (List Char)} {names : List (List Char)}, (∀ directory ∈ directories, GoodName directory) →
      (∀ name ∈ names, '/' ∉ name) → ∀ directory ∈ resolve directories names, GoodName directory
  | _, [], good, _ => good
  | _, name :: names, good, noSlash => by
    rw [resolve_cons]
    exact resolve_good (resolveName_good good (noSlash name (List.mem_cons_self ..)))
      fun other member => noSlash other (List.mem_cons_of_mem _ member)

/-- The stack that a path resolves to is good. -/
theorem resolve_splitOn_good (path : List Char) : ∀ directory ∈ resolve [] (path.splitOn '/'), GoodName directory :=
  resolve_good (by simp) fun _ member => List.not_mem_of_mem_splitOn '/' member

/-- Good names joined with slashes resolve to themselves. -/
theorem resolve_splitOn_intercalate {directories : List (List Char)}
    (good : ∀ directory ∈ directories, GoodName directory) :
    resolve [] ((['/'].intercalate directories).splitOn '/') = directories := by
  rcases eq_or_ne directories [] with rfl | nonempty
  · rfl
  · rw [List.splitOn_intercalate '/' (fun directory member => (good directory member).noSlash) nonempty,
      resolve_of_good [] good, List.nil_append]

/-! ## The normal form -/

/-- The normal form of a path: a slash first, then names that are not empty,
`.` or `..`; the root `/` alone is the exception. -/
structure Canonical (path : List Char) : Prop where
  startsWithSlash : path.head? = some '/'
  names : path ≠ ['/'] → ∀ name ∈ (path.drop 1).splitOn '/', name ≠ [] ∧ name ≠ ['.'] ∧ name ≠ ['.', '.']

/-- A path in normal form other than the root does not end in a slash: its
last name would be empty. -/
theorem Canonical.getLast?_ne_slash {path : List Char} (canonical : Canonical path) (notRoot : path ≠ ['/']) :
    path.getLast? ≠ some '/' := by
  intro endsInSlash
  obtain ⟨init, rfl⟩ := List.getLast?_eq_some_iff.mp endsInSlash
  cases init with
  | nil => exact notRoot rfl
  | cons first inner =>
    have split : ((first :: inner ++ ['/']).drop 1).splitOn '/' = inner.splitOn '/' ++ [[]] := by
      rw [List.cons_append, List.drop_succ_cons, List.drop_zero, List.splitOn_append_cons_self, List.splitOn_nil]
    have empty := canonical.names notRoot [] (by rw [split]; exact List.mem_append_right _ (List.mem_singleton_self _))
    exact empty.1 rfl

/-- `NormalizePath` gives the normal form. -/
theorem normalizePath_canonical (path : List Char) : Canonical (normalizePath path) := by
  rw [normalizePath_eq]
  have good := resolve_splitOn_good path
  refine ⟨rfl, fun notRoot name member => ?_⟩
  -- past the first slash are the names of the stack, and there is at least one
  have nonempty : resolve [] (path.splitOn '/') ≠ [] := by
    intro empty
    exact notRoot (by rw [empty]; rfl)
  rw [List.drop_succ_cons, List.drop_zero,
    List.splitOn_intercalate '/' (fun directory member => (good directory member).noSlash) nonempty] at member
  exact ⟨(good name member).nonempty, (good name member).notDot, (good name member).notDotDot⟩

/-- A normalized path resolves to the same stack as the path: the slash in
front adds one empty name, and the names after it are pushed again. -/
theorem resolve_splitOn_normalizePath (path : List Char) :
    resolve [] ((normalizePath path).splitOn '/') = resolve [] (path.splitOn '/') := by
  rw [normalizePath_eq, ← List.nil_append ('/' :: _), List.splitOn_append_cons_self, List.splitOn_nil,
    resolve_append]
  exact resolve_splitOn_intercalate (resolve_splitOn_good path)

/-- The paths in normal form are exactly those that `NormalizePath` leaves as
they are. -/
theorem normalizePath_eq_self_iff (path : List Char) : normalizePath path = path ↔ Canonical path := by
  constructor
  · intro fixed
    rw [← fixed]
    exact normalizePath_canonical path
  · intro canonical
    obtain ⟨rest, rfl⟩ : ∃ rest, path = '/' :: rest := by
      cases path with
      | nil => exact absurd canonical.startsWithSlash (by simp)
      | cons first rest =>
        obtain rfl : first = '/' := Option.some.inj canonical.startsWithSlash
        exact ⟨rest, rfl⟩
    rcases eq_or_ne rest [] with rfl | notEmpty
    · rfl
    -- the names after the first slash are good, so resolving them pushes them back
    · have notRoot : '/' :: rest ≠ ['/'] := by simpa using notEmpty
      have good : ∀ name ∈ rest.splitOn '/', GoodName name := fun name member =>
        have named := canonical.names notRoot name (by simpa using member)
        ⟨named.1, named.2.1, named.2.2, List.not_mem_of_mem_splitOn '/' member⟩
      rw [normalizePath_eq, ← List.nil_append ('/' :: rest), List.splitOn_append_cons_self, List.splitOn_nil,
        resolve_append, resolve_of_good _ good]
      simp

theorem normalizePath_idempotent (path : List Char) : normalizePath (normalizePath path) = normalizePath path := by
  rw [normalizePath_eq (normalizePath path), resolve_splitOn_normalizePath, ← normalizePath_eq]

/-- Normalizing a prefix first does not change the normal form of a path
that continues after a slash: what `CanonicalizePath` does when it puts the
working directory in front of a relative path. -/
theorem normalizePath_append (front back : List Char) :
    normalizePath (front ++ '/' :: back) = normalizePath (normalizePath front ++ '/' :: back) := by
  rw [normalizePath_eq, normalizePath_eq (normalizePath front ++ '/' :: back), List.splitOn_append_cons_self,
    List.splitOn_append_cons_self, resolve_append, resolve_append, resolve_splitOn_normalizePath]

/-- `NormalizePath` gives a path in normal form, which does not end in a slash
unless it is the root; normalizing again changes nothing; and normalizing the
part before a slash first does not change the result. -/
theorem normalizePath_canonical_composes :
    (∀ path, Canonical (normalizePath path) ∧
        (normalizePath path ≠ ['/'] → (normalizePath path).getLast? ≠ some '/')) ∧
      (∀ path, normalizePath (normalizePath path) = normalizePath path) ∧
      ∀ front back, normalizePath (front ++ '/' :: back) = normalizePath (normalizePath front ++ '/' :: back) :=
  ⟨fun path => ⟨normalizePath_canonical path, (normalizePath_canonical path).getLast?_ne_slash⟩,
    normalizePath_idempotent, normalizePath_append⟩

end Asylo.Io.Util

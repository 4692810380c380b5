import Asylo.IoManagerPaths
import Asylo.IoUtilProofs

/-! What `HandlerForPath` guarantees, and where it misses the handler of the
longest matching prefix.

Each round of its loop either returns the handler of an entry that is the
prefix it looks for or that prefix up to a slash (`handlerForPathRound_found`),
or looks next for a strictly shorter prefix of it (`handlerForPathRound_next`):
the loop ends within its fuel (`handlerForPathLoop_fuel`), a registered path
finds its own handler (`handlerForPath_of_mem`), and every handler it returns
is registered under a prefix of the path (`handlerForPath_prefix`).

The prefix it returns need not end where a directory name of the path ends,
and it need not be the longest: the backing up happens inside the entry
before the lower bound, which may share less with the path than the prefix
that matches (`handlerForPath_not_longest_prefix`). -/
namespace Asylo.Io

variable {α : Type}

/-! ## `absl::c_mismatch` and the backing up -/

theorem mismatch_le_left : ∀ pathPrefix current : List Char, mismatch pathPrefix current ≤ pathPrefix.length
  | c :: pathPrefix, d :: current => by
    unfold mismatch
    split
    · simpa using mismatch_le_left pathPrefix current
    · simp
  | [], _ => Nat.zero_le _
  | _ :: _, [] => Nat.zero_le _

theorem mismatch_le_right : ∀ pathPrefix current : List Char, mismatch pathPrefix current ≤ current.length
  | c :: pathPrefix, d :: current => by
    unfold mismatch
    split
    · simpa using mismatch_le_right pathPrefix current
    · simp
  | [], _ => Nat.zero_le _
  | _ :: _, [] => Nat.zero_le _

/-- The two agree up to the mismatch. -/
theorem take_mismatch : ∀ pathPrefix current : List Char,
    pathPrefix.take (mismatch pathPrefix current) = current.take (mismatch pathPrefix current)
  | c :: pathPrefix, d :: current => by
    unfold mismatch
    split
    · rename_i same
      rw [List.take_succ_cons, List.take_succ_cons, same, take_mismatch pathPrefix current]
    · rfl
  | [], _ => rfl
  | _ :: _, [] => rfl

/-- Backing up stops at a slash, at or before where it started. -/
theorem backUpToSlash_some {pathPrefix : List Char} :
    ∀ {pos endPrefix : Nat}, backUpToSlash pathPrefix pos = some endPrefix →
      endPrefix ≤ pos ∧ pathPrefix[endPrefix]? = some '/'
  | 0, endPrefix, backed => by
    unfold backUpToSlash at backed
    split at backed
    · rename_i slash
      obtain rfl := Option.some.inj backed.symm
      exact ⟨le_rfl, slash⟩
    · cases backed
  | pos + 1, endPrefix, backed => by
    unfold backUpToSlash at backed
    split at backed
    · rename_i slash
      obtain rfl := Option.some.inj backed.symm
      exact ⟨le_rfl, slash⟩
    · have ⟨before, slash⟩ := backUpToSlash_some backed
      exact ⟨Nat.le_succ_of_le before, slash⟩

/-- A proper prefix sorts first. -/
theorem lt_of_eq_take {shorter longer : List Char} (prefixOf : shorter = longer.take shorter.length)
    (proper : shorter.length < longer.length) : shorter < longer :=
  List.lt_iff_exists.mpr (.inl ⟨prefixOf, proper⟩)

/-- Where the entry before sorts below the current prefix and the entry runs
past the mismatch, so does the current prefix: else it would be a proper
prefix of the entry, and sort below it. -/
theorem mismatch_lt_right {pathPrefix current : List Char} (below : pathPrefix < current)
    (inside : mismatch pathPrefix current < pathPrefix.length) : mismatch pathPrefix current < current.length := by
  rcases Nat.lt_or_eq_of_le (mismatch_le_right pathPrefix current) with shorter | whole
  · exact shorter
  · exfalso
    have prefixOf : current = pathPrefix.take current.length := by
      rw [← whole, take_mismatch, whole, List.take_length]
    exact lt_asymm below (lt_of_eq_take prefixOf (whole ▸ inside))

/-! ## One round of the loop -/

section Round

variable {prefixToHandler : PrefixToHandler α} {currentPrefix : List Char}

/-- A round that returns a handler found it under the prefix it looks for,
or under that prefix up to a slash. -/
theorem handlerForPathRound_found {handler : α}
    (found : handlerForPathRound prefixToHandler currentPrefix = .found handler) :
    ∃ pathPrefix, (pathPrefix, handler) ∈ prefixToHandler.entries ∧
      (pathPrefix = currentPrefix ∨ pathPrefix ++ ['/'] <+: currentPrefix) := by
  unfold handlerForPathRound at found
  dsimp only at found
  split at found
  -- the lower bound is the prefix itself
  · rename_i pathPrefix handler' atBound
    obtain rfl : handler' = handler := Round.found.inj found
    obtain ⟨atIter, same⟩ := Option.filter_eq_some_iff.mp atBound
    exact ⟨pathPrefix, List.mem_of_getElem? atIter, .inl (by simpa using same)⟩
  · split at found
    · cases found
    · split at found
      · cases found
      -- the entry before is the prefix up to a slash
      · rename_i pathPrefix handler' atIter
        split at found
        · rename_i whole
          obtain rfl : handler' = handler := Round.found.inj found
          obtain ⟨ends, slash⟩ := whole
          have agree := take_mismatch pathPrefix currentPrefix
          rw [ends, List.take_length] at agree
          rw [ends] at slash
          have taken : currentPrefix.take (pathPrefix.length + 1) = pathPrefix ++ ['/'] := by
            rw [List.take_add_one, slash, ← agree]
            rfl
          exact ⟨pathPrefix, List.mem_of_getElem? atIter, .inr (taken ▸ List.take_prefix _ _)⟩
        · split at found <;> cases found

/-- A round that looks again looks for a shorter prefix of the current one. -/
theorem handlerForPathRound_next {next : List Char}
    (looksAgain : handlerForPathRound prefixToHandler currentPrefix = .next next) :
    next.length < currentPrefix.length ∧ next <+: currentPrefix := by
  unfold handlerForPathRound at looksAgain
  dsimp only at looksAgain
  generalize bound : prefixToHandler.lowerBound currentPrefix = iter at looksAgain
  split at looksAgain
  · cases looksAgain
  · split at looksAgain
    · cases looksAgain
    · split at looksAgain
      · cases looksAgain
      · rename_i iter _ _ pathPrefix handler atIter
        split at looksAgain
        · cases looksAgain
        · split at looksAgain
          · cases looksAgain
          · rename_i endPrefix backed
            obtain rfl := Round.next.inj looksAgain.symm
            obtain ⟨before, slash⟩ := backUpToSlash_some backed
            have inPrefix : endPrefix < pathPrefix.length := (List.getElem?_eq_some_iff.mp slash).1
            -- the entry before the lower bound sorts below the current prefix
            have below : pathPrefix < currentPrefix := by
              have ordered := @OrderedMap.lt_of_lt_lowerBound _ _ _ prefixToHandler currentPrefix iter (by omega)
              obtain ⟨_, entry⟩ := List.getElem_of_getElem? atIter
              rwa [List.get_eq_getElem, entry] at ordered
            have shorter : endPrefix < currentPrefix.length := by
              by_cases inside : mismatch pathPrefix currentPrefix < pathPrefix.length
              · exact Nat.lt_of_le_of_lt before (mismatch_lt_right below inside)
              · have := mismatch_le_right pathPrefix currentPrefix
                omega
            -- up to the slash the entry is the current prefix
            have agree : pathPrefix.take endPrefix = currentPrefix.take endPrefix := by
              rw [← Nat.min_eq_left before, ← List.take_take, take_mismatch, List.take_take]
            refine ⟨by simpa [Nat.min_eq_left inPrefix.le] using shorter, agree ▸ List.take_prefix _ _⟩

/-- A registered prefix is found by the lookup of its lower bound. -/
theorem handlerForPathRound_of_mem {handler : α} (member : (currentPrefix, handler) ∈ prefixToHandler.entries) :
    handlerForPathRound prefixToHandler currentPrefix = .found handler := by
  obtain ⟨inside, atBound⟩ := OrderedMap.lowerBound_of_mem member
  unfold handlerForPathRound
  dsimp only
  rw [List.getElem?_eq_getElem inside, atBound, Option.filter_some, if_pos (beq_self_eq_true currentPrefix)]

end Round

/-! ## The loop -/

section Loop

variable (prefixToHandler : PrefixToHandler α)

/-- Rounds beyond the length of the prefix looked for are never reached: the
prefix gets shorter every round. -/
theorem handlerForPathLoop_fuel :
    ∀ (fuel : Nat) (currentPrefix : List Char), currentPrefix.length < fuel → ∀ extra,
      handlerForPathLoop prefixToHandler (fuel + extra) currentPrefix =
        handlerForPathLoop prefixToHandler fuel currentPrefix
  | 0, _, short, _ => absurd short (Nat.not_lt_zero _)
  | fuel + 1, currentPrefix, short, extra => by
    rw [Nat.add_right_comm, handlerForPathLoop, handlerForPathLoop]
    cases round : handlerForPathRound prefixToHandler currentPrefix with
    | found handler => rfl
    | missing => rfl
    | next next =>
      have shorter := (handlerForPathRound_next round).1
      exact handlerForPathLoop_fuel fuel next (by omega) extra

/-- `HandlerForPath` is the loop with any number of rounds past the length of
the path. -/
theorem handlerForPath_eq_loop {fuel : Nat} {path : List Char} (enough : path.length < fuel) :
    handlerForPathLoop prefixToHandler fuel path = handlerForPath prefixToHandler path := by
  obtain ⟨extra, rfl⟩ : ∃ extra, fuel = path.length + 1 + extra := ⟨fuel - (path.length + 1), by omega⟩
  exact handlerForPathLoop_fuel prefixToHandler _ path (by omega) extra

/-- Every handler the loop returns is registered under a prefix of what it
looked for. -/
theorem handlerForPathLoop_prefix {handler : α} :
    ∀ (fuel : Nat) (currentPrefix : List Char), handlerForPathLoop prefixToHandler fuel currentPrefix = some handler →
      ∃ pathPrefix, (pathPrefix, handler) ∈ prefixToHandler.entries ∧ pathPrefix <+: currentPrefix
  | 0, _, returned => by cases returned
  | fuel + 1, currentPrefix, returned => by
    rw [handlerForPathLoop] at returned
    cases round : handlerForPathRound prefixToHandler currentPrefix with
    | found found =>
      rw [round] at returned
      obtain rfl := Option.some.inj returned
      obtain ⟨pathPrefix, member, same | slash⟩ := handlerForPathRound_found round
      · exact ⟨pathPrefix, member, same ▸ List.prefix_refl _⟩
      · exact ⟨pathPrefix, member, (List.prefix_append _ _).trans slash⟩
    | missing =>
      rw [round] at returned
      cases returned
    | next next =>
      rw [round] at returned
      obtain ⟨pathPrefix, member, prefixOf⟩ := handlerForPathLoop_prefix fuel next returned
      exact ⟨pathPrefix, member, prefixOf.trans (handlerForPathRound_next round).2⟩

theorem handlerForPath_prefix {path : List Char} {handler : α}
    (returned : handlerForPath prefixToHandler path = some handler) :
    ∃ pathPrefix, (pathPrefix, handler) ∈ prefixToHandler.entries ∧ pathPrefix <+: path :=
  handlerForPathLoop_prefix prefixToHandler _ path returned

/-- A path that is itself registered gets its own handler. -/
theorem handlerForPath_of_mem {path : List Char} {handler : α} (member : (path, handler) ∈ prefixToHandler.entries) :
    handlerForPath prefixToHandler path = some handler := by
  rw [handlerForPath, handlerForPathLoop, handlerForPathRound_of_mem member]

end Loop

/-! ## Registration -/

/-- A prefix `RegisterVirtualPathHandler` accepts: empty, or starting with a
slash and not ending with one. -/
def ValidPrefix (pathPrefix : List Char) : Prop :=
  pathPrefix = [] ∨ (pathPrefix.head? = some '/' ∧ pathPrefix.getLast? ≠ some '/')

/-- The maps that registering and deregistering handlers build from the empty
map. -/
inductive Reachable : PrefixToHandler α → Prop
  | empty : Reachable .empty
  | register {prefixToHandler} (pathPrefix : List Char) (handler : Option α) :
      Reachable prefixToHandler → Reachable (registerVirtualPathHandler prefixToHandler pathPrefix handler).2
  | deregister {prefixToHandler} (pathPrefix : List Char) :
      Reachable prefixToHandler → Reachable (deregisterVirtualPathHandler prefixToHandler pathPrefix)

/-- Registration keeps every prefix of the map valid. -/
theorem registerVirtualPathHandler_valid {prefixToHandler : PrefixToHandler α} {pathPrefix : List Char}
    {handler : Option α} (valid : ∀ entry ∈ prefixToHandler.entries, ValidPrefix entry.1) :
    ∀ entry ∈ (registerVirtualPathHandler prefixToHandler pathPrefix handler).2.entries, ValidPrefix entry.1 := by
  cases handler with
  | none => exact valid
  | some handler =>
    simp only [registerVirtualPathHandler]
    split
    · exact valid
    · rename_i accepted
      intro entry member
      rcases OrderedMap.mem_emplace member with kept | rfl
      · exact valid entry kept
      · unfold ValidPrefix
        tauto

/-- In every map reachable by registering and deregistering, the prefixes are
valid. -/
theorem Reachable.valid {prefixToHandler : PrefixToHandler α} (reachable : Reachable prefixToHandler) :
    ∀ entry ∈ prefixToHandler.entries, ValidPrefix entry.1 := by
  induction reachable with
  | empty => intro entry member; cases member
  | register pathPrefix handler _ valid => exact registerVirtualPathHandler_valid valid
  | deregister pathPrefix _ valid =>
    intro entry member
    exact valid entry (OrderedMap.mem_erase member).1

/-! ## `CanonicalizePath` -/

section Canonicalize

variable [DecidableEq α] (prefixToHandler : PrefixToHandler α) (currentWorkingDirectory : List Char)

theorem canonicalizePath_absolute {path : List Char} (absolute : path.head? = some '/') :
    canonicalizePath prefixToHandler currentWorkingDirectory path = .ok (Util.normalizePath path) := by
  have notEmpty : path ≠ [] := by
    rintro rfl
    cases absolute
  simp [canonicalizePath, notEmpty, absolute]

/-- A relative path that `CanonicalizePath` accepts resolves against the normal
form of the working directory: normalizing after putting the working
directory in front is the same as normalizing it first. -/
theorem canonicalizePath_relative {path canonical : List Char} (relative : path.head? ≠ some '/')
    (accepted : canonicalizePath prefixToHandler currentWorkingDirectory path = .ok canonical) :
    canonical = Util.normalizePath (Util.normalizePath currentWorkingDirectory ++ '/' :: path) := by
  -- an empty path is refused
  have notEmpty : path ≠ [] := by
    rintro rfl
    simp [canonicalizePath] at accepted
  unfold canonicalizePath at accepted
  rw [if_neg notEmpty, if_pos relative] at accepted
  split at accepted
  · cases accepted
  · dsimp only at accepted
    split at accepted
    · cases accepted
    · rw [← Except.ok.inj accepted, Util.normalizePath_append]

theorem canonicalizePath_relative_in_tmp :
    "b/../c".toList.head? ≠ some '/' ∧
      canonicalizePath (.empty : PrefixToHandler Nat) "/tmp".toList "b/../c".toList = .ok "/tmp/c".toList ∧
      "/tmp/c".toList = Util.normalizePath (Util.normalizePath "/tmp".toList ++ '/' :: "b/../c".toList) :=
  ⟨by decide, by decide,
    @canonicalizePath_relative Nat _ .empty "/tmp".toList "b/../c".toList "/tmp/c".toList (by decide) (by decide)⟩

/-- What `CanonicalizePath` returns is in normal form. -/
theorem canonicalizePath_canonical {path canonical : List Char}
    (accepted : canonicalizePath prefixToHandler currentWorkingDirectory path = .ok canonical) :
    Util.Canonical canonical := by
  unfold canonicalizePath at accepted
  split at accepted
  · cases accepted
  · split at accepted
    · split at accepted
      · cases accepted
      · dsimp only at accepted
        split at accepted
        · cases accepted
        · rw [← Except.ok.inj accepted]
          exact Util.normalizePath_canonical _
    · rw [← Except.ok.inj accepted]
      exact Util.normalizePath_canonical _

theorem canonicalizePath_canonical_of_dots :
    canonicalizePath (.empty : PrefixToHandler Nat) "/tmp".toList "/a/./b//../c".toList = .ok "/a/c".toList ∧
      Util.Canonical "/a/c".toList :=
  ⟨by decide, @canonicalizePath_canonical Nat _ .empty "/tmp".toList "/a/./b//../c".toList "/a/c".toList (by decide)⟩

end Canonicalize

/-! ## The longest matching prefix -/

/-- A prefix under which a handler serves `path`: the empty prefix, the path
itself, or the path up to a slash. -/
def prefixMatches (pathPrefix path : List Char) : Bool :=
  pathPrefix.isEmpty || pathPrefix == path || (pathPrefix ++ ['/']).isPrefixOf path

/-- The handler registered under the longest prefix that matches `path`. -/
def longestPrefixMatch (prefixToHandler : PrefixToHandler α) (path : List Char) : Option α :=
  ((prefixToHandler.entries.filter fun entry => prefixMatches entry.1 path).foldl
    (fun best entry =>
      match best with
      | some chosen => if chosen.1.length < entry.1.length then some entry else some chosen
      | none => some entry)
    none).map Prod.snd

/-- `/a` and `/a.b`: `.` sorts before `/`, so `/a.b` lies between `/a` and
`/a/x`. -/
def dotSiblingRegistry : PrefixToHandler Nat :=
  (registerVirtualPathHandler (registerVirtualPathHandler .empty "/a".toList (some 1)).2 "/a.b".toList (some 2)).2

/-- `/a` and `/a/b`: `/` sorts before `0`, so `/a/b` lies between `/a` and
`/a0`. -/
def childRegistry : PrefixToHandler Nat :=
  (registerVirtualPathHandler (registerVirtualPathHandler .empty "/a".toList (some 1)).2 "/a/b".toList (some 2)).2

/-- `HandlerForPath` misses the handler of `/a` for `/a/x` when `/a.b` is
registered: it backs up inside `/a.b` to the empty prefix. And it returns
the handler of `/a` for `/a0` when `/a/b` is registered: it backs up inside
`/a/b` to `/a`, although `/a0` is not below `/a`. -/
theorem handlerForPath_not_longest_prefix :
    (registerVirtualPathHandler (.empty : PrefixToHandler Nat) "/a".toList (some 1)).1 = true ∧
      (registerVirtualPathHandler (registerVirtualPathHandler (.empty : PrefixToHandler Nat) "/a".toList (some 1)).2
        "/a.b".toList (some 2)).1 = true ∧
      (registerVirtualPathHandler (registerVirtualPathHandler (.empty : PrefixToHandler Nat) "/a".toList (some 1)).2
        "/a/b".toList (some 2)).1 = true ∧
      Util.normalizePath "/a/x".toList = "/a/x".toList ∧ Util.normalizePath "/a0".toList = "/a0".toList ∧
      handlerForPath dotSiblingRegistry "/a/x".toList = none ∧ longestPrefixMatch dotSiblingRegistry "/a/x".toList = some 1 ∧
      handlerForPath childRegistry "/a0".toList = some 1 ∧ longestPrefixMatch childRegistry "/a0".toList = none := by
  decide

end Asylo.Io

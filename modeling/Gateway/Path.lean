/-!
Slash-separated paths as text. Collapsing removes empty, `.` and `..` segments without looking at
any files.
-/
namespace Gateway.Path

abbrev Segment := List Char

/-- The segments of a text: one more than it has slashes. -/
def segments : List Char → List Segment
  | [] => [[]]
  | c :: r =>
    if c = '/' then [] :: segments r
    else
      match segments r with
      | [] => [[c]]
      | s :: ss => (c :: s) :: ss

def join : List Segment → List Char
  | [] => []
  | [s] => s
  | s :: t :: ss => s ++ '/' :: join (t :: ss)

/-- The segment `.`, which stays where it is. -/
def dot : Segment := ['.']

/-- The segment `..`, which goes up. -/
def dotDot : Segment := ['.', '.']

def isAbsolute : List Char → Bool
  | '/' :: _ => true
  | _ => false

/-- Adds a segment to the collapsed ones, the last of which comes first. An absolute path cannot go
above its root; a relative one keeps the `..` that lead out of it. -/
def push (absolute : Bool) (above : List Segment) (s : Segment) : List Segment :=
  if s = [] ∨ s = dot then above
  else if s = dotDot then
    match above with
    | [] => if absolute then [] else [dotDot]
    | top :: rest => if top = dotDot then (if absolute then above else dotDot :: above) else rest
  else s :: above

def collapsedSegments (path : List Char) : List Segment :=
  ((segments path).foldl (push (isAbsolute path)) []).reverse

/-- The text of collapsed segments. A relative path with none is `.`. -/
def render (absolute : Bool) (ss : List Segment) : List Char :=
  if absolute then '/' :: join ss
  else if ss = [] then dot
  else join ss

/-- `path` without empty, `.` and `..` segments, as far as that can be told from its text. -/
def collapseChars (path : List Char) : List Char :=
  render (isAbsolute path) (collapsedSegments path)

/-- `collapseChars` on strings. -/
def collapse (path : String) : String := .ofList (collapseChars path.toList)

def rootedChars (path : List Char) : List Char :=
  if isAbsolute path then path else '/' :: path

/-- The name a path ends in, after trailing slashes and `.` segments. -/
def fileName? (path : List Char) : Option Segment :=
  match (segments path).reverse.dropWhile fun s => s = [] ∨ s = dot with
  | [] => none
  | s :: _ => if s = dotDot then none else some s

/-- What follows the last dot of a name, unless the name has no dot or only one in front. -/
def extensionOf? (name : Segment) : Option Segment :=
  let tail := name.reverse.takeWhile (· ≠ '.')
  if tail.length + 1 < name.length then some tail.reverse else none

/-- The extension of the name a path ends in. -/
def extension? (path : String) : Option String :=
  (fileName? path.toList).bind fun name => (extensionOf? name).map String.ofList

def names (path : List Char) : List Segment := (segments path).filter fun s => s ≠ [] ∧ s ≠ dot

/-- The way from the directory `base` to `path`, both absolute, as names tell it. -/
def relativeTo (base path : List Char) : List Char :=
  join (way (names base) (names path))
where
  way : List Segment → List Segment → List Segment
    | b :: bs, p :: ps => if b = p then way bs ps else (b :: bs).map (fun _ => dotDot) ++ p :: ps
    | bs, ps => bs.map (fun _ => dotDot) ++ ps

/-- A path in the directory `base`, unless it is absolute. -/
def inDirectory (base path : List Char) : List Char :=
  if isAbsolute path then path else base ++ '/' :: path

theorem segments_ne_nil (s : List Char) : segments s ≠ [] := by
  cases s with
  | nil => simp [segments]
  | cons c r =>
    rw [segments]
    split
    · simp
    · split <;> simp

theorem join_segments (s : List Char) : join (segments s) = s := by
  induction s with
  | nil => rfl
  | cons c r ih =>
    obtain ⟨t, ts, hr⟩ := List.exists_cons_of_ne_nil (segments_ne_nil r)
    rw [hr] at ih
    rw [segments, hr]
    split
    · next h =>
      subst h
      exact congrArg ('/' :: ·) ih
    · cases ts with
      | nil => exact congrArg (c :: ·) ih
      | cons u us => exact congrArg (c :: ·) ih

theorem isAbsolute_iff {path : List Char} : isAbsolute path ↔ ∃ r, path = '/' :: r := by
  unfold isAbsolute
  split <;> simp_all

theorem isAbsolute_rootedChars (path : List Char) : isAbsolute (rootedChars path) := by
  unfold rootedChars
  split
  · assumption
  · rfl

/-- A slash between two texts is a cut between their segments. -/
theorem segments_append_slash (a b : List Char) :
    segments (a ++ '/' :: b) = segments a ++ segments b := by
  induction a with
  | nil => rfl
  | cons c r ih =>
    rw [List.cons_append, segments, segments]
    split
    · rw [ih, List.cons_append]
    · obtain ⟨t, ts, hr⟩ := List.exists_cons_of_ne_nil (segments_ne_nil r)
      rw [ih, hr]
      rfl

theorem slash_not_mem_of_mem_segments {path : List Char} {s : Segment} (h : s ∈ segments path) :
    '/' ∉ s := by
  induction path generalizing s with
  | nil =>
    rw [segments, List.mem_singleton] at h
    subst h
    exact List.not_mem_nil
  | cons c r ih =>
    rw [segments] at h
    split at h
    · rcases List.mem_cons.1 h with rfl | h
      · exact List.not_mem_nil
      · exact ih h
    · next hc =>
      obtain ⟨t, ts, hr⟩ := List.exists_cons_of_ne_nil (segments_ne_nil r)
      rw [hr] at h ih
      rcases List.mem_cons.1 h with rfl | h
      · intro hs
        rcases List.mem_cons.1 hs with heq | hs
        · exact hc heq.symm
        · exact ih List.mem_cons_self hs
      · exact ih (List.mem_cons_of_mem t h)

end Gateway.Path

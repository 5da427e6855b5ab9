import NodeWorkflow.Failure

/-!
# Paths

A path is a list of names behind a root, or without one for a path that starts at the working
folder. Empty names and single dots do not count.

## Main definitions

* `Path.ofText` reads a path, `Path.text` writes it.
* `Path.join` goes on with another path.
* `Path.place` says where a path leads if every name on it is a folder.
-/

namespace NodeWorkflow

/-- The pieces between separators; there is always one more than there are separators. -/
def pieces (separator : Char) : List Char → List (List Char)
  | [] => [[]]
  | c :: rest =>
    if c = separator then [] :: pieces separator rest
    else
      match pieces separator rest with
      | [] => [[c]]
      | piece :: more => (c :: piece) :: more

/-- A place in the file system: the names on the way there from the root. -/
abbrev Place := List String

structure Path where
  /-- The number of slashes that the root is written with; without a root there are none. -/
  slashes : Nat
  names : List String
  deriving DecidableEq, Repr

namespace Path

def up : String := ".."

/-- The number of slashes that stand for the root: two slashes are kept, and any other number counts
as one. -/
def rootSlashes (leading : Nat) : Nat :=
  if leading ≤ 2 then leading else 1

/-- Whether a piece of a path counts. -/
def isName (piece : List Char) : Bool :=
  piece != [] && piece != ['.']

/-- Reads a path without looking for zero characters. -/
def ofChars (cs : List Char) : Path where
  slashes := rootSlashes (cs.takeWhile (· = '/')).length
  names := ((pieces '/' cs).filter isName).map String.ofList

/-- Reads a path. No path holds a zero character. -/
def ofText (text : String) : Except BadValue Path :=
  if text.toList.any fun c => c.toNat = 0 then .error .zeroInPath else .ok (ofChars text.toList)

def text (p : Path) : String :=
  let written := String.ofList (List.replicate p.slashes '/') ++ "/".intercalate p.names
  if written = "" then "." else written

/-- Goes on with another path; one with a root starts anew. -/
def join (p q : Path) : Path :=
  if q.slashes = 0 then { p with names := p.names ++ q.names } else q

/-- Goes from a place to the next by a name. -/
def step (here : Place) (name : String) : Place :=
  if name = up then here.dropLast else here ++ [name]

/-- Where a path starts. -/
def start (p : Path) (home : Place) : Place :=
  if p.slashes = 0 then home else []

/-- Where a path leads if every name on it is a folder. -/
def place (p : Path) (home : Place) : Place :=
  p.names.foldl step (p.start home)

def fileName (p : Path) : String :=
  p.names.getLastD ""

theorem pieces_ne_nil (separator : Char) (cs : List Char) : pieces separator cs ≠ [] := by
  cases cs with
  | nil => simp [pieces]
  | cons c rest =>
    by_cases h : c = separator
    · simp [pieces, h]
    · simp only [pieces, h, if_false]
      cases pieces separator rest <;> simp

/-- No piece holds a separator. -/
theorem not_mem_of_mem_pieces {separator : Char} {cs piece : List Char}
    (h : piece ∈ pieces separator cs) : separator ∉ piece := by
  induction cs generalizing piece with
  | nil => simp_all [pieces]
  | cons c rest ih =>
    by_cases hc : c = separator
    · simp only [pieces, hc, if_true, List.mem_cons] at h
      rcases h with rfl | h
      · simp
      · exact ih h
    · simp only [pieces, hc, if_false] at h
      cases hp : pieces separator rest with
      | nil => exact absurd hp (pieces_ne_nil separator rest)
      | cons first more =>
        rw [hp] at h ih
        simp only [List.mem_cons] at h
        rcases h with rfl | h
        · have hfirst : separator ∉ first := ih (by simp)
          simpa [Ne.symm hc] using hfirst
        · exact ih (by simp [h])

end Path

end NodeWorkflow

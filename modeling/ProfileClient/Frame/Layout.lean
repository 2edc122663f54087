import ProfileClient.Dialog.Basic
/-!
The areas of a frame. From the top there are the title, the form, the profile and the status bar.
Where the frame is too low for all of them, the profile keeps five rows as long as it can, the
status bar comes next, and title and form share what is left.
-/
namespace ProfileClient.Frame

structure Area where
  x : Nat
  y : Nat
  width : Nat
  height : Nat
deriving DecidableEq, Repr

structure Heights where
  title : Nat
  form : Nat
  profile : Nat
  status : Nat
deriving DecidableEq, Repr

def Heights.of (height : Nat) : Heights :=
  match height with
  | 6 => ⟨0, 0, 5, 1⟩
  | 7 => ⟨0, 0, 5, 2⟩
  | 8 => ⟨1, 0, 5, 2⟩
  | 9 => ⟨1, 1, 5, 2⟩
  | 10 => ⟨2, 1, 5, 2⟩
  | 11 => ⟨2, 2, 5, 2⟩
  | 12 => ⟨3, 2, 5, 2⟩
  | _ =>
    if height ≤ 5 then ⟨0, 0, height, 0⟩
    else if height ≤ 16 then ⟨3, height - 10, 5, 2⟩
    else ⟨3, 7, height - 12, 2⟩

/-- The parts fill the frame. -/
theorem Heights.sum_of (height : Nat) :
    (of height).title + (of height).form + (of height).profile + (of height).status = height := by
  unfold of
  split <;> try rfl
  split
  · simp
  · split
    · have : height ≠ 6 ∧ height ≠ 7 ∧ height ≠ 8 ∧ height ≠ 9 := by simp_all
      have : 10 ≤ height := by omega
      simp only
      omega
    · simp only
      omega

structure Layout where
  title : Area
  form : Area
  profile : Area
  status : Area
deriving DecidableEq, Repr

def Layout.of (size : Size) : Layout :=
  let heights := Heights.of size.height
  { title := ⟨0, 0, size.width, heights.title⟩
    form := ⟨0, heights.title, size.width, heights.form⟩
    profile := ⟨0, heights.title + heights.form, size.width, heights.profile⟩
    status :=
      ⟨0, heights.title + heights.form + heights.profile, size.width, heights.status⟩ }

/-- What a border on all sides leaves of an area. -/
def Area.inside (area : Area) : Area where
  x := min (area.x + 1) (area.x + area.width)
  y := min (area.y + 1) (area.y + area.height)
  width := area.width - 2
  height := area.height - 2

def pane (size : Size) : Area := (Layout.of size).profile.inside

def Area.size (area : Area) : Size := ⟨area.width, area.height⟩

end ProfileClient.Frame

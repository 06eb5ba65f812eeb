import Mathlib.Tactic.Common
import SpokenIntent.Files

/-!
What is written into a file is read from it. A path is followed through directories alone, so a file that is
written stands in nobody's way.
-/

namespace SpokenIntent.Files

variable {files after : Files} {path : String} {place : List String} {bytes : List UInt8}

/-- A path that leads to a device, which keeps nothing of what is written. -/
def AtDevice (files : Files) (path : String) : Prop :=
  ∃ place full, files.place path = .ok place ∧ files.find? place = some (.device full)

theorem find?_put (below : place ≠ []) (other : List String) (node : Node) :
    (files.put place node).find? other = if other = place then some node else files.find? other := by
  by_cases same : other = place
  · subst same
    simp [find?, put, below]
  · simp [find?, put, same, Ne.symm same]

/-- A path that passes through directories goes on to do so when something is put where none of them is. -/
theorem enter_put (below : place ≠ []) (closed : files.find? place ≠ some .directory) (node : Node)
    {start inner names : List String} (entered : files.enter start names = .ok inner) :
    (files.put place node).enter start names = .ok inner := by
  induction names generalizing start with
  | nil => exact entered
  | cons name rest ih =>
      rw [enter] at entered ⊢
      by_cases here : name = "."
      · simp only [here, ↓reduceIte] at entered ⊢
        exact ih entered
      · by_cases up : name = ".."
        · simp only [up, String.reduceEq, ↓reduceIte] at entered ⊢
          exact ih entered
        · by_cases fits : nameFits name
          · simp only [here, up, fits, Bool.not_true, Bool.false_eq_true, ↓reduceIte] at entered ⊢
            split at entered
            · next found =>
              -- what is passed through is a directory, so nothing has been put there
              have apart : start ++ [name] ≠ place := fun same => closed (same ▸ found)
              simp only [find?_put below, apart, ↓reduceIte, found]
              exact ih entered
            · cases entered
            · cases entered
          · simp [here, up, fits] at entered

/-- A path leads to its last name in the directory that the others lead to. -/
theorem place_eq_ok_iff : files.place path = .ok place ↔
    pathFits path ∧ endsInSlash path = false ∧ ∃ name inner, (names path).getLast? = some name ∧
      files.enter (files.origin path) (names path).dropLast = .ok inner ∧
      name ≠ "." ∧ name ≠ ".." ∧ nameFits name ∧ place = inner ++ [name] := by
  rw [Files.place]
  by_cases fits : pathFits path
  · simp only [fits, Bool.not_true, Bool.false_eq_true, ↓reduceIte, true_and]
    cases (names path).getLast? with
    | none => simp
    | some name =>
        cases files.enter (files.origin path) (names path).dropLast with
        | error e => simp
        | ok inner =>
            dsimp only
            constructor
            · intro leads
              split at leads
              · cases leads
              · next apart =>
                split at leads
                · cases leads
                · next size =>
                  cases leads
                  simp only [Bool.or_eq_true, decide_eq_true_eq, not_or, Bool.not_eq_true] at apart
                  exact ⟨apart.2, name, inner, rfl, rfl, apart.1.1, apart.1.2, by simpa using size, rfl⟩
            · rintro ⟨slash, name, inner, ⟨⟩, ⟨⟩, here, up, size, rfl⟩
              simp [slash, here, up, size]
  · simp [fits]

theorem place_ne_nil (leads : files.place path = .ok place) : place ≠ [] := by
  rcases place_eq_ok_iff.mp leads with ⟨-, -, name, inner, -, -, -, -, -, rfl⟩
  simp

theorem place_put (leads : files.place path = .ok place) (closed : files.find? place ≠ some .directory)
    (node : Node) : (files.put place node).place path = .ok place := by
  have below := place_ne_nil leads
  rcases place_eq_ok_iff.mp leads with ⟨fits, slash, name, inner, last, entered, rest⟩
  exact place_eq_ok_iff.mpr ⟨fits, slash, name, inner, last, enter_put below closed node entered, rest⟩

theorem read_write (written : files.write path bytes = .ok after) :
    after.read path = some bytes ∨ after.AtDevice path := by
  rw [write] at written
  cases leads : files.place path with
  | error e => simp [leads] at written
  | ok place =>
      simp only [leads] at written
      split at written
      · cases written
      · next full found =>
        right
        cases full with
        | true => cases written
        | false =>
            cases written
            exact ⟨place, false, leads, found⟩
      · next closed _ =>
        left
        cases written
        rw [read, place_put leads closed]
        simp [find?_put (place_ne_nil leads)]

/-- What is saved is read as it was, unless a device has taken it. -/
theorem read_save {text : String} (saved : files.save path text = .ok after) :
    after.read path = some text.toUTF8.toList ∨ after.AtDevice path := by
  rw [save] at saved
  split at saved
  · cases saved
  · exact read_write saved

end SpokenIntent.Files

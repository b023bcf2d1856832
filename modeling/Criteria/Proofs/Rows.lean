import Criteria.Row

namespace Criteria.Row

theorem get?_map {columns : List String} (cells : String → Cell) {column : String}
    (member : column ∈ columns) :
    get? ⟨columns, columns.map cells⟩ column = some (cells column) := by
  simp only [get?]
  induction columns with
  | nil => simp at member
  | cons first rest induction =>
      by_cases same : first = column
      · simp [List.idxOf?_cons, same]
      · have later := induction (by simpa [Ne.symm same] using member)
        cases place : rest.idxOf? column with
        | none => simp [place] at later
        | some index => simpa [List.idxOf?_cons, same, place] using later

variable {row : Row} {column : String}

theorem cell_of_get? {held : Cell} (found : row.get? column = some held) :
    row.cell column = .ok held := by
  rw [cell, found]

theorem cell_of_missing (missing : row.get? column = none) :
    row.cell column = .error (.missingColumn column) := by
  rw [cell, missing]

theorem integer_of_get? {n : Int64} (held : row.get? column = some (.integer n)) :
    row.integer column = .ok n := by
  simp [integer, optionalInteger, cell, held, bind, Except.bind]

theorem optionalText_of_get? {s : String} (held : row.get? column = some (.text s)) :
    row.optionalText column = .ok (some s) := by
  simp [optionalText, cell, held, bind, Except.bind]

theorem text_of_get? {s : String} (held : row.get? column = some (.text s)) :
    row.text column = .ok s := by
  rw [text, optionalText_of_get? held]
  rfl

theorem boolean_of_integer {n : Int64} (found : row.get? column = some (.integer n)) :
    row.boolean column =
      if n = 0 then .ok false
      else if n = 1 then .ok true
      else .error (.invalidValue column (toString n.toInt ++ " is not a boolean")) := by
  rw [boolean, cell_of_get? found]
  rfl

theorem boolean_of_get? {b : Bool} (held : row.get? column = some (.integer (if b then 1 else 0))) :
    row.boolean column = .ok b := by
  cases b <;> simp [boolean, cell, held, bind, Except.bind]

end Criteria.Row

import Mathlib.Data.List.Basic
import Mathlib.Data.Nat.Notation

/-!
# Lines, and what `fgets` makes of them

A file is cut behind its newlines into lines (`lines`). `fgets` reads a line as far as its
buffer goes (`fgets`), so that a file comes in pieces (`pieces`, `pieces_eq`). No piece
reaches from one line into the next (`pieces_eq_flatMap`), and a line that fits is one piece
(`pieces_line`).
-/

set_option autoImplicit false

namespace Msm8660

/-- The byte that ends a line. -/
def newline : UInt8 := 10

/-- The lines of a file, each with the byte that ends it. -/
def lines : List UInt8 → List (List UInt8)
  | [] => []
  | byte :: rest =>
      if byte = newline then [byte] :: lines rest
      else match lines rest with
        | [] => [[byte]]
        | line :: later => (byte :: line) :: later

/-- What `fgets` reads with so much room, and what is left. -/
def readLine : ℕ → List UInt8 → List UInt8 × List UInt8
  | 0, file => ([], file)
  | _ + 1, [] => ([], [])
  | room + 1, byte :: rest =>
      if byte = newline then ([byte], rest)
      else ((byte :: (readLine room rest).1), (readLine room rest).2)

/-- `fgets` into a buffer of `size` bytes, the last one for the byte that ends the string. -/
def fgets (size : ℕ) (file : List UInt8) : Option (List UInt8 × List UInt8) :=
  if file = [] then none else some (readLine (size - 1) file)

/-- The pieces that `fgets` makes of a file, where `room` bytes of the current one are left and
these have been read. -/
def piecesFrom (size : ℕ) : ℕ → List UInt8 → List UInt8 → List (List UInt8)
  | _, read, [] => if read = [] then [] else [read]
  | room, read, byte :: rest =>
      if byte = newline ∨ room ≤ 1 then (read ++ [byte]) :: piecesFrom size (size - 1) [] rest
      else piecesFrom size (room - 1) (read ++ [byte]) rest

/-- What `fgets` returns, call after call, until it returns NULL. -/
def pieces (size : ℕ) (file : List UInt8) : List (List UInt8) :=
  piecesFrom size (size - 1) [] file

/-! ## `fgets` -/

theorem piecesFrom_eq {size room : ℕ} (space : 1 ≤ room) (read : List UInt8) {file : List UInt8}
    (more : read ≠ [] ∨ file ≠ []) :
    piecesFrom size room read file =
      (read ++ (readLine room file).1) :: pieces size (readLine room file).2 := by
  induction file generalizing room read with
  | nil =>
      have started : read ≠ [] := more.resolve_right fun absent => absent rfl
      obtain ⟨room, rfl⟩ := Nat.exists_eq_add_of_le' space
      simp [piecesFrom, readLine, started, pieces]
  | cons byte rest ih =>
      obtain ⟨room, rfl⟩ := Nat.exists_eq_add_of_le' space
      rw [piecesFrom, readLine]
      by_cases ends : byte = newline
      · rw [if_pos (Or.inl ends), if_pos ends]
        rfl
      · by_cases full : room + 1 ≤ 1
        · have zero : room = 0 := by omega
          rw [if_pos (Or.inr full), if_neg ends, zero]
          rfl
        · rw [if_neg (by simp [ends, full]), if_neg ends, Nat.add_sub_cancel,
            ih (by omega) _ (Or.inl (by simp)), List.append_assoc]
          rfl

/-- **The pieces are what `fgets` returns.** -/
theorem pieces_eq {size : ℕ} (space : 2 ≤ size) (file : List UInt8) :
    pieces size file = match fgets size file with
      | none => []
      | some (read, rest) => read :: pieces size rest := by
  unfold fgets
  by_cases empty : file = []
  · rw [empty]
    rfl
  · rw [if_neg empty, pieces, piecesFrom_eq (by omega) [] (Or.inr empty)]
    rfl

/-! ## Lines and pieces -/

theorem lines_append_newline {body : List UInt8} (inside : newline ∉ body) (rest : List UInt8) :
    lines (body ++ newline :: rest) = (body ++ [newline]) :: lines rest := by
  induction body with
  | nil => rw [List.nil_append, lines, if_pos rfl, List.nil_append]
  | cons byte body ih =>
      obtain ⟨other, later⟩ := not_or.mp (List.mem_cons.not.mp inside)
      rw [List.cons_append, lines, if_neg (fun same => other same.symm), ih later]
      rfl

theorem lines_of_notMem {body : List UInt8} (inside : newline ∉ body) (some_ : body ≠ []) :
    lines body = [body] := by
  induction body with
  | nil => exact absurd rfl some_
  | cons byte body ih =>
      obtain ⟨other, later⟩ := not_or.mp (List.mem_cons.not.mp inside)
      rw [lines, if_neg (fun same => other same.symm)]
      by_cases last : body = []
      · rw [last]
        rfl
      · rw [ih later last]

/-- Behind a newline, reading starts afresh. -/
theorem piecesFrom_append_newline (size room : ℕ) (read : List UInt8) {body : List UInt8}
    (inside : newline ∉ body) (rest : List UInt8) :
    piecesFrom size room read (body ++ newline :: rest) =
      piecesFrom size room read (body ++ [newline]) ++ pieces size rest := by
  induction body generalizing room read with
  | nil =>
      rw [List.nil_append, List.nil_append, piecesFrom, if_pos (Or.inl rfl), piecesFrom,
        if_pos (Or.inl rfl)]
      rfl
  | cons byte body ih =>
      have later : newline ∉ body := fun member => inside (List.mem_cons_of_mem _ member)
      rw [List.cons_append, List.cons_append, piecesFrom, piecesFrom]
      split
      · rw [ih _ _ later, List.cons_append]
      · exact ih _ _ later

/-- **Induction line by line**: a file is empty, or one line, or a line and a file. -/
theorem lines_induction {motive : List UInt8 → Prop} (empty : motive [])
    (last : ∀ body, body ≠ [] → newline ∉ body → motive body)
    (line : ∀ body rest, newline ∉ body → motive rest → motive (body ++ newline :: rest))
    (file : List UInt8) : motive file := by
  generalize size : file.length = n
  induction n using Nat.strongRecOn generalizing file with
  | ind n ih =>
      by_cases ended : newline ∈ file
      · obtain ⟨body, rest, rfl, inside⟩ := List.eq_append_cons_of_mem ended
        have shorter : rest.length < n := by
          rw [← size, List.length_append, List.length_cons]
          omega
        exact line body rest inside (ih rest.length shorter rest rfl)
      · by_cases nothing : file = []
        · rw [nothing]
          exact empty
        · exact last file nothing ended

/-- **A file comes in the pieces of its lines.** -/
theorem pieces_eq_flatMap (size : ℕ) (file : List UInt8) :
    pieces size file = (lines file).flatMap (pieces size) := by
  induction file using lines_induction with
  | empty => rfl
  | last body some_ inside =>
      rw [lines_of_notMem inside some_, List.flatMap_singleton]
  | line body rest inside ih =>
      rw [lines_append_newline inside, List.flatMap_cons, ← ih]
      exact piecesFrom_append_newline size (size - 1) [] inside rest

/-- A line has a newline at its end only. -/
theorem newline_notMem_of_mem_lines {file line : List UInt8} (member : line ∈ lines file) :
    line ≠ [] ∧ newline ∉ line.dropLast := by
  induction file using lines_induction with
  | empty => cases member
  | last body some_ inside =>
      rw [lines_of_notMem inside some_, List.mem_singleton] at member
      rw [member]
      exact ⟨some_, fun within => inside (List.dropLast_subset body within)⟩
  | line body rest inside ih =>
      rw [lines_append_newline inside] at member
      rcases List.mem_cons.mp member with rfl | later
      · rw [List.dropLast_concat]
        exact ⟨by simp, inside⟩
      · exact ih later

/-- A line is read as far as there is room. -/
theorem readLine_line (room : ℕ) {line : List UInt8} (inside : newline ∉ line.dropLast) :
    readLine room line = (line.take room, line.drop room) := by
  induction line generalizing room with
  | nil => cases room <;> rfl
  | cons byte rest ih =>
      cases room with
      | zero => rfl
      | succ room =>
          rw [readLine]
          by_cases last : rest = []
          · rw [last]
            split
            · simp
            · cases room <;> simp [readLine]
          · rw [List.dropLast_cons_of_ne_nil last] at inside
            obtain ⟨other, later⟩ := not_or.mp (List.mem_cons.not.mp inside)
            rw [if_neg (fun same => other same.symm), ih room later]
            rfl

/-- **The first piece of a line is as much of it as there is room for**, and the others are the
pieces of the rest. -/
theorem pieces_line {size : ℕ} (space : 2 ≤ size) {line : List UInt8} (some_ : line ≠ [])
    (inside : newline ∉ line.dropLast) :
    pieces size line = line.take (size - 1) :: pieces size (line.drop (size - 1)) := by
  rw [pieces_eq space, fgets, if_neg some_, readLine_line _ inside]

/-- A line that there is room for comes as one piece, and the next piece begins behind it. -/
theorem pieces_append_line {size : ℕ} (space : 2 ≤ size) {body : List UInt8}
    (inside : newline ∉ body) (fits : (body ++ [newline]).length ≤ size - 1) (rest : List UInt8) :
    pieces size (body ++ newline :: rest) = (body ++ [newline]) :: pieces size rest := by
  have one : pieces size (body ++ [newline]) = [body ++ [newline]] := by
    rw [pieces_line space (by simp) (by rwa [List.dropLast_concat]),
      List.take_of_length_le fits, List.drop_of_length_le fits]
    rfl
  rw [pieces_eq_flatMap, lines_append_newline inside, List.flatMap_cons, one,
    ← pieces_eq_flatMap]
  rfl

end Msm8660

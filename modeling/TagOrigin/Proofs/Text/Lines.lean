import TagOrigin.Proofs.Text.Runs

/-!
Lines of a text. A text is a last line, or a line, a line feed and a text, and induction along lines
follows these two shapes. The line around an offset needs no list of lines: it reaches back and forth
to the nearest line feeds.
-/
namespace TagOrigin.Text

theorem lines_of_not_mem {t : Text} (clean : '\n' ∉ t) : lines t = [t] :=
  List.splitOn_eq_singleton clean

theorem lines_append_cons {line : Text} (clean : '\n' ∉ line) (rest : Text) :
    lines (line ++ '\n' :: rest) = line :: lines rest := by
  unfold lines
  rw [List.splitOn_append_cons_of_beq line rest (beq_self_eq_true '\n'),
    List.splitOn_eq_singleton clean]
  rfl

/-- What holds of every last line, and of a line before any text of which it holds, holds of every
text. -/
theorem lines_induction {motive : Text → Prop} (last : ∀ line, '\n' ∉ line → motive line)
    (more : ∀ line rest, '\n' ∉ line → motive rest → motive (line ++ '\n' :: rest)) (t : Text) :
    motive t := by
  have clean : '\n' ∉ t.takeWhile (· ≠ '\n') := by
    intro member
    have inside := List.all_eq_true.1 List.all_takeWhile _ member
    simp at inside
  have whole : t.takeWhile (· ≠ '\n') ++ t.dropWhile (· ≠ '\n') = t :=
    List.takeWhile_append_dropWhile
  have stop := List.head?_dropWhile_not (· ≠ '\n') t
  cases behind : t.dropWhile (· ≠ '\n') with
  | nil =>
    rw [behind, List.append_nil] at whole
    exact whole ▸ last _ clean
  | cons c rest =>
    rw [behind] at whole stop
    have feed : c = '\n' := by simpa using stop
    subst feed
    have shorter : rest.length < t.length := by
      rw [← whole, List.length_append, List.length_cons]
      omega
    exact whole ▸ more _ rest clean (lines_induction last more rest)
termination_by t.length

/-- The line around an offset. -/
def lineAt (t : Text) (i : Nat) : Text :=
  ((t.take i).reverse.takeWhile (· ≠ '\n')).reverse ++ (t.drop i).takeWhile (· ≠ '\n')

/-- In a line of its own every offset has the whole line around it. -/
theorem lineAt_of_not_mem {line : Text} (clean : '\n' ∉ line) (i : Nat) : lineAt line i = line := by
  have before : '\n' ∉ (line.take i).reverse := by
    intro member
    exact clean (List.mem_of_mem_take (List.mem_reverse.1 member))
  have behind : '\n' ∉ line.drop i := fun member => clean (List.mem_of_mem_drop member)
  rw [lineAt, takeWhile_ne_of_not_mem before, takeWhile_ne_of_not_mem behind, List.reverse_reverse,
    List.take_append_drop]

/-- What follows a line feed does not change the lines before it. -/
theorem lineAt_append_of_le {line : Text} {i : Nat} (inside : i ≤ line.length) (rest : Text) :
    lineAt (line ++ '\n' :: rest) i = lineAt line i := by
  rw [lineAt, lineAt, List.take_append_of_le_length inside, List.drop_append_of_le_length inside,
    takeWhile_append_stop (by simp)]

/-- What stands before a line feed does not change the lines behind it. -/
theorem lineAt_append_add (line rest : Text) (i : Nat) :
    lineAt (line ++ '\n' :: rest) (line.length + 1 + i) = lineAt rest i := by
  have shape : line ++ '\n' :: rest = (line ++ ['\n']) ++ rest := by simp
  have size : line.length + 1 = (line ++ ['\n']).length := by simp
  have back : (line ++ ['\n'] ++ rest.take i).reverse =
      (rest.take i).reverse ++ '\n' :: line.reverse := by simp
  rw [lineAt, lineAt, shape, size, List.take_length_add_append, List.drop_length_add_append, back,
    takeWhile_append_stop (by simp)]

end TagOrigin.Text

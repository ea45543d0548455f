import ApiGateway.Text.Chars

/-!
# Lines

A text that was put together from lines, each ended by a line feed, is cut into these lines
again, as long as none of them holds a line feed itself (`splitOn_join_lines`).
-/

namespace ApiGateway.Text

/-- Lines that hold no line feed are found again by cutting at the line feeds. -/
theorem splitOn_join_lines {lines : List String} (unbroken : ∀ line ∈ lines, '\n' ∉ line.toList) :
    splitOn '\n' (String.join (lines.map (· ++ "\n"))).toList =
      lines.map String.toList ++ [[]] := by
  induction lines with
  | nil => rfl
  | cons line rest inductionHypothesis =>
      rw [List.forall_mem_cons] at unbroken
      have first : (line ++ "\n").toList = line.toList ++ ['\n'] := by
        rw [String.toList_append]
        rfl
      rw [List.map_cons, String.join_cons, String.toList_append, first, List.append_assoc,
        List.singleton_append, splitOn_append_cons unbroken.1, inductionHypothesis unbroken.2]
      rfl

end ApiGateway.Text

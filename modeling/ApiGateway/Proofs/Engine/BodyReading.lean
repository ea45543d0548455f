import ApiGateway.Engine.Body

/-!
# What becomes of a body

The ends of a body are described here on the list of its pieces alone, and each end
apart from the others: `Oversized`, `Broken` and `Overdue` may hold of one body
together. The size decides first (`readBody_of_oversized`), and a body with none of
the three is read whole (`readBody_of_arrives`).
-/

namespace ApiGateway.Engine

namespace BodyPiece

/-- Data and pauses let a body go on. -/
def flows : BodyPiece → Bool
  | data _ => true
  | pause _ => true
  | _ => false

/-- The bytes that some pieces bring. -/
def content : List BodyPiece → ByteArray
  | [] => .empty
  | data bytes :: rest => bytes ++ content rest
  | _ :: rest => content rest

/-- How long some pieces take. -/
def duration : List BodyPiece → Duration
  | [] => 0
  | pause length :: rest => length + duration rest
  | _ :: rest => duration rest

@[simp] theorem content_append (before rest : List BodyPiece) :
    content (before ++ rest) = content before ++ content rest := by
  induction before with
  | nil => simp [content]
  | cons piece before inductionHypothesis =>
      cases piece <;> simp [content, inductionHypothesis, ByteArray.append_assoc]

@[simp] theorem duration_append (before rest : List BodyPiece) :
    duration (before ++ rest) = duration before + duration rest := by
  induction before with
  | nil => simp [duration]
  | cons piece before inductionHypothesis =>
      cases piece <;> simp [duration, inductionHypothesis, Nat.add_assoc]

end BodyPiece

open BodyPiece (content duration)

/-- All of some pieces arrive within a time. -/
structure Arrives (timeout : Duration) (pieces : List BodyPiece) : Prop where
  flowing : ∀ piece ∈ pieces, piece.flows = true
  inTime : duration pieces ≤ timeout

/-- More than the cap arrives in time. -/
def Oversized (maxBytes : Nat) (timeout : Duration) (pieces : List BodyPiece) : Prop :=
  ∃ before rest, pieces = before ++ rest ∧ Arrives timeout before ∧
    maxBytes < (content before).size

/-- Reading fails for a reason, in time. -/
def Broken (timeout : Duration) (reason : String) (pieces : List BodyPiece) : Prop :=
  ∃ before rest, pieces = before ++ .failure reason :: rest ∧ Arrives timeout before

/-- The body neither ends nor breaks off in time: it stalls, or a pause takes too long. -/
def Overdue (timeout : Duration) (pieces : List BodyPiece) : Prop :=
  ∃ before piece rest, pieces = before ++ piece :: rest ∧ Arrives timeout before ∧
    (piece = .stall ∨ ∃ length, piece = .pause length ∧ timeout < duration before + length)

section Arriving

variable {maxBytes : Nat} {timeout : Duration} {pieces before rest : List BodyPiece}

theorem Arrives.nil : Arrives timeout [] where
  flowing piece member := by cases member
  inTime := Nat.zero_le _

theorem Arrives.append_singleton {piece : BodyPiece} (arrives : Arrives timeout before)
    (flows : piece.flows = true) (inTime : duration (before ++ [piece]) ≤ timeout) :
    Arrives timeout (before ++ [piece]) where
  flowing other member := by
    rcases List.mem_append.mp member with earlier | last
    · exact arrives.flowing other earlier
    · rw [List.mem_singleton.mp last]
      exact flows
  inTime := inTime

/-- A body arrives whole, breaks off or is overdue. -/
theorem Arrives.of_neither (unbroken : ∀ reason, ¬ Broken timeout reason pieces)
    (notOverdue : ¬ Overdue timeout pieces) : Arrives timeout pieces := by
  suffices grows : ∀ before rest, pieces = before ++ rest → Arrives timeout before →
      Arrives timeout pieces from grows [] pieces rfl .nil
  intro before rest split arrives
  induction rest generalizing before with
  | nil =>
      rw [split, List.append_nil]
      exact arrives
  | cons piece rest inductionHypothesis =>
      have next (flows : piece.flows = true) (inTime : duration (before ++ [piece]) ≤ timeout) :
          Arrives timeout pieces :=
        inductionHypothesis (before ++ [piece]) (by simp [split])
          (arrives.append_singleton flows inTime)
      cases piece with
      | data bytes =>
          refine next rfl ?_
          simpa [duration] using arrives.inTime
      | pause length =>
          have notLate : ¬ timeout < duration before + length := fun late =>
            notOverdue ⟨before, _, rest, split, arrives, .inr ⟨length, rfl, late⟩⟩
          refine next rfl ?_
          simpa [duration] using notLate
      | stall => exact absurd ⟨before, _, rest, split, arrives, .inl rfl⟩ notOverdue
      | failure reason => exact absurd ⟨before, rest, split, arrives⟩ (unbroken reason)

end Arriving

section Reading

variable {maxBytes : Nat} {timeout : Duration} {deadline now : Instant} {received : ByteArray}
  {pieces before rest : List BodyPiece}

/-- A reader goes past what arrives in time and fits. -/
theorem readBodyFrom_append (flowing : ∀ piece ∈ before, piece.flows = true)
    (inTime : now + duration before ≤ deadline)
    (fits : received.size + (content before).size ≤ maxBytes) (rest : List BodyPiece) :
    readBodyFrom maxBytes deadline now received (before ++ rest) =
      readBodyFrom maxBytes deadline (now + duration before) (received ++ content before)
        rest := by
  induction before generalizing now received with
  | nil => simp [duration, content]
  | cons piece before inductionHypothesis =>
      have flowingRest := fun other member => flowing other (List.mem_cons_of_mem piece member)
      cases piece with
      | data bytes =>
          simp only [content, ByteArray.size_append] at fits
          have small : ¬ maxBytes < received.size + bytes.size := by omega
          rw [List.cons_append, readBodyFrom, if_neg small,
            inductionHypothesis flowingRest inTime (by rw [ByteArray.size_append]; omega)]
          simp only [duration, content, ByteArray.append_assoc]
      | pause length =>
          have inTimeRest : now + length + duration before ≤ deadline := by
            rw [Int.add_assoc]
            exact inTime
          have early : now + length ≤ deadline :=
            Int.le_trans (Int.le_add_of_nonneg_right (Int.natCast_nonneg _)) inTimeRest
          rw [List.cons_append, readBodyFrom, if_pos early,
            inductionHypothesis flowingRest inTimeRest fits, Int.add_assoc]
          simp only [duration, content]
          rfl
      | stall => cases flowing _ List.mem_cons_self
      | failure reason => cases flowing _ List.mem_cons_self

/-- A body that has arrived when too much of it is there is too large, and nobody waits for its
rest. -/
theorem readBodyFrom_of_oversized (flowing : ∀ piece ∈ before, piece.flows = true)
    (inTime : now + duration before ≤ deadline) (fits : received.size ≤ maxBytes)
    (large : maxBytes < received.size + (content before).size) (rest : List BodyPiece) :
    (readBodyFrom maxBytes deadline now received (before ++ rest)).result =
      .error .tooLarge := by
  induction before generalizing now received with
  | nil => simp only [content, ByteArray.size_empty] at large; omega
  | cons piece before inductionHypothesis =>
      have flowingRest := fun other member => flowing other (List.mem_cons_of_mem piece member)
      cases piece with
      | data bytes =>
          rw [List.cons_append, readBodyFrom]
          split
          · rfl
          · next small =>
              refine inductionHypothesis flowingRest inTime ?_ ?_
              · rw [ByteArray.size_append]
                omega
              · simpa [content, Nat.add_assoc] using large
      | pause length =>
          have inTimeRest : now + length + duration before ≤ deadline := by
            rw [Int.add_assoc]
            exact inTime
          have early : now + length ≤ deadline :=
            Int.le_trans (Int.le_add_of_nonneg_right (Int.natCast_nonneg _)) inTimeRest
          rw [List.cons_append, readBodyFrom, if_pos early]
          exact inductionHypothesis flowingRest inTimeRest fits large
      | stall => cases flowing _ List.mem_cons_self
      | failure reason => cases flowing _ List.mem_cons_self

/-- A reader is done by the deadline. -/
theorem finished_readBodyFrom (early : now ≤ deadline) :
    now ≤ (readBodyFrom maxBytes deadline now received pieces).finished ∧
      (readBodyFrom maxBytes deadline now received pieces).finished ≤ deadline := by
  induction pieces generalizing now received with
  | nil => exact ⟨Int.le_refl _, early⟩
  | cons piece rest inductionHypothesis =>
      cases piece with
      | data bytes =>
          rw [readBodyFrom]
          split
          · exact ⟨Int.le_refl _, early⟩
          · exact inductionHypothesis early
      | pause length =>
          rw [readBodyFrom]
          split
          · next inTime =>
              obtain ⟨notBefore, byDeadline⟩ := @inductionHypothesis _ received inTime
              have later : now ≤ now + length :=
                Int.le_add_of_nonneg_right (Int.natCast_nonneg _)
              exact ⟨Int.le_trans later notBefore, byDeadline⟩
          · exact ⟨early, Int.le_refl _⟩
      | stall => exact ⟨early, Int.le_refl _⟩
      | failure reason => exact ⟨Int.le_refl _, early⟩

/-- What arrives in time is not too large if the body is not. -/
theorem Arrives.fits (arrives : Arrives timeout before)
    (notOversized : ¬ Oversized maxBytes timeout (before ++ rest)) :
    (content before).size ≤ maxBytes :=
  Nat.not_lt.mp fun large => notOversized ⟨before, rest, rfl, arrives, large⟩

variable (now)

theorem Arrives.inTime_from (arrives : Arrives timeout before) :
    now + duration before ≤ now + timeout :=
  Int.add_le_add_left (Int.ofNat_le.mpr arrives.inTime) now

theorem readBody_append (arrives : Arrives timeout before)
    (fits : (content before).size ≤ maxBytes) (rest : List BodyPiece) :
    readBody maxBytes now (now + timeout) (before ++ rest) =
      readBodyFrom maxBytes (now + timeout) (now + duration before) (content before) rest := by
  rw [readBody, readBodyFrom_append arrives.flowing (arrives.inTime_from now)
    (by simpa using fits), ByteArray.empty_append]

theorem readBody_of_oversized (oversized : Oversized maxBytes timeout pieces) :
    (readBody maxBytes now (now + timeout) pieces).result = .error .tooLarge := by
  obtain ⟨before, rest, rfl, arrives, large⟩ := oversized
  exact readBodyFrom_of_oversized arrives.flowing (arrives.inTime_from now) (Nat.zero_le _)
    (by simpa using large) rest

theorem readBody_of_broken {reason : String} (broken : Broken timeout reason pieces)
    (notOversized : ¬ Oversized maxBytes timeout pieces) :
    (readBody maxBytes now (now + timeout) pieces).result = .error (.failed reason) := by
  obtain ⟨before, rest, rfl, arrives⟩ := broken
  rw [readBody_append now arrives (arrives.fits notOversized), readBodyFrom]

/-- An overdue body is given up at the deadline. -/
theorem readBody_of_overdue (overdue : Overdue timeout pieces)
    (notOversized : ¬ Oversized maxBytes timeout pieces) :
    readBody maxBytes now (now + timeout) pieces = ⟨now + timeout, .error .timedOut⟩ := by
  obtain ⟨before, piece, rest, rfl, arrives, rfl | ⟨length, rfl, late⟩⟩ := overdue
  · rw [readBody_append now arrives (arrives.fits notOversized), readBodyFrom]
  · have pastDeadline : ¬ now + duration before + length ≤ now + timeout := by
      rw [Int.add_assoc, Int.add_le_add_iff_left]
      exact Int.not_le.mpr (Int.ofNat_lt.mpr late)
    rw [readBody_append now arrives (arrives.fits notOversized), readBodyFrom, if_neg pastDeadline]

/-- The end of a body is known by the deadline. -/
theorem finished_readBody (maxBytes : Nat) (timeout : Duration) (pieces : List BodyPiece) :
    now ≤ (readBody maxBytes now (now + timeout) pieces).finished ∧
      (readBody maxBytes now (now + timeout) pieces).finished ≤ now + timeout :=
  finished_readBodyFrom (Int.le_add_of_nonneg_right (Int.natCast_nonneg timeout))

/-- A body that arrives and fits is read when its last piece is there. -/
theorem readBody_of_arrives (arrives : Arrives timeout pieces)
    (notOversized : ¬ Oversized maxBytes timeout pieces) :
    readBody maxBytes now (now + timeout) pieces =
      ⟨now + duration pieces, .ok (content pieces)⟩ := by
  have fits : (content pieces).size ≤ maxBytes := Nat.not_lt.mp fun large =>
    notOversized ⟨pieces, [], (List.append_nil _).symm, arrives, large⟩
  have whole := readBody_append now arrives fits []
  rw [List.append_nil] at whole
  rw [whole, readBodyFrom]

end Reading

end ApiGateway.Engine

import ClosureTemplate.Doc.Buffer

namespace ClosureTemplate.Doc.Buffer

variable (buffer : Buffer)

@[simp]
theorem reset_pending : buffer.reset.pending = [] := rfl

@[simp]
theorem append_pending (text : Text) : (buffer.append text).pending = buffer.pending ++ text := rfl

theorem startParameter_frame (isOptional : Bool) (body : Text) :
    (buffer.startParameter isOptional body).namespaceName = buffer.namespaceName ∧
      (buffer.startParameter isOptional body).pending = buffer.pending := by
  unfold startParameter
  dsimp only
  split <;> exact ⟨rfl, rfl⟩

theorem continueSection_frame (line : Text) :
    (buffer.continueSection line).namespaceName = buffer.namespaceName ∧
      (buffer.continueSection line).pending = buffer.pending := by
  unfold continueSection
  split
  · exact ⟨rfl, rfl⟩
  · split <;> exact ⟨rfl, rfl⟩
  · exact ⟨rfl, rfl⟩

theorem readLine_frame (raw : Text) :
    (buffer.readLine raw).namespaceName = buffer.namespaceName ∧
      (buffer.readLine raw).pending = buffer.pending := by
  unfold readLine
  dsimp only
  split
  · exact startParameter_frame _ _ _
  · exact continueSection_frame _ _

theorem readLines_frame (lines : List Text) :
    (lines.foldl readLine buffer).namespaceName = buffer.namespaceName ∧
      (lines.foldl readLine buffer).pending = buffer.pending := by
  induction lines generalizing buffer with
  | nil => exact ⟨rfl, rfl⟩
  | cons line lines ih =>
    obtain ⟨namespaceName, pending⟩ := ih (buffer.readLine line)
    rw [(buffer.readLine_frame line).1] at namespaceName
    rw [(buffer.readLine_frame line).2] at pending
    exact ⟨namespaceName, pending⟩

@[simp]
theorem flush_namespaceName : buffer.flush.namespaceName = buffer.namespaceName :=
  (readLines_frame _ _).1

@[simp]
theorem flush_pending : buffer.flush.pending = (splitLines buffer.pending).2 :=
  (readLines_frame _ _).2

@[simp]
theorem close_namespaceName : buffer.close.namespaceName = buffer.namespaceName := by
  unfold close
  dsimp only
  split
  · exact buffer.flush_namespaceName
  · rw [(readLine_frame _ _).1]
    exact buffer.flush_namespaceName

@[simp]
theorem close_pending : buffer.close.pending = [] := by
  unfold close
  dsimp only
  split
  · next empty => exact List.isEmpty_iff.mp empty
  · rw [(readLine_frame _ _).2]

@[simp]
theorem anticipating_namespaceName : buffer.anticipating.2.namespaceName = buffer.namespaceName :=
  buffer.flush_namespaceName

@[simp]
theorem anticipating_pending :
    buffer.anticipating.2.pending = (splitLines buffer.pending).2 :=
  buffer.flush_pending

theorem anticipating_fst :
    buffer.anticipating.1 = anticipatesName (splitLines buffer.pending).2 := by
  rw [← flush_pending]
  rfl

end ClosureTemplate.Doc.Buffer

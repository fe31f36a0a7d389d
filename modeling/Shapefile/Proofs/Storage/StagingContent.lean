import Shapefile.Storage.Staging

/-! What was put into a staging area, whatever its capacity. The chunks sent
and the bytes still staged are always the puts one after the other, so where
the chunks are cut shows in nothing that a reader of the channel sees. -/
namespace Shapefile.Staging

/-- Sending leaves nothing staged. -/
theorem send_staged (s : Staging) : s.send.staged = #[] := by
  unfold send
  split
  next hEmpty => simpa using hEmpty
  next hStaged => rfl

/-- After sending, the chunks sent are everything that was put. -/
theorem send_sent (s : Staging) : s.send.sent.flatten = s.content := by
  unfold send
  split
  next hEmpty =>
    have hNothing : s.staged = #[] := by simpa using hEmpty
    simp [content, hNothing]
  next hStaged => rw [Array.push_eq_append, Array.flatten_append, Array.flatten_singleton, content]

@[simp] theorem send_content (s : Staging) : s.send.content = s.content := by
  rw [content, send_sent, send_staged, Array.append_empty]

@[simp] theorem reserve_content (s : Staging) (length : Nat) :
    (s.reserve length).content = s.content := by
  unfold reserve
  split
  · exact s.send_content
  · rfl

@[simp] theorem send_written (s : Staging) : s.send.written = s.written := by
  unfold send
  split <;> rfl

@[simp] theorem reserve_written (s : Staging) (length : Nat) :
    (s.reserve length).written = s.written := by
  unfold reserve
  split
  · exact s.send_written
  · rfl

theorem put_content (s : Staging) (bytes : List UInt8) :
    (s.put bytes).content.toList = s.content.toList ++ bytes := by
  have hReserved := congrArg Array.toList (s.reserve_content bytes.length)
  simp only [content, Array.toList_append] at hReserved
  simp only [put, content, Array.toList_append, ← hReserved, List.append_assoc]
  simp

theorem put_written (s : Staging) (bytes : List UInt8) :
    (s.put bytes).written = s.written + bytes.length := by
  simp [put]

theorem putAll_content (s : Staging) (puts : List (List UInt8)) :
    (s.putAll puts).content.toList = s.content.toList ++ puts.flatten := by
  induction puts generalizing s with
  | nil => simp [putAll]
  | cons bytes puts ih =>
      have hRest := ih (s.put bytes)
      rw [put_content, List.append_assoc] at hRest
      exact hRest

theorem putAll_written (s : Staging) (puts : List (List UInt8)) :
    (s.putAll puts).written = s.written + puts.flatten.length := by
  induction puts generalizing s with
  | nil => rfl
  | cons bytes puts ih =>
      have hRest := ih (s.put bytes)
      rw [put_written, Nat.add_assoc] at hRest
      rw [List.flatten_cons, List.length_append]
      exact hRest

/-- Flushing sends everything. -/
theorem flush_sent (s : Staging) : s.flush.sent.flatten = s.content := s.send_sent

/-- What is handed over comes before what is kept. -/
theorem collect_content (s : Staging) :
    s.collect.1.flatten ++ s.collect.2.content = s.content := by
  simp [collect, content]

end Shapefile.Staging

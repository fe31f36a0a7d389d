import Shapefile.Storage.Window

/-! A window on a channel that keeps its content answers every reading
program as the whole content would. The answer, the cursor and the error do
not depend on the capacity or on what is resident. -/
namespace Shapefile.Window

variable {ε α : Type}

/-- The resident bytes are those that the channel has where the window
stands. This holds from the first load on, as long as the content stays. -/
structure Views (w : Window) (channel : Bytes) : Prop where
  size_eq : w.channelSize = channel.size
  inside : w.start + w.resident.size ≤ channel.size
  resident_eq : w.resident = channel.extract w.start (w.start + w.resident.size)

/-- The window moved to a request, as one load leaves it. -/
def movedTo (w : Window) (channel : Bytes) (position length : Nat) : Window :=
  { w with
    start := position
    resident := channel.extract position (position + w.loadSize position length)
    loads := (position, w.loadSize position length) :: w.loads }

/-- The window after a request. It moves only for bytes that the channel has
and that are not all resident. -/
def afterRequest (w : Window) (channel : Bytes) (position length : Nat) : Window :=
  if w.Covers position length ∨ channel.size < position + length then w
  else w.movedTo channel position length

theorem afterRequest_cursor (w : Window) (channel : Bytes) (position length : Nat) :
    (w.afterRequest channel position length).cursor = w.cursor := by
  unfold afterRequest
  split <;> rfl

theorem afterRequest_capacity (w : Window) (channel : Bytes) (position length : Nat) :
    (w.afterRequest channel position length).capacity = w.capacity := by
  unfold afterRequest
  split <;> rfl

theorem afterRequest_of_past {w : Window} {channel : Bytes} {position length : Nat}
    (hPast : channel.size < position + length) : w.afterRequest channel position length = w :=
  if_pos (Or.inr hPast)

/-- A load that starts inside the channel gets every byte it asks for. -/
theorem load_eq_movedTo {w : Window} {channel : Bytes} (hSize : w.channelSize = channel.size)
    (position length : Nat) :
    w.load channel position length = (.ok (), w.movedTo channel position length) := by
  have hLoad : (channel.extract position (position + w.loadSize position length)).size =
      w.loadSize position length := by
    simp only [Array.size_extract, loadSize, hSize]
    omega
  rw [load, if_pos hLoad]
  rfl

theorem Views.movedTo {w : Window} {channel : Bytes} (h : w.Views channel)
    {position length : Nat} (hInside : position ≤ channel.size) :
    (w.movedTo channel position length).Views channel := by
  have hSize : (channel.extract position (position + w.loadSize position length)).size =
      w.loadSize position length := by
    simp only [Array.size_extract, loadSize, h.size_eq]
    omega
  refine ⟨h.size_eq, ?_, ?_⟩
  · simp only [Window.movedTo, hSize]
    simp only [loadSize, h.size_eq]
    omega
  · simp only [Window.movedTo, hSize]

theorem Views.afterRequest {w : Window} {channel : Bytes} (h : w.Views channel)
    (position length : Nat) : (w.afterRequest channel position length).Views channel := by
  unfold Window.afterRequest
  split
  · exact h
  · exact h.movedTo (by omega)

theorem Views.withCursor {w : Window} {channel : Bytes} (h : w.Views channel) (cursor : Cursor) :
    ({ w with cursor } : Window).Views channel := ⟨h.size_eq, h.inside, h.resident_eq⟩

/-- Bytes that are resident are inside the channel. -/
theorem Views.covers_inside {w : Window} {channel : Bytes} (h : w.Views channel)
    {position length : Nat} (hCovers : w.Covers position length) :
    position + length ≤ channel.size := by
  have hInside := h.inside
  obtain ⟨_, hStop⟩ := hCovers
  omega

/-- A slice of the window is a slice of the channel. -/
theorem Views.extract_resident {w : Window} {channel : Bytes} (h : w.Views channel)
    {position length : Nat} (hCovers : w.Covers position length) :
    w.resident.extract (position - w.start) (position - w.start + length) =
      channel.extract position (position + length) := by
  obtain ⟨hStart, hStop⟩ := hCovers
  rw [h.resident_eq, Array.extract_extract]
  congr 1
  · omega
  · omega

/-- One request: the bytes of the channel and a window moved at most once, or
a refusal that leaves the window alone. -/
theorem Views.fetch_eq {w : Window} {channel : Bytes} (h : w.Views channel)
    (position length : Nat) :
    w.fetch channel position length =
      if position + length ≤ channel.size then
        (.ok (channel.extract position (position + length)),
          w.afterRequest channel position length)
      else (.error (.pastEnd position length channel.size), w) := by
  simp only [fetch]
  by_cases hCovers : w.Covers position length
  · rw [if_pos hCovers, if_pos (h.covers_inside hCovers), Window.afterRequest,
      if_pos (Or.inl hCovers), h.extract_resident hCovers]
  · rw [if_neg hCovers, h.size_eq]
    by_cases hPast : channel.size < position + length
    · rw [if_pos hPast, if_neg (by omega)]
    · rw [if_neg hPast, if_pos (by omega), load_eq_movedTo h.size_eq, Window.afterRequest,
        if_neg (by simp [hCovers, hPast])]
      have hSlice : (w.movedTo channel position length).resident.extract 0 length =
          channel.extract position (position + length) := by
        simp only [Window.movedTo, loadSize, h.size_eq, Array.extract_extract]
        congr 1
        omega
      simp only [hSlice]

/-- A freshly opened window shows the start of the channel. -/
theorem onChannel_eq (channel : Bytes) (capacity : Nat) :
    onChannel channel capacity =
      { channelSize := channel.size
        capacity
        resident := channel.extract 0 (min capacity channel.size)
        loads := [(0, min capacity channel.size)] } := by
  rw [onChannel, load_eq_movedTo rfl]
  simp [movedTo, loadSize]

theorem views_onChannel (channel : Bytes) (capacity : Nat) :
    (onChannel channel capacity).Views channel := by
  rw [onChannel_eq]
  refine ⟨rfl, ?_, ?_⟩
  · simp only [Array.size_extract]
    omega
  · simp

@[simp] theorem cursor_onChannel (channel : Bytes) (capacity : Nat) :
    (onChannel channel capacity).cursor = {} := by
  rw [onChannel_eq]

/-- Running through the window and running on the whole content end with the
same result and the same cursor, and the window still views the channel. -/
theorem Views.run_eq [OfStorage ε] {w : Window} {channel : Bytes} (h : w.Views channel)
    (program : Reading ε α) :
    (w.run channel program).1 = (program.onBytes channel w.cursor).1 ∧
      (w.run channel program).2.cursor = (program.onBytes channel w.cursor).2 ∧
      (w.run channel program).2.Views channel := by
  induction program generalizing w with
  | done value => exact ⟨rfl, rfl, h⟩
  | fail error => exact ⟨rfl, rfl, h⟩
  | fetch position length next ih =>
      rw [run, h.fetch_eq, Reading.onBytes]
      by_cases hFits : position + length ≤ channel.size
      · have hNext := ih (channel.extract position (position + length))
          (h.afterRequest position length)
        rw [w.afterRequest_cursor channel position length] at hNext
        simpa only [if_pos hFits] using hNext
      · simpa only [if_neg hFits, true_and] using h
  | inspect next ih =>
      rw [run, h.size_eq, Reading.onBytes]
      exact ih _ _ h
  | place cursor next ih =>
      rw [run, Reading.onBytes]
      exact ih (h.withCursor cursor)

/-- A program that succeeds on the whole content succeeds through the window. -/
theorem Views.run_ok [OfStorage ε] {w : Window} {channel : Bytes} (h : w.Views channel)
    {program : Reading ε α} {value : α} {cursor : Cursor}
    (hProgram : program.onBytes channel w.cursor = (.ok value, cursor)) :
    ∃ next, w.run channel program = (.ok value, next) ∧ next.cursor = cursor ∧
      next.Views channel := by
  obtain ⟨hResult, hCursor, hViews⟩ := h.run_eq program
  rw [hProgram] at hResult hCursor
  exact ⟨(w.run channel program).2, Prod.ext hResult rfl, hCursor, hViews⟩

/-- Through a fresh window, a program gives what it gives on the whole content. -/
theorem run_onChannel [OfStorage ε] (channel : Bytes) (capacity : Nat) (program : Reading ε α) :
    ((onChannel channel capacity).run channel program).1 = (program.onBytes channel {}).1 ∧
      ((onChannel channel capacity).run channel program).2.Views channel := by
  obtain ⟨hResult, _, hViews⟩ := (views_onChannel channel capacity).run_eq program
  rw [cursor_onChannel] at hResult
  exact ⟨hResult, hViews⟩

end Shapefile.Window

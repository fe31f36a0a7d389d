import Shapefile.Proofs.Storage.ReadingBack

/-! What is known of a channel once a program has read from it. A sequence
that succeeded is taken apart into its steps, and each step says what it found
and how far it moved the cursor. -/
namespace Shapefile.Reading

variable {ε α β : Type} [OfStorage ε] {channel : Bytes} {position : Nat} {order : ByteOrder}
  {last : Cursor}

/-- The first step of a program that succeeds, and the rest of it. -/
theorem onBytes_bind_ok {program : Reading ε α} {next : α → Reading ε β} {cursor : Cursor}
    {result : β} (hBoth : (program.bind next).onBytes channel cursor = (.ok result, last)) :
    ∃ value middle, program.onBytes channel cursor = (.ok value, middle) ∧
      (next value).onBytes channel middle = (.ok result, last) := by
  rw [onBytes_bind] at hBoth
  rcases hFirst : program.onBytes channel cursor with ⟨e | value, middle⟩
  · rw [hFirst] at hBoth
    cases hBoth
  · rw [hFirst] at hBoth
    exact ⟨value, middle, rfl, hBoth⟩

theorem onBytes_ofExcept_ok {result : Except ε α} {value : α} {cursor : Cursor}
    (hOk : (ofExcept result).onBytes channel cursor = (.ok value, last)) :
    result = .ok value ∧ last = cursor := by
  cases result with
  | error e => cases hOk
  | ok other =>
      cases hOk
      exact ⟨rfl, rfl⟩

theorem onBytes_skip_ok {length : Nat} {value : Unit}
    (hOk : (skip length : Reading ε Unit).onBytes channel ⟨position, order⟩ = (.ok value, last)) :
    last = ⟨position + length, order⟩ := by
  cases hOk
  rfl

/-- A read at the cursor moves it by what was read, if the read at a position
leaves it alone. -/
theorem onBytes_advancing_ok {read : Nat → Reading ε α} {length : Nat} {value : α}
    (hStays : ∀ value last,
      (read position).onBytes channel ⟨position, order⟩ = (.ok value, last) →
        last = ⟨position, order⟩)
    (hOk : (advancing length read).onBytes channel ⟨position, order⟩ = (.ok value, last)) :
    (read position).onBytes channel ⟨position, order⟩ = (.ok value, ⟨position, order⟩) ∧
      last = ⟨position + length, order⟩ := by
  have hProgram : (advancing length read : Reading ε α) =
      Reading.position.bind fun start => (read start).bind fun value =>
        (skip length).bind fun _ => .done value := rfl
  rw [hProgram] at hOk
  obtain ⟨_, _, hStart, hOk⟩ := onBytes_bind_ok hOk
  cases hStart
  obtain ⟨found, middle, hFound, hOk⟩ := onBytes_bind_ok hOk
  cases hStays found middle hFound
  cases hOk
  exact ⟨hFound, rfl⟩

/-- One request at a position, and what is made of its bytes. -/
theorem onBytes_fetch_ok {length : Nat} {decode : Bytes → α} {value : α} {cursor : Cursor}
    (hOk : (fetch position length fun bytes => .done (decode bytes) : Reading ε α).onBytes channel
      cursor = (.ok value, last)) :
    value = decode (channel.extract position (position + length)) ∧ last = cursor := by
  simp only [onBytes] at hOk
  split at hOk
  · cases hOk
    exact ⟨rfl, rfl⟩
  · cases hOk

theorem onBytes_uint8_ok {value : UInt8}
    (hOk : (uint8 : Reading ε UInt8).onBytes channel ⟨position, order⟩ = (.ok value, last)) :
    value = channel[position]?.getD 0 ∧ last = ⟨position + 1, order⟩ := by
  obtain ⟨hRead, hLast⟩ := onBytes_advancing_ok (fun _ _ hRead => (onBytes_fetch_ok hRead).2) hOk
  refine ⟨?_, hLast⟩
  rw [(onBytes_fetch_ok hRead).1, Array.getElem?_extract]
  split
  next hInside => rfl
  next hPast => rw [Array.getElem?_eq_none (by omega)]

theorem onBytes_number_ok {length : Nat} {decode : ByteOrder → List UInt8 → α} {value : α}
    (hOk : (advancing length (numberAt length decode) : Reading ε α).onBytes channel
      ⟨position, order⟩ = (.ok value, last)) : last = ⟨position + length, order⟩ := by
  refine (onBytes_advancing_ok (fun found middle hRead => ?_) hOk).2
  simp only [numberAt, onBytes] at hRead
  split at hRead
  · cases hRead
    rfl
  · cases hRead

theorem onBytes_bytes_ok {length : Nat} {value : Bytes}
    (hOk : (bytes length : Reading ε Bytes).onBytes channel ⟨position, order⟩ =
      (.ok value, last)) : last = ⟨position + length, order⟩ :=
  (onBytes_advancing_ok (fun _ _ hRead => (onBytes_fetch_ok hRead).2) hOk).2

/-- Reads for each item of a list, all of which succeeded. -/
theorem length_of_onBytes_mapM {γ : Type} {items : List γ} {read : γ → Reading ε α}
    {values : List α} {cursor : Cursor}
    (hOk : (items.mapM read).onBytes channel cursor = (.ok values, last)) :
    values.length = items.length := by
  induction items generalizing values cursor with
  | nil =>
      cases hOk
      rfl
  | cons item items ih =>
      rw [List.mapM_cons] at hOk
      obtain ⟨first, middle, _, hOk⟩ := onBytes_bind_ok hOk
      obtain ⟨rest, final, hRest, hOk⟩ := onBytes_bind_ok hOk
      cases hOk
      rw [List.length_cons, ih hRest, List.length_cons]

end Shapefile.Reading

import IpmiRs.Library.Checked

/-! Memories of bytes that are read and written at an offset. -/
namespace IpmiRs.Library.Memory

variable {α : Type*}

/-- A memory with other bytes from an offset on. -/
def overwrite (memory : List α) (offset : Nat) (bytes : List α) : List α :=
  memory.take offset ++ bytes ++ memory.drop (offset + bytes.length)

/-- The bytes of a memory from an offset on. -/
def bytesAt (memory : List α) (offset count : Nat) : List α := (memory.drop offset).take count

theorem length_bytesAt {memory : List α} {offset count : Nat} (inside : offset + count ≤ memory.length) :
    (bytesAt memory offset count).length = count := by
  rw [bytesAt, List.length_take, List.length_drop]
  omega

/-- Bytes that follow each other. -/
theorem take_append_bytesAt (memory : List α) (offset count : Nat) :
    memory.take offset ++ bytesAt memory offset count = memory.take (offset + count) := by
  rw [bytesAt, List.take_add]

theorem overwrite_take {memory image : List α} {offset : Nat} (before : memory.take offset = image.take offset)
    (inside : offset ≤ memory.length) (count : Nat) (length : (bytesAt image offset count).length = count) :
    (overwrite memory offset (bytesAt image offset count)).take (offset + count) = image.take (offset + count) := by
  have first : (image.take offset ++ bytesAt image offset count).length = offset + count := by
    rw [← before, List.length_append, List.length_take_of_le inside, length]
  rw [overwrite, before, List.take_left' first, take_append_bytesAt]

theorem overwrite_length {memory bytes : List α} {offset : Nat}
    (inside : offset + bytes.length ≤ memory.length) : (overwrite memory offset bytes).length = memory.length := by
  rw [overwrite, List.length_append, List.length_append, List.length_take, List.length_drop]
  omega

/-- `memory[offset..offset + bytes.len()].copy_from_slice(bytes)` -/
def copyInto {α ε : Type} (memory : List α) (offset : Nat) (bytes : List α) : Checked ε (List α) :=
  if offset + bytes.length ≤ memory.length then pure (overwrite memory offset bytes) else Checked.panicked

theorem yields_copyInto {α ε : Type} {memory bytes : List α} {offset : Nat}
    (inside : offset + bytes.length ≤ memory.length) :
    Checked.Yields (fun copied => copied = overwrite memory offset bytes)
      (copyInto memory offset bytes : Checked ε (List α)) := by
  rw [copyInto, if_pos inside]
  exact Checked.Yields.pure rfl

end IpmiRs.Library.Memory

import NewsSearch.Data.Wording

/-!
Keys in messages.

Documents and filters are read from mappings whose keys may be any scalars, and a fault names the
key at which it was found.  A key that is no text is named as it is shown, but an integer may have
too many digits to be written out at all; then that is the fault.
-/

namespace NewsSearch.Scalar

/-- The fault that names the key, or that the key has no name. -/
def named (key : Scalar) (fault : String → Fault) : Fault :=
  if key.isTooLong then .type (.json .integer) else fault key.plain

/-- A text is named as it is. -/
@[simp] theorem named_text (name : String) (fault : String → Fault) :
    named (.text name) fault = fault name := rfl

/-- A key has its name, or it is too long for one. -/
theorem named_cases (key : Scalar) (fault : String → Fault) :
    key.named fault = fault key.plain ∨
      key.isTooLong = true ∧ key.named fault = .type (.json .integer) := by
  unfold named
  split
  · next hlong => exact .inr ⟨hlong, rfl⟩
  · exact .inl rfl

/-- The fault of a key that is asked for its first character and is no text.  Bytes have one, but
    not as a text. -/
def withoutPrefix : Scalar → Fault
  | other "bytes" _ => .type .bytesPrefix
  | key => .noAttribute key.fullTypeName "startswith"

end NewsSearch.Scalar

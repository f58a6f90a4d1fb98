/-!
# Handles

A handle names one occupant of a heap slot: the slot's index together with the
generation at which the occupant moved in.  A slot that is reused advances its
generation, so a handle to an earlier occupant no longer resolves.

One handle, `Handle.null`, names nothing at all.
-/

namespace Custody

/--
The identity of a heap object: a slot index and the slot's generation at the
time the object was allocated.
-/
structure Handle where
  index : UInt32
  generation : UInt32
deriving DecidableEq, Repr, Inhabited

namespace Handle

/-- The handle that never refers to an object. -/
def null : Handle :=
  ⟨0xFFFFFFFF, 0xFFFFFFFF⟩

/-- Whether a handle is the null handle. -/
def isNull (handle : Handle) : Bool :=
  decide (handle = null)

@[simp]
theorem isNull_iff (handle : Handle) :
    handle.isNull = true ↔ handle = null := by
  simp [isNull]

/-- The reader's form of a handle: the index in hexadecimal, then the generation. -/
def render (handle : Handle) : String :=
  if handle.isNull then
    "<null>"
  else
    "0x" ++ String.ofList (Nat.toDigits 16 handle.index.toNat) ++ "@" ++
      toString handle.generation.toNat

/-- The diagnostic form of a handle: the index in decimal, then the generation. -/
def describe (handle : Handle) : String :=
  if handle.isNull then
    "ObjId(NULL)"
  else
    "ObjId(" ++ toString handle.index.toNat ++ "@" ++
      toString handle.generation.toNat ++ ")"

end Handle

end Custody

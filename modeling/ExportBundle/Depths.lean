/-! How deep values may stand in each other. Work on a value goes down into it call by call, and the
stack bounds the calls that are not done with. How many are left to the work depends on the
interpreter, on what is done with the value and on where that is done. -/

namespace ExportBundle

class Depths where
  reading : Nat
  encoding : Nat
  showing : Nat
  merging : Nat

/-- Room for some calls, of which encoding takes two for each value. -/
@[reducible] def Depths.ofCalls (calls : Nat) : Depths := ⟨calls, calls / 2, calls, calls⟩

end ExportBundle

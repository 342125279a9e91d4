/-
  Scenes whose coordinates are read as what they are.

  `Scene.reread_of_isStable`: such a scene is read back from its text as it was.
-/
import SpriteScene.Proofs.Scene.Finite

namespace SpriteScene

theorem Binary64.reread_zero : Binary64.zero.reread = .ok .zero :=
  IsShort.reread_eq_ok ⟨false, 0, 0, by decide, Or.inl rfl, rfl⟩

namespace Scene

/-- Whether each coordinate is one whose text is read as that coordinate. -/
def IsStable (s : Scene) : Prop := ∀ v ∈ s.coordinates, v.reread = .ok v

theorem reread_of_isStable {s : Scene} (h : s.IsStable) : s.reread = .ok s := by
  have hid : s.mapCoordinates id = s := mapCoordinates_eq_self_iff.2 fun _ _ => rfl
  have hread : s.reread = .ok (s.mapCoordinates id) := reread_eq_ok h
  rwa [hid] at hread

end Scene

end SpriteScene

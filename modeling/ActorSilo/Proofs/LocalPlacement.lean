import ActorSilo.Placement.Director

/-! # Placing a message under the local strategy

The local strategy `local_ lo hi` wants `localWanted lo hi` local activations of a grain. Each
decision reads the local activations the silo holds at that moment (the `PlacementView`), reuses
one the picker takes when there are enough, and otherwise places a new activation on the local
silo. The bound is one of each decision, not of the silo: the new activation is made only when
the message arrives, and decisions taken in between do not see it.

**Main result:** `Placement.local_placement_within_wanted`.
-/

namespace ActorSilo

namespace Picker

variable {α : Type} (p : Picker) (k : Nat) {l : List α}

theorem pick_some (held : l ≠ []) : ∃ a ∈ l, p.pick k l = some a := by
  have inside := p.choose_lt k l.length (List.length_pos_iff.mpr held)
  exact ⟨l[p.choose k l.length], List.getElem_mem inside, List.getElem?_eq_getElem inside⟩

end Picker

namespace Placement

variable {v : PlacementView} {known : Unit → Except DirectoryError (List ActivationAddress)}
  {target : GrainId} {picker : Picker} {lo hi fresh : Nat}

theorem localWanted_pos (lo hi : Nat) : 0 < localWanted lo hi := by
  show 0 < min (max lo 1) (max hi 1)
  omega

theorem place_local_reuse {a : ActivationAddress}
    (picked : picker.pick fresh v.localActivations = some a)
    (enough : localWanted lo hi ≤ v.localActivations.length) :
    place v known target (.local_ lo hi) picker fresh = .ok ⟨a, false, .local_ lo hi⟩ := by
  unfold place
  dsimp only
  rw [if_pos enough]
  simp only [picked]
  rfl

theorem place_local_new (ordinary : target.isClient = false)
    (few : v.localActivations.length < localWanted lo hi) :
    place v known target (.local_ lo hi) picker fresh =
      .ok ⟨⟨v.localSilo, target, fresh⟩, true, .local_ lo hi⟩ := by
  unfold place
  dsimp only
  rw [if_neg (Nat.not_le.mpr few)]
  simp only [ordinary]
  rfl

/-- A placement under the local strategy of a message that is not to a client always succeeds,
whatever the picker. It places a new activation of the local silo exactly when the view holds
fewer local activations than the strategy wants, and otherwise reuses one of them. -/
theorem local_placement_within_wanted (picker : Picker) (ordinary : target.isClient = false) :
    ∃ p, place v known target (.local_ lo hi) picker fresh = .ok p ∧
      (p.isNew = true ↔ v.localActivations.length < localWanted lo hi) ∧
      (p.isNew = true → p.address = ⟨v.localSilo, target, fresh⟩) ∧
      (p.isNew = false → p.address ∈ v.localActivations) := by
  by_cases enough : localWanted lo hi ≤ v.localActivations.length
  · -- enough activations: the list is not empty, since the strategy wants at least one
    have held : v.localActivations ≠ [] := by
      have := localWanted_pos lo hi
      intro none_held
      rw [none_held, List.length_nil] at enough
      omega
    obtain ⟨a, member, picked⟩ := picker.pick_some fresh held
    refine ⟨_, place_local_reuse picked enough, ?_, ?_, fun _ => member⟩
    · simp only [Bool.false_eq_true, false_iff, Nat.not_lt]
      exact enough
    · intro isNew
      cases isNew
  · have few := Nat.lt_of_not_le enough
    refine ⟨_, place_local_new ordinary few, iff_of_true rfl few, fun _ => rfl, ?_⟩
    intro old
    cases old

end Placement

/-- Two local activations of a worker grain, the oldest first. -/
def workerView : PlacementView where
  localSilo := SiloAddress.localhost 11111 0
  active := [SiloAddress.localhost 11111 0]
  localActivations := [⟨SiloAddress.localhost 11111 0, ⟨4, "w", .grain⟩, 7⟩,
    ⟨SiloAddress.localhost 11111 0, ⟨4, "w", .grain⟩, 9⟩]

/-- A strategy with bounds three and two wants two activations, finds two in `workerView`, and
reuses one of them. -/
theorem worker_placement_reuses_local :
    (GrainId.mk 4 "w" .grain).isClient = false ∧
      (∃ p, Placement.place workerView (fun _ => .ok []) ⟨4, "w", .grain⟩ (.local_ 3 2) .first 12 =
          .ok p ∧
        (p.isNew = true ↔ workerView.localActivations.length < Placement.localWanted 3 2) ∧
        (p.isNew = true → p.address = ⟨workerView.localSilo, ⟨4, "w", .grain⟩, 12⟩) ∧
        (p.isNew = false → p.address ∈ workerView.localActivations)) :=
  ⟨rfl, Placement.local_placement_within_wanted .first rfl⟩

end ActorSilo

import Taramandal.Core.ShowId
import Taramandal.Gcs.Fleet

/-! # The show id and the missions on the drones

An onboard start compares the id of the show it is asked for with that of the show that
was staged, and nothing else. The id says what is in the records of the missions; it does
not say whether the colours in them mean anything, which their headers do. -/
namespace Taramandal.Gcs.ShowIdentity

open Lib.Check Core.Geometry Core.Shows Core.Mission Core.ShowId Gcs.StartBridge Gcs.State
open Gcs.Playback Gcs.Fleet

/-- The drones get the same bytes for the one show as for the other. -/
def SameMissions (droneOf : ℕ → ℕ) (showId : ShowId) (a b : Show ℚ) : Prop :=
  SameSlots a b ∧ Slotwise (fun slot => SameMission (droneOf slot) showId) a b

/-- The ids of two shows tell their missions apart, and no onboard start of the first takes
place on missions of the second that are others. -/
structure Identifies (setup : Setup) (droneOf : ℕ → ℕ) (showId : ShowId) (a b : Show ℚ)
    (idA idB : ShowId) : Prop where
  ids : idA = idB ↔ SameMissions droneOf showId a b
  starts : ∀ (m : DroneManager) (staged : StagedShow) (plan : Plan ℚ), m.stagedShow = some staged →
    staged.showId = idB → onboardShowPlan setup m a = .ok plan → SameMissions droneOf showId a b

lemma onboardShowPlan_ok {setup : Setup} {m : DroneManager} {trajectory : Show ℚ} {plan : Plan ℚ}
    {staged : StagedShow} (hstaged : m.stagedShow = some staged)
    (h : onboardShowPlan setup m trajectory = .ok plan) :
    computeShowId setup.sha256 trajectory = .ok staged.showId := by
  unfold onboardShowPlan at h
  split at h
  next => cases h
  next =>
    rw [hstaged] at h
    dsimp only at h
    split at h
    next => cases h
    next showId hshow =>
      split at h
      next => cases h
      next hsame => rw [hshow, not_not.mp hsame]

section

variable {setup : Setup} {a b : Show ℚ} {idA idB : ShowId}

/-- Two shows are told apart by their ids exactly unless they have the same waypoints, as the
records hold them, and in some slot only one of the two has a red channel. -/
theorem showId_identifies_iff (ha : computeShowId setup.sha256 a = .ok idA)
    (hb : computeShowId setup.sha256 b = .ok idB)
    (hsha : CollisionFree setup.sha256 {m | showMessage a = .ok m ∨ showMessage b = .ok m})
    {droneOf : ℕ → ℕ} (hdrone : ∀ slot, droneOf slot < 256 ^ 2) {showId : ShowId}
    (hsize : showId.length = showIdSize) : Identifies setup droneOf showId a b idA idB ↔
      (SameSlots a b → Slotwise (fun _ => SameQuantised) a b →
        Slotwise (fun _ => SameLed) a b) := by
  have hids := ids_eq_iff ha hb hsha
  have hmissions := sameMissions_iff ha hb hdrone hsize
  constructor
  · intro h hslots hsame
    have hequal : idA = idB := hids.mpr ⟨hslots, hsame⟩
    exact (hmissions.mp (h.ids.mp hequal).2).2
  · intro hled
    have hmp : idA = idB → SameMissions droneOf showId a b := by
      intro hequal
      obtain ⟨hslots, hsame⟩ := hids.mp hequal
      exact ⟨hslots, hmissions.mpr ⟨hsame, hled hslots hsame⟩⟩
    refine ⟨⟨hmp, fun ⟨hslots, h⟩ => hids.mpr ⟨hslots, (hmissions.mp h).1⟩⟩, ?_⟩
    intro m staged plan hstaged hid hplan
    refine hmp ?_
    have hstart := onboardShowPlan_ok hstaged hplan
    rw [ha, hid] at hstart
    exact Except.ok.inj hstart

end

def driftedShow : Show ℚ :=
  ⟨[(0, [{ time := 0, x := 1 / 1000, y := 0, z := -2, yaw := 0 }])], by decide⟩

/-- It has the same id and the same missions. -/
theorem showId_identifies_drifted : ∃ showId, computeShowId simSetup.sha256 hoverShow = .ok showId ∧
      computeShowId simSetup.sha256 driftedShow = .ok showId ∧
        Identifies simSetup (fun _ => 0) showId hoverShow driftedShow showId showId := by
  obtain ⟨showId, hshow, h⟩ :
      ∃ showId ∈ (computeShowId simSetup.sha256 hoverShow).toOption,
      (computeShowId simSetup.sha256 driftedShow).toOption = some showId ∧
      showId.length = showIdSize := by decide +kernel
  have hhover := ok_of_toOption hshow
  have hdrifted := ok_of_toOption h.1
  have hmessage : (showMessage hoverShow).toOption = (showMessage driftedShow).toOption := by
    decide +kernel
  have hone : ∀ m, showMessage hoverShow = .ok m ∨ showMessage driftedShow = .ok m →
      (showMessage hoverShow).toOption = some m := by
    rintro m (hm | hm)
    · rw [hm, Except.toOption]
    · rw [hmessage, hm, Except.toOption]
  have hsha : CollisionFree simSetup.sha256
      {m | showMessage hoverShow = .ok m ∨ showMessage driftedShow = .ok m} := by
    intro m hm m' hm' _
    exact Option.some.inj ((hone m hm).symm.trans (hone m' hm'))
  refine ⟨showId, hhover, hdrifted, (showId_identifies_iff hhover hdrifted hsha
    (fun _ => by decide) h.2).mpr fun _ _ slot wps wps' hwps hwps' => ?_⟩
  obtain ⟨-, rfl⟩ := Prod.mk.inj (List.mem_singleton.mp hwps)
  obtain ⟨-, rfl⟩ := Prod.mk.inj (List.mem_singleton.mp hwps')
  rfl

/-- The waypoints of the hover, with lights of that brightness. -/
def lit (brightness : Option ℤ) : List (Waypoint ℚ) :=
  [{ time := 0, x := 0, y := 0, z := -2, yaw := 0
     r := brightness, g := brightness, b := brightness }]

def blackShow : Show ℚ := ⟨[(0, lit (some 0))], by decide⟩

/-- A show in black has the id of one without lights, and missions that say it has lights. -/
theorem blackShow_not_told : ∃ showId, computeShowId simSetup.sha256 hoverShow = .ok showId ∧
    computeShowId simSetup.sha256 blackShow = .ok showId ∧
      ¬ Identifies simSetup (fun _ => 0) showId hoverShow blackShow showId showId := by
  obtain ⟨showId, hshow, h⟩ :
      ∃ showId ∈ (computeShowId simSetup.sha256 hoverShow).toOption,
      (computeShowId simSetup.sha256 blackShow).toOption = some showId ∧
      (compileMission (lit none) 0 showId (0, 0)).toOption ≠ (compileMission (lit (some 0)) 0 showId
      (0, 0)).toOption := by decide +kernel
  refine ⟨showId, ok_of_toOption hshow, ok_of_toOption h.1, fun hidentifies => h.2 ?_⟩
  obtain ⟨-, hmissions⟩ := hidentifies.ids.mp rfl
  obtain ⟨blob, hhover, hblack⟩ := hmissions 0 (lit none) (lit (some 0))
    (List.mem_singleton_self _) (List.mem_singleton_self _)
  rw [hhover, hblack]

end Taramandal.Gcs.ShowIdentity

import Taramandal.Core.BetweenSamples
import Taramandal.Studio.Samples

/-! # The two interpolations

The core finds the segment by bisection, the preview by a guess that it corrects both ways. At a
waypoint they may take the two segments that meet there, which makes no difference to where a drone
is. -/
namespace Taramandal.Studio.Interpolations

open Core.Geometry Core.Validate Core.ShowReport Core.BetweenSamples Studio.Samples

variable {K : Type} [Field K] [LinearOrder K] [FloorRing K]

/-- The segment a scan from the first waypoint on stops at. -/
structure FirstSegment (waypoints : List (Waypoint K)) (t : K) (i : Nat) (w1 w2 : Waypoint K) :
    Prop where
  start : waypoints[i]? = some w1
  stop : waypoints[i + 1]? = some w2
  start_le : w1.time ≤ t
  le_stop : t ≤ w2.time
  first : ∀ j u1 u2, waypoints[j]? = some u1 → waypoints[j + 1]? = some u2 →
    u1.time ≤ t → t ≤ u2.time → i ≤ j

variable {waypoints : List (Waypoint K)}

/-- Strictly between its first and its last time a drone is on the segment a scan finds. -/
lemma interpolate_firstSegment (hord : TimeOrdered waypoints) {first last : Waypoint K}
    (hf : waypoints.head? = some first) (hl : waypoints.getLast? = some last) {t : K}
    (hafter : first.time < t) (hbefore : t < last.time) :
    ∃ i w1 w2, FirstSegment waypoints t i w1 w2 ∧ w1.time < w2.time ∧
      interpolateWaypoint waypoints t = some (segmentState w1 w2 t) := by
  rcases interpolateWaypoint_cases hord hf hl t with
    ⟨hle, -⟩ | ⟨-, hle, -⟩ | ⟨i, w1, w2, h1, h2, hlt, hle, -, he⟩
  · exact absurd hafter (not_lt.mpr hle)
  · exact absurd hbefore (not_lt.mpr hle)
  · refine ⟨i, w1, w2, ⟨h1, h2, hlt.le, hle, fun j u1 u2 _ hu2 _ hstop => ?_⟩, hlt.trans_le hle, he⟩
    -- an earlier segment ends no later than this one starts
    by_contra hji
    have hearly : u2.time ≤ w1.time := hord.le_of_le hu2 h1 (by omega)
    exact absurd hlt (not_lt.mpr (hstop.trans hearly))

/-! ## The preview -/

def previewed (w : Waypoint K) : Sequencer.Waypoint K where
  time := w.time
  x := w.x
  y := w.y
  z := w.z
  yaw := w.yaw

def previewPlace (w : Sequencer.Waypoint K) : Point K := (w.x, w.y, w.z)

omit [FloorRing K] in
lemma previewPlace_segmentAt {w1 w2 : Waypoint K} {t : K} (hlt : 0 < w2.time - w1.time) :
    previewPlace (Sequencer.segmentAt (previewed w1) (previewed w2) t) =
      along (place w1) (place w2) ((t - w1.time) / (w2.time - w1.time)) := by
  have hratio : (if 0 < (previewed w2).time - (previewed w1).time then
      (t - (previewed w1).time) / ((previewed w2).time - (previewed w1).time) else 0) =
      (t - w1.time) / (w2.time - w1.time) := if_pos hlt
  simp only [previewPlace, Sequencer.segmentAt, hratio]
  rfl

variable [IsStrictOrderedRing K]

lemma preview_place (h : Increasing waypoints) (t : K) :
    (Sequencer.interpolateWaypoint (waypoints.map previewed) t).map previewPlace =
      (interpolateWaypoint waypoints t).map place := by
  cases waypoints with
  | nil => rfl
  | cons first rest =>
    let wps := first :: rest
    have hne : wps ≠ [] := List.cons_ne_nil _ _
    obtain ⟨_, last, -, hl⟩ := exists_first_last hne
    have hhead : (wps.map previewed).head? = some (previewed first) := rfl
    have hend : (wps.map previewed).getLast? = some (previewed last) := by
      rw [List.getLast?_map, hl]
      rfl
    by_cases hbefore : t ≤ first.time
    · have hshown : Sequencer.interpolateWaypoint (wps.map previewed) t =
          some (previewed first) := by
        unfold Sequencer.interpolateWaypoint
        rw [hhead, hend]
        exact if_pos hbefore
      rw [hshown, interpolate_before rfl hbefore]
      rfl
    by_cases hafter : last.time ≤ t
    · have hshown : Sequencer.interpolateWaypoint (wps.map previewed) t =
          some (previewed last) := by
        unfold Sequencer.interpolateWaypoint
        rw [hhead, hend]
        exact (if_neg hbefore).trans (if_pos hafter)
      rw [hshown, interpolate_after h hl hafter]
      rfl
    have hlen : 2 ≤ (wps.map previewed).length := by
      cases rest with
      | nil =>
        obtain rfl := Option.some.inj hl
        exact absurd (not_le.mp hafter) (not_lt.mpr (not_le.mp hbefore).le)
      | cons second rest => simp [wps]
    obtain ⟨v, v', hv, hv', hle, hlt⟩ := search_spec (t := t) hlen
      (List.head?_eq_getElem?.symm.trans hhead) (List.getLast?_eq_getElem?.symm.trans hend)
      (not_le.mp hbefore).le (not_le.mp hafter)
    have hshown : Sequencer.interpolateWaypoint (wps.map previewed) t =
        some (Sequencer.segmentAt v v' t) := by
      unfold Sequencer.interpolateWaypoint
      rw [hhead, hend]
      refine (if_neg hbefore).trans ((if_neg hafter).trans ?_)
      simp only [hv, hv']
    rw [List.getElem?_map, Option.map_eq_some_iff] at hv hv'
    obtain ⟨w, hw, rfl⟩ := hv
    obtain ⟨w', hw', rfl⟩ := hv'
    obtain ⟨u, hu, hplace⟩ := interpolate_segment h hw hw' hle hlt.le
    have hspan : 0 < w'.time - w.time := sub_pos.mpr (lt_of_le_of_lt hle hlt)
    rw [hshown, hu, Option.map_some, Option.map_some, hplace, previewPlace_segmentAt hspan]

/-- A place and a velocity as the line from one waypoint to the other has them at `t`. -/
structure OnLine (w1 w2 : Waypoint K) (t : K) (w : Waypoint K) : Prop where
  takes_time : w1.time < w2.time
  place : place w = along (place w1) (place w2) ((t - w1.time) / (w2.time - w1.time))
  vx : w.vx = some ((w2.x - w1.x) / (w2.time - w1.time))
  vy : w.vy = some ((w2.y - w1.y) / (w2.time - w1.time))
  vz : w.vz = some ((w2.z - w1.z) / (w2.time - w1.time))

lemma segmentState_onLine {w1 w2 : Waypoint K} (hlt : w1.time < w2.time)
    (t : K) : OnLine w1 w2 t (segmentState w1 w2 t) := by
  have hspan : 0 < w2.time - w1.time := sub_pos.mpr hlt
  exact ⟨hlt, place_segmentState hspan, congrArg some (if_pos hspan), congrArg some (if_pos hspan),
    congrArg some (if_pos hspan)⟩

/-- Bisection is the scan for the first segment that holds the time, and the preview, whatever the
steps between the waypoints, is at the same place at any time. -/
theorem interpolations_agree (hord : TimeOrdered waypoints) {first last : Waypoint K}
    (hf : waypoints.head? = some first) (hl : waypoints.getLast? = some last) :
    (∀ t, first.time < t → t < last.time → ∃ i w1 w2 w, FirstSegment waypoints t i w1 w2 ∧
      interpolateWaypoint waypoints t = some w ∧ OnLine w1 w2 t w) ∧
    (Increasing waypoints → ∀ t,
      (Sequencer.interpolateWaypoint (waypoints.map previewed) t).map previewPlace =
        (interpolateWaypoint waypoints t).map place) := by
  constructor
  · intro t hafter hbefore
    obtain ⟨i, w1, w2, hsegment, hlt, he⟩ := interpolate_firstSegment hord hf hl hafter hbefore
    exact ⟨i, w1, w2, _, hsegment, he, segmentState_onLine hlt t⟩
  · exact preview_place

/-- A drone that is slower on its first segment than on its second. -/
def uneven : List (Waypoint ℚ) :=
  [{ time := 0, x := 0, y := 0, z := 0, yaw := 0 },
    { time := 3, x := 6, y := 0, z := -3, yaw := 0 },
    { time := 4, x := 6, y := 5, z := -3, yaw := 0 }]

theorem uneven_agree : (∃ i w1 w2 w, FirstSegment uneven 3 i w1 w2 ∧
      interpolateWaypoint uneven 3 = some w ∧ OnLine w1 w2 3 w) ∧
    (Sequencer.interpolateWaypoint (uneven.map previewed) (7 / 2)).map previewPlace =
      (interpolateWaypoint uneven (7 / 2)).map place := by
  have hinc : Increasing uneven := by norm_num [Increasing, uneven]
  obtain ⟨hscan, hpreview⟩ := interpolations_agree hinc.ordered rfl rfl
  exact ⟨hscan 3 (by norm_num) (by norm_num), hpreview hinc (7 / 2)⟩

end Taramandal.Studio.Interpolations

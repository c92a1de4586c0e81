import Taramandal.Gcs.Geofence
import Taramandal.Lib.Matching

/-! # Slots and drones (`drone_manager.py`, `remap_trajectory_to_healthy_drones`)

A trajectory names slots, not drones. The re-mapper sorts the slots and the healthy drones and
gives the paths out in order, so that one drone that is left out shifts all slots after it. -/
namespace Taramandal.Gcs.SlotRemap

open Lib.Check Lib.Dict Lib.Matching Gcs.Geofence

variable {K : Type} [Field K] [LinearOrder K] {V : Type}

/-- A key of a trajectory; `True` and `False` are integers. -/
inductive SlotKey where
  | int (slot : ℤ)
  | str (name : String)
  deriving DecidableEq

/-- A trajectory as it is loaded: slots, and whatever else is kept beside them. -/
structure Trajectory (V : Type) where
  entries : Dict SlotKey V
  unique : (entries.map Prod.fst).Nodup

/-- The telemetry table. -/
structure Fleet (K : Type) where
  rows : List (Health K)
  unique : (rows.map Health.drone).Nodup

def SlotKey.slot? : SlotKey → Option ℤ
  | .int slot => some slot
  | .str _ => none

/-- `slot_keys`: the integer keys, sorted. -/
def Trajectory.slotKeys (trajectory : Trajectory V) : List ℤ :=
  ((trajectory.entries.map Prod.fst).filterMap SlotKey.slot?).insertionSort (· ≤ ·)

/-- `remap_trajectory_to_healthy_drones`; the loop breaks where there is no drone left. -/
def remapTrajectory (trajectory : Trajectory V) (fleet : Fleet K) : Dict Nat V :=
  assignAll [] ((trajectory.slotKeys.zip (healthyIds fleet.rows)).filterMap fun p =>
    (find trajectory.entries (.int p.1)).map fun wps => (p.2, wps))

def Healthy (h : Health K) : Prop :=
  h.connected = true ∧ 20 < h.batteryPercent ∧ 6 ≤ h.satellites ∧ h.aborted = false

lemma strict_of_sorted {α : Type} [LinearOrder α] {xs : List α} (hnodup : xs.Nodup) :
    (xs.insertionSort (· ≤ ·)).Pairwise (· < ·) := by
  have hsorted : (xs.insertionSort (· ≤ ·)).Pairwise (· ≤ ·) := List.pairwise_insertionSort _ _
  have hne : (xs.insertionSort (· ≤ ·)).Pairwise (· ≠ ·) :=
    (List.perm_insertionSort _ xs).nodup_iff.mpr hnodup
  exact (hsorted.and hne).imp fun h => lt_of_le_of_ne h.1 h.2

lemma mem_healthyIds {fleet : List (Health K)} {d : Nat} :
    d ∈ healthyIds fleet ↔ ∃ h ∈ fleet, Healthy h ∧ h.drone = d := by
  unfold healthyIds
  rw [List.mem_insertionSort, List.mem_map]
  constructor
  · rintro ⟨h, hmem, rfl⟩
    obtain ⟨hrow, hgood⟩ := List.mem_filter.mp hmem
    simp only [Bool.and_eq_true, decide_eq_true_eq, Bool.not_eq_true'] at hgood
    exact ⟨h, hrow, ⟨hgood.1.1.1, hgood.1.1.2, hgood.1.2, hgood.2⟩, rfl⟩
  · rintro ⟨h, hrow, ⟨hconn, hbatt, hsat, habort⟩, rfl⟩
    refine ⟨h, List.mem_filter.mpr ⟨hrow, ?_⟩, rfl⟩
    simp only [Bool.and_eq_true, decide_eq_true_eq, Bool.not_eq_true']
    exact ⟨⟨⟨hconn, hbatt⟩, hsat⟩, habort⟩

lemma healthyIds_increasing (fleet : Fleet K) : (healthyIds fleet.rows).Pairwise (· < ·) :=
  strict_of_sorted (fleet.unique.sublist (List.filter_sublist.map _))

lemma mem_slotKeys {trajectory : Trajectory V} {k : ℤ} :
    k ∈ trajectory.slotKeys ↔ SlotKey.int k ∈ trajectory.entries.map Prod.fst := by
  unfold Trajectory.slotKeys
  rw [List.mem_insertionSort, List.mem_filterMap]
  constructor
  · rintro ⟨key, hkey, hslot⟩
    cases key with
    | int slot =>
      obtain rfl := Option.some.inj hslot
      exact hkey
    | str name => cases hslot
  · intro hkey
    exact ⟨_, hkey, rfl⟩

lemma slotKeys_increasing (trajectory : Trajectory V) : trajectory.slotKeys.Pairwise (· < ·) := by
  refine strict_of_sorted (List.Nodup.filterMap (fun a b k ha hb => ?_) trajectory.unique)
  cases a with
  | int slot =>
    cases b with
    | int slot' =>
      obtain rfl := Option.some.inj ha
      obtain rfl := Option.some.inj hb
      rfl
    | str name => cases hb
  | str name => cases ha

section Remap

variable (trajectory : Trajectory V) (fleet : Fleet K)

def pairing : List (ℤ × Nat) := trajectory.slotKeys.zip (healthyIds fleet.rows)

def Flies (p : ℤ × Nat) (e : Nat × V) : Prop :=
  e.1 = p.2 ∧ (SlotKey.int p.1, e.2) ∈ trajectory.entries

lemma flies_filterMap {pairs : List (ℤ × Nat)} (h : ∀ p ∈ pairs, p.1 ∈ trajectory.slotKeys) :
    List.Forall₂ (Flies trajectory) pairs (pairs.filterMap fun p =>
      (find trajectory.entries (.int p.1)).map fun wps => (p.2, wps)) := by
  induction pairs with
  | nil => exact .nil
  | cons p pairs ih =>
    obtain ⟨hp, hpairs⟩ := List.forall_mem_cons.mp h
    obtain ⟨e, he, hkey⟩ := List.mem_map.mp (mem_slotKeys.mp hp)
    have hfind : find trajectory.entries (.int p.1) = some e.2 :=
      find_of_mem trajectory.unique (hkey ▸ he)
    rw [List.filterMap_cons, hfind]
    exact .cons ⟨rfl, mem_of_find hfind⟩ (ih hpairs)

lemma flies_keys {pairs : List (ℤ × Nat)} {entries : Dict Nat V}
    (h : List.Forall₂ (Flies trajectory) pairs entries) :
    entries.map Prod.fst = pairs.map Prod.snd := by
  induction h with
  | nil => rfl
  | cons hfirst _ ih => rw [List.map_cons, List.map_cons, ih, hfirst.1]

lemma pairing_drones : ((pairing trajectory fleet).map Prod.snd).Pairwise (· < ·) :=
  List.pairwise_map.mpr ((zip_increasing (slotKeys_increasing trajectory)
    (healthyIds_increasing fleet)).imp fun h => h.2)

lemma remapTrajectory_eq : remapTrajectory trajectory fleet =
    (pairing trajectory fleet).filterMap fun p =>
      (find trajectory.entries (.int p.1)).map fun wps => (p.2, wps) := by
  have hslots : ∀ p ∈ pairing trajectory fleet, p.1 ∈ trajectory.slotKeys :=
    fun p hp => (List.of_mem_zip hp).1
  have hnodup : ((pairing trajectory fleet).map Prod.snd).Nodup :=
    (pairing_drones trajectory fleet).imp fun h => h.ne
  rw [← flies_keys trajectory (flies_filterMap trajectory hslots)] at hnodup
  exact assignAll_of_nodup hnodup

lemma remap_flies : List.Forall₂ (Flies trajectory) (pairing trajectory fleet)
      (remapTrajectory trajectory fleet) := by
  rw [remapTrajectory_eq]
  exact flies_filterMap trajectory fun p hp => (List.of_mem_zip hp).1

/-- Slots whose own drones are healthy, with no healthy drone before one of them that is not a
slot's, are flown by their own drones. -/
lemma pairing_self
    (hown : ∀ k ∈ trajectory.slotKeys, ∃ h ∈ fleet.rows, Healthy h ∧ (h.drone : ℤ) = k)
    (hothers : ∀ h ∈ fleet.rows, Healthy h → (h.drone : ℤ) ∉ trajectory.slotKeys →
      ∀ k ∈ trajectory.slotKeys, ¬ (h.drone : ℤ) < k) :
    trajectory.slotKeys =
      ((healthyIds fleet.rows).map Nat.cast).take trajectory.slotKeys.length := by
  refine eq_take_of_lower ?_ (slotKeys_increasing trajectory) ?_ ?_
  · exact List.pairwise_map.mpr ((healthyIds_increasing fleet).imp fun h => Int.ofNat_lt.mpr h)
  · intro k hk
    obtain ⟨h, hrow, hgood, hdrone⟩ := hown k hk
    exact List.mem_map.mpr ⟨_, mem_healthyIds.mpr ⟨h, hrow, hgood, rfl⟩, hdrone⟩
  · intro k hk a ha hlt
    obtain ⟨d, hd, rfl⟩ := List.mem_map.mp ha
    obtain ⟨h, hrow, hgood, rfl⟩ := mem_healthyIds.mp hd
    by_contra hout
    exact hothers h hrow hgood hout k hk hlt

/-- Slots and drones are matched in order, and in no other way: each drone of the matching, healthy
all of them, flies the waypoints of its slot, and the slots that are left over are the highest. -/
theorem remap_exact : (∃ pairs, Matches trajectory.slotKeys (healthyIds fleet.rows) pairs ∧
      (∀ pairs', Matches trajectory.slotKeys (healthyIds fleet.rows) pairs' → pairs' = pairs) ∧
      List.Forall₂ (Flies trajectory) pairs (remapTrajectory trajectory fleet) ∧
      ∃ dropped, pairs.map Prod.fst ++ dropped = trajectory.slotKeys ∧
        dropped.length = trajectory.slotKeys.length - (healthyIds fleet.rows).length) ∧
    ((remapTrajectory trajectory fleet).map Prod.fst).Nodup ∧
    (∀ h ∈ fleet.rows, ¬ Healthy h → h.drone ∉ (remapTrajectory trajectory fleet).map Prod.fst) ∧
    ((∀ k ∈ trajectory.slotKeys, ∃ h ∈ fleet.rows, Healthy h ∧ (h.drone : ℤ) = k) →
      (∀ h ∈ fleet.rows, Healthy h → (h.drone : ℤ) ∉ trajectory.slotKeys →
        ∀ k ∈ trajectory.slotKeys, ¬ (h.drone : ℤ) < k) →
      ∀ d wps, (d, wps) ∈ remapTrajectory trajectory fleet ↔
        (SlotKey.int d, wps) ∈ trajectory.entries) := by
  have hslots := slotKeys_increasing trajectory
  have hdrones := healthyIds_increasing fleet
  have hflies := remap_flies trajectory fleet
  have hkeys := flies_keys trajectory hflies
  refine ⟨⟨pairing trajectory fleet, matches_zip hslots hdrones, fun pairs' h =>
    h.eq_zip hslots hdrones, hflies, ?_⟩, ?_, ?_, ?_⟩
  · refine ⟨trajectory.slotKeys.drop (healthyIds fleet.rows).length, ?_, List.length_drop⟩
    rw [pairing, map_fst_zip_take, List.take_append_drop]
  · rw [hkeys]
    exact (pairing_drones trajectory fleet).imp fun h => h.ne
  · intro h hrow hbad hmem
    rw [hkeys] at hmem
    obtain ⟨p, hp, hdrone⟩ := List.mem_map.mp hmem
    obtain ⟨h', hrow', hgood, hsame⟩ := mem_healthyIds.mp (List.of_mem_zip hp).2
    -- ids are unique, so it is the same row
    have heq : h' = h := List.inj_on_of_nodup_map fleet.unique hrow' hrow (hsame.trans hdrone)
    exact hbad (heq ▸ hgood)
  · intro hown hothers d wps
    have hself := pairing_self trajectory fleet hown hothers
    have hpair : ∀ p ∈ pairing trajectory fleet, p.1 = p.2 := by
      intro p hp
      obtain ⟨i, hi, rfl⟩ := List.mem_iff_getElem.mp hp
      simp only [pairing, List.getElem_zip]
      rw [List.getElem_of_eq hself]
      simp only [List.getElem_take, List.getElem_map]
    constructor
    · intro hmem
      obtain ⟨p, hp, hdrone, hentry⟩ := exists_of_forall₂ hflies hmem
      rw [hpair p hp, ← hdrone] at hentry
      exact hentry
    · intro hmem
      have hslot : (d : ℤ) ∈ trajectory.slotKeys :=
        mem_slotKeys.mpr (List.mem_map_of_mem hmem)
      have henough : trajectory.slotKeys.length ≤ (healthyIds fleet.rows).length := by
        have hlength := congrArg List.length hself
        rw [List.length_take, List.length_map] at hlength
        omega
      obtain ⟨p, hp, hfirst⟩ : ∃ p ∈ pairing trajectory fleet, p.1 = d := by
        rw [← List.map_fst_zip henough] at hslot
        obtain ⟨p, hp, hfirst⟩ := List.mem_map.mp hslot
        exact ⟨p, hp, hfirst⟩
      have hdrone : p.2 = d := Int.ofNat_inj.mp ((hpair p hp).symm.trans hfirst)
      obtain ⟨e, he, hid, hentry⟩ := exists_of_forall₂ hflies.flip hp
      rw [hfirst] at hentry
      have hsame : e.2 = wps := Option.some.inj
        ((find_of_mem trajectory.unique hentry).symm.trans (find_of_mem trajectory.unique hmem))
      rw [← hdrone, ← hid, ← hsame]
      exact he

end Remap

/-- With the first battery empty every path moves on by one drone. -/
example : remapTrajectory ⟨[(.int 0, "a"), (.str "_meta", "m"), (.int 1, "b"), (.int 2, "c")],
      by decide⟩
    (⟨[⟨0, true, 15, 9, false⟩, ⟨1, true, 80, 9, false⟩, ⟨2, true, 80, 9, false⟩],
      by decide⟩ : Fleet ℚ) = [(1, "a"), (2, "b")] := by decide

end Taramandal.Gcs.SlotRemap

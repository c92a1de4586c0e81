import Taramandal.Studio.Commands

/-! # What every command keeps of the document

Scenes and drones that no id names twice, drones in order, one of each at least and no more drones
than are allowed. A command that does not return the document it was given returns a different
one, with the exceptions that `Sound` leaves out. -/
namespace Taramandal.Studio.Commands

open Taramandal.Lib Lib.Dict
open Studio.Sequencer (inherited)

def Scene.Apart (a b : Scene) : Prop := a.id.plain ≠ b.id.plain

instance (a b : Scene) : Decidable (a.Apart b) :=
  inferInstanceAs (Decidable (a.id.plain ≠ b.id.plain))

structure Invariants (doc : Document) : Prop where
  scenes : doc.scenes ≠ []
  apart : doc.scenes.Pairwise Scene.Apart
  drones : doc.dronesList ≠ []
  size : doc.dronesList.length ≤ maxFleetSize
  sorted : doc.dronesList.Pairwise fun a b => a.id < b.id

/-! ## What a command names, and what is asked of it -/

/-- The scenes that a command is about; to move a scene is not to change it. -/
def SceneCommand.Names (s : Scene) : SceneCommand → Prop
  | .patch id _ => s.id.strictEq id
  | .delete id => s.id.strictEq id
  | _ => False

/-- A new scene has an id of its own, and no patch gives a scene another id. -/
def SceneCommand.Admitted (scenes : List Scene) : SceneCommand → Prop
  | .add scene => ∀ s ∈ scenes, s.id.plain ≠ scene.id.plain
  | .duplicate _ copyId => ∀ s ∈ scenes, s.id.plain ≠ copyId.plain
  | .patch _ changes => "id" ∉ changes.entries.map Prod.fst
  | _ => True

/-- A scene that is moved ends in the place of another scene, or the move is refused. -/
def SceneCommand.Sound (host : Host) (scenes : List Scene) : SceneCommand → Prop
  | .move index dir => moveRefused host scenes index dir = true ∨
    (index.place host scenes.length).isSome ∧
      ((index.plus host dir).place host scenes.length).isSome ∧
      index.place host scenes.length ≠ (index.plus host dir).place host scenes.length
  | .reorder source target => reorderRefused host scenes source target = true ∨
    source.spliceStart host ≠ target.spliceStart host
  | _ => True

def FleetCommand.Names (d : Drone) : FleetCommand → Prop
  | .remove id => d.named id
  | .update ids _ => ∃ v ∈ ids, d.named v
  | _ => False

def FleetCommand.Sound (host : Host) : FleetCommand → Prop
  | .update _ patch => ∀ e ∈ patch, e.1 ∈ inherited → (host.inheritedCall e.1 e.2).isSome
  | _ => True

instance {scenes : List Scene} : ∀ c : SceneCommand, Decidable (c.Admitted scenes)
  | .add scene => inferInstanceAs (Decidable (∀ s ∈ scenes, s.id.plain ≠ scene.id.plain))
  | .duplicate _ copyId => inferInstanceAs (Decidable (∀ s ∈ scenes, s.id.plain ≠ copyId.plain))
  | .patch _ changes => inferInstanceAs (Decidable ("id" ∉ changes.entries.map Prod.fst))
  | .delete _ | .move .. | .reorder .. | .unknown => .isTrue trivial

instance {host : Host} {scenes : List Scene} : ∀ c : SceneCommand, Decidable (c.Sound host scenes)
  | .move .. => inferInstanceAs (Decidable (_ ∨ _))
  | .reorder .. => inferInstanceAs (Decidable (_ ∨ _))
  | .add _ | .duplicate .. | .patch .. | .delete _ | .unknown => .isTrue trivial

instance {host : Host} : ∀ c : FleetCommand, Decidable (c.Sound host)
  | .update _ patch => inferInstanceAs (Decidable (∀ e ∈ patch, e.1 ∈ inherited → _))
  | .add | .remove _ | .setCount _ | .unknown => .isTrue trivial

def Command.Admitted (doc : Document) : Command → Prop
  | .scene command => command.Admitted doc.scenes
  | _ => True

def Command.Sound (host : Host) (doc : Document) : Command → Prop
  | .scene command => command.Sound host doc.scenes
  | .fleet command => command.Sound host
  | .other => True

instance {doc : Document} : ∀ c : Command, Decidable (c.Admitted doc)
  | .scene c => inferInstanceAs (Decidable (c.Admitted doc.scenes))
  | .fleet _ | .other => .isTrue trivial

instance {host : Host} {doc : Document} : ∀ c : Command, Decidable (c.Sound host doc)
  | .scene c => inferInstanceAs (Decidable (c.Sound host doc.scenes))
  | .fleet c => inferInstanceAs (Decidable (c.Sound host))
  | .other => .isTrue trivial

/-- A changed list of scenes: there is one, each has its id, and none is lost or changed that the
command does not name. -/
structure SceneCommand.Lawful (command : SceneCommand) (scenes scenes' : List Scene) : Prop where
  differs : scenes' ≠ scenes
  nonempty : scenes' ≠ []
  apart : scenes'.Pairwise Scene.Apart
  kept : ∀ s ∈ scenes, ¬ command.Names s → s ∈ scenes'

/-- A changed fleet: only an update changes a drone's record, and only a new size removes one that
is not named. -/
structure FleetCommand.Lawful (command : FleetCommand) (drones drones' : List Drone) : Prop where
  differs : drones' ≠ drones
  nonempty : drones' ≠ []
  size : drones'.length ≤ maxFleetSize
  sorted : drones'.Pairwise fun a b => a.id < b.id
  kept : (∀ count, command ≠ .setCount count) → ∀ d ∈ drones, ¬ command.Names d → d ∈ drones'
  records : (∀ ids patch, command ≠ .update ids patch) →
    ∀ d ∈ drones, ∀ d' ∈ drones', d'.id = d.id → d' = d

/-- A reducer returns the list it was given, or a lawful one. -/
def Outcome.Holds {α : Type} (P : α → Prop) : Outcome α → Prop
  | .same => True
  | .changed new => P new
  | _ => False

/-- The document stands for its scenes and its fleet: a command is about one of them, and leaves
the other. -/
def Command.Lawful (doc doc' : Document) : Command → Prop
  | .scene command => command.Lawful doc.scenes doc'.scenes ∧ doc'.dronesList = doc.dronesList
  | .fleet command => command.Lawful doc.dronesList doc'.dronesList ∧ doc'.scenes = doc.scenes
  | .other => False

section Scenes

variable {host : Host} {scenes : List Scene}

lemma Scene.apart_symm {a b : Scene} (h : a.Apart b) : b.Apart a := Ne.symm h

lemma read_assign_self (fields : Dict String Value) (k : String) (v : Value) :
    read (assign fields k v) k = v := by
  rw [read, find_assign_self, Option.getD_some]

variable {k : String} {v : Value} {command : SceneCommand}

lemma read_assign_ne (fields : Dict String Value) {k' : String} (v : Value) (h : k ≠ k') :
    read (assign fields k v) k' = read fields k' := by
  rw [read, find_assign_ne fields v h, read]

lemma read_assignAll {fields as : Dict String Value}
    (hnodup : (as.map Prod.fst).Nodup) (hmem : (k, v) ∈ as) :
    read (assignAll fields as) k = v := by
  rw [read, find_assignAll_mem hmem hnodup, Option.getD_some]

lemma read_assignAll_ne {fields as : Dict String Value}
    (h : k ∉ as.map Prod.fst) : read (assignAll fields as) k = read fields k := by
  rw [read, find_assignAll_ne h, read]

lemma id_named (scene : Scene) : (named scenes scene).id = scene.id := by
  unfold named
  split
  · exact read_assign_ne scene _ (by decide)
  · rfl

lemma id_copyOf (scene : Scene) (copyId : Value) : (copyOf host scene copyId).id = copyId := by
  rw [copyOf, Scene.id, read_assign_ne _ _ (by decide), read_assign_self]

lemma add_lawful {scene : Scene} (hapart : scenes.Pairwise Scene.Apart)
    (hfresh : ∀ s ∈ scenes, s.id.plain ≠ scene.id.plain) :
    (SceneCommand.add scene).Lawful scenes (scenes ++ [named scenes scene]) where
  differs := fun h => by simpa using congrArg List.length h
  nonempty := by simp
  apart := by
    refine List.pairwise_append.mpr ⟨hapart, List.pairwise_singleton .., fun s hs t ht => ?_⟩
    rw [List.mem_singleton.mp ht, Scene.Apart, id_named]
    exact hfresh s hs
  kept := fun s hs _ => List.mem_append_left _ hs

lemma patch_lawful {id : Value} {patch : Patch} {s : Scene} (hne : scenes ≠ [])
    (hapart : scenes.Pairwise Scene.Apart) (hid : "id" ∉ patch.entries.map Prod.fst)
    (hs : s ∈ scenes) (hnames : s.id.strictEq id)
    (hchanges : ∃ e ∈ patch.entries, read s e.1 ≠ e.2) :
    (SceneCommand.patch id patch).Lawful scenes
      (scenes.map fun s => if s.id.strictEq id then assignAll s patch.entries else s) where
  differs := fun h => by
    have hsame := List.map_eq_map_iff.mp (h.trans (List.map_id scenes).symm) s hs
    obtain ⟨e, he, hread⟩ := hchanges
    simp only [if_pos hnames, id_eq] at hsame
    exact hread (hsame ▸ read_assignAll patch.nodup he)
  nonempty := by simpa using hne
  apart := by
    have hkeeps : ∀ t : Scene, Scene.id (if t.id.strictEq id then assignAll t patch.entries else t)
        = t.id := by
      intro t
      split
      · exact read_assignAll_ne hid
      · rfl
    refine List.pairwise_map.mpr (hapart.imp fun hab => ?_)
    rw [Scene.Apart, hkeeps, hkeeps]
    exact hab
  kept := fun t ht hother => List.mem_map.mpr ⟨t, ht, if_neg hother⟩

lemma duplicate_lawful {id copyId : Value} {i : ℕ} {copy : Scene}
    (hapart : scenes.Pairwise Scene.Apart) (hcopy : copy.id = copyId)
    (hfresh : ∀ s ∈ scenes, s.id.plain ≠ copyId.plain) :
    (SceneCommand.duplicate id copyId).Lawful scenes
      (scenes.take i ++ copy :: scenes.drop i) := by
  have hperm : (scenes.take i ++ copy :: scenes.drop i).Perm (copy :: scenes) := by
    have hmiddle : (scenes.take i ++ copy :: scenes.drop i).Perm
        (copy :: (scenes.take i ++ scenes.drop i)) := List.perm_middle
    rwa [List.take_append_drop] at hmiddle
  refine ⟨fun h => ?_, by simp, ?_, fun s hs _ => ?_⟩
  · have hlength := hperm.length_eq
    rw [h, List.length_cons] at hlength
    omega
  · rw [hperm.pairwise_iff Scene.apart_symm, List.pairwise_cons]
    refine ⟨fun s hs => ?_, hapart⟩
    rw [Scene.Apart, hcopy]
    exact (hfresh s hs).symm
  · exact hperm.mem_iff.mpr (List.mem_cons_of_mem _ hs)

lemma delete_lawful {id : Value} (hapart : scenes.Pairwise Scene.Apart)
    (hmany : 1 < scenes.length) (hany : ∃ s ∈ scenes, s.id.strictEq id) :
    (SceneCommand.delete id).Lawful scenes (scenes.filter fun s => ¬ s.id.strictEq id) where
  differs := fun h => by
    obtain ⟨s, hs, hnames⟩ := hany
    have hstays := List.filter_eq_self.mp h s hs
    exact (of_decide_eq_true hstays) hnames
  nonempty := fun h => by
    -- The first two scenes cannot both have the id.
    obtain ⟨a, b, rest, rfl⟩ : ∃ a b rest, scenes = a :: b :: rest := by
      match scenes, hmany with
      | a :: b :: rest, _ => exact ⟨a, b, rest, rfl⟩
    have hnone := List.filter_eq_nil_iff.mp h
    have ha : a.id.strictEq id := by simpa using hnone a (by simp)
    have hb : b.id.strictEq id := by simpa using hnone b (by simp)
    exact (List.pairwise_cons.mp hapart).1 b (by simp) (ha.1.trans hb.1.symm)
  apart := hapart.filter _
  kept := fun s hs hother => List.mem_filter.mpr ⟨hs, decide_eq_true hother⟩

lemma perm_lawful {scenes' : List Scene} (hne : scenes ≠ [])
    (hapart : scenes.Pairwise Scene.Apart) (hperm : scenes'.Perm scenes)
    (hdiffers : scenes' ≠ scenes) : command.Lawful scenes scenes' where
  differs := hdiffers
  nonempty := fun h => hne (by rw [h] at hperm; exact hperm.nil_eq.symm)
  apart := (hperm.pairwise_iff Scene.apart_symm).mpr hapart
  kept := fun _ hs _ => hperm.mem_iff.mpr hs

lemma getElem_ne (hapart : scenes.Pairwise Scene.Apart) {a b : ℕ} (ha : a < scenes.length)
    (hb : b < scenes.length) (hab : a ≠ b) : scenes[a] ≠ scenes[b] := by
  intro h
  have hid : scenes[a].id.plain = scenes[b].id.plain := by rw [h]
  rcases Nat.lt_or_gt_of_ne hab with hlt | hlt
  · exact List.pairwise_iff_getElem.mp hapart a b ha hb hlt hid
  · exact List.pairwise_iff_getElem.mp hapart b a hb ha hlt hid.symm

lemma place_lt {n k : ℕ} (h : v.place host n = some k) : k < n :=
  List.mem_range.mp (List.mem_of_find?_eq_some h)

lemma swap_lawful_iff {index j : Value} (hne : scenes ≠ []) (hapart : scenes.Pairwise Scene.Apart) :
    ((index.place host scenes.length).isSome ∧ (j.place host scenes.length).isSome ∧
      index.place host scenes.length ≠ j.place host scenes.length) ↔
      (swap host scenes index j).Holds (command.Lawful scenes) := by
  cases ha : index.place host scenes.length with
  | none =>
    simp only [swap, ha, Option.isSome_none, Bool.false_eq_true, false_and, false_iff]
    cases j.place host scenes.length with
    | none => exact fun h => h.differs rfl
    | some b => exact id
  | some a =>
    cases hb : j.place host scenes.length with
    | none => simp [swap, ha, hb, Outcome.Holds]
    | some b =>
      have hla := place_lt ha
      have hlb := place_lt hb
      simp only [swap, ha, hb, Option.isSome_some, true_and, ne_eq, Option.some.injEq,
        Outcome.Holds, (List.getElem_eq_getD (h := hla) []).symm,
        (List.getElem_eq_getD (h := hlb) []).symm]
      constructor
      · intro hab
        refine perm_lawful hne hapart (List.set_set_perm hla hlb) fun h => ?_
        have hmoved : ((scenes.set a scenes[b]).set b scenes[a])[b]? = some scenes[a] :=
          List.getElem?_set_self (by simpa using hlb)
        rw [h, List.getElem?_eq_getElem hlb, Option.some.injEq] at hmoved
        exact getElem_ne hapart hla hlb hab hmoved.symm
      · rintro h rfl
        exact h.differs (by rw [List.set_set, List.set_getElem_self])

lemma spliceStart_lt (hne : scenes ≠ [])
    (hinside : v.outside host scenes.length = false) : v.spliceStart host < scenes.length := by
  have hpos := List.length_pos_iff.mpr hne
  unfold Value.outside at hinside
  unfold Value.spliceStart
  split at hinside
  next hnan => rw [hnan]; exact hpos
  next hinf => cases hinside
  next x hfin =>
    rw [hfin]
    simp only [Bool.or_eq_false_iff, decide_eq_false_iff_not, not_lt, not_le] at hinside
    have hfloor : ⌊x⌋ < scenes.length := Int.floor_lt.mpr (by exact_mod_cast hinside.2)
    show ⌊x⌋.toNat < scenes.length
    omega

lemma moveTo_lawful_iff {source target : Value} (hne : scenes ≠ [])
    (hapart : scenes.Pairwise Scene.Apart) (hs : source.spliceStart host < scenes.length)
    (ht : target.spliceStart host < scenes.length) :
    source.spliceStart host ≠ target.spliceStart host ↔
      (moveTo host scenes source target).Holds (command.Lawful scenes) := by
  simp only [moveTo, List.getElem?_eq_getElem hs, Outcome.Holds]
  generalize source.spliceStart host = a at hs ⊢
  generalize target.spliceStart host = b at ht ⊢
  have hlength := List.length_eraseIdx_of_lt hs
  constructor
  · intro hab
    refine perm_lawful hne hapart ?_ fun h => ?_
    · exact (List.perm_insertIdx _ _ (by omega)).trans (List.getElem_cons_eraseIdx_perm hs)
    · have hmoved : ((scenes.eraseIdx a).insertIdx b scenes[a])[b]? = some scenes[a] := by
        rw [List.getElem?_insertIdx_self, if_pos (by omega)]
      rw [h, List.getElem?_eq_getElem ht, Option.some.injEq] at hmoved
      exact getElem_ne hapart hs ht hab hmoved.symm
  · rintro h rfl
    exact h.differs (List.insertIdx_eraseIdx_getElem hs)

lemma applySceneCommand_iff (hne : scenes ≠ [])
    (hapart : scenes.Pairwise Scene.Apart) (hadmitted : command.Admitted scenes) :
    command.Sound host scenes ↔
      (applySceneCommand host scenes command).Holds (command.Lawful scenes) := by
  cases command with
  | add scene => exact iff_of_true trivial (add_lawful hapart hadmitted)
  | patch id changes =>
    refine iff_of_true trivial ?_
    simp only [applySceneCommand]
    split
    next => trivial
    next s hfind =>
      split
      next hchanges =>
        exact patch_lawful hne hapart hadmitted (List.mem_of_find?_eq_some hfind)
          (by simpa using List.find?_some hfind) (by simpa using hchanges)
      next => trivial
  | duplicate id copyId =>
    refine iff_of_true trivial ?_
    simp only [applySceneCommand]
    split
    next => trivial
    next i hfind => exact duplicate_lawful hapart (id_copyOf ..) hadmitted
  | delete id =>
    refine iff_of_true trivial ?_
    simp only [applySceneCommand]
    split
    next => trivial
    next h =>
      simp only [Bool.or_eq_true, decide_eq_true_eq, not_or, not_le, Bool.not_eq_true',
        Bool.not_eq_false, List.any_eq_true] at h
      exact delete_lawful hapart h.1 h.2
  | move index dir =>
    simp only [SceneCommand.Sound, applySceneCommand]
    split
    next h => exact iff_of_true (.inl h) trivial
    next h => rw [or_iff_right h]; exact swap_lawful_iff hne hapart
  | reorder source target =>
    simp only [SceneCommand.Sound, applySceneCommand]
    split
    next h => exact iff_of_true (.inl h) trivial
    next h =>
      rw [or_iff_right h]
      simp only [reorderRefused, Bool.or_eq_true, not_or, Bool.not_eq_true] at h
      exact moveTo_lawful_iff hne hapart (spliceStart_lt hne h.1.2) (spliceStart_lt hne h.2)
  | unknown => exact iff_of_true trivial trivial

end Scenes

section Fleet

variable {host : Host} {drones : List Drone}

lemma seekFree_spec (used : List ℚ) : ∀ n id : ℕ, (∀ k : ℕ, k < id → (k : ℚ) ∈ used) →
    (∀ k : ℕ, k < seekFree used n id → (k : ℚ) ∈ used) ∧
      ((seekFree used n id : ℚ) ∈ used → id + n ≤ seekFree used n id)
  | 0, id, hpassed => ⟨hpassed, fun _ => Nat.le_refl _⟩
  | n + 1, id, hpassed => by
    unfold seekFree
    split
    next hused =>
      have hnext : ∀ k : ℕ, k < id + 1 → (k : ℚ) ∈ used := by
        intro k hk
        rcases Nat.lt_succ_iff_lt_or_eq.mp hk with hlt | rfl
        · exact hpassed k hlt
        · exact hused
      obtain ⟨hbelow, hlast⟩ := seekFree_spec used n (id + 1) hnext
      exact ⟨hbelow, fun h => by have := hlast h; omega⟩
    next hfree => exact ⟨hpassed, fun h => absurd h hfree⟩

lemma lowestFreeId_fresh (drones : List Drone) :
    (lowestFreeId drones : ℚ) ∉ drones.map Drone.id := by
  intro hused
  obtain ⟨hbelow, hlast⟩ := seekFree_spec (drones.map Drone.id) drones.length 0
    fun k hk => absurd hk (Nat.not_lt_zero k)
  have hlength := hlast hused
  let tried : List ℚ := (List.range (drones.length + 1)).map Nat.cast
  have hnodup : tried.Nodup := List.nodup_range.map Nat.cast_injective
  have hsub : tried ⊆ drones.map Drone.id := by
    intro x hx
    obtain ⟨k, hk, rfl⟩ := List.mem_map.mp hx
    rw [List.mem_range] at hk
    rcases Nat.lt_or_ge k (lowestFreeId drones) with hlt | hge
    · exact hbelow k hlt
    · have hlast' : drones.length ≤ lowestFreeId drones := by rwa [Nat.zero_add] at hlength
      obtain rfl : k = lowestFreeId drones := by omega
      exact hused
  have hle := (List.subperm_of_subset hnodup hsub).length_le
  simp only [tried, List.length_map, List.length_range] at hle
  omega

lemma id_makeDrone (id : ℕ) : (makeDrone id).id = id := rfl

lemma nodup_snoc (hnodup : (drones.map Drone.id).Nodup) :
    ((drones ++ [makeDrone (lowestFreeId drones)]).map Drone.id).Nodup := by
  rw [List.map_append, List.map_singleton, id_makeDrone, ← List.concat_eq_append]
  exact hnodup.concat (lowestFreeId_fresh drones)

lemma pushDrones_spec : ∀ n (drones : List Drone), (drones.map Drone.id).Nodup →
    ((pushDrones n drones).map Drone.id).Nodup ∧ (pushDrones n drones).length = drones.length + n ∧
      drones ⊆ pushDrones n drones
  | 0, _, hnodup => ⟨hnodup, rfl, List.Subset.refl _⟩
  | n + 1, drones, hnodup => by
    obtain ⟨hnext, hlength, hsub⟩ := pushDrones_spec n _ (nodup_snoc hnodup)
    refine ⟨hnext, ?_, List.Subset.trans (List.subset_append_left _ _) hsub⟩
    rw [pushDrones, hlength, List.length_append, List.length_singleton]
    omega

lemma nodup_of_sorted (hsorted : drones.Pairwise fun a b => a.id < b.id) :
    (drones.map Drone.id).Nodup :=
  List.pairwise_map.mpr (hsorted.imp fun h => h.ne)

lemma eq_of_id (hsorted : drones.Pairwise fun a b => a.id < b.id) {d d' : Drone}
    (hd : d ∈ drones) (hd' : d' ∈ drones) (hid : d'.id = d.id) : d' = d :=
  List.inj_on_of_nodup_map (nodup_of_sorted hsorted) hd' hd hid

lemma sortById_perm (drones : List Drone) : (sortById drones).Perm drones :=
  List.perm_insertionSort _ _

lemma sortById_sorted (hnodup : (drones.map Drone.id).Nodup) :
    (sortById drones).Pairwise fun a b => a.id < b.id := by
  let r : Drone → Drone → Prop := fun a b => a.id ≤ b.id
  have : Std.Total r := ⟨fun a b => le_total a.id b.id⟩
  have : IsTrans Drone r := ⟨fun _ _ _ => le_trans⟩
  have hle : (sortById drones).Pairwise r := List.pairwise_insertionSort r drones
  have hne : ((sortById drones).map Drone.id).Nodup :=
    ((sortById_perm drones).map Drone.id).nodup_iff.mpr hnodup
  exact (hle.and (List.pairwise_map.mp hne)).imp fun h => lt_of_le_of_ne h.1 h.2

variable {command : FleetCommand} {patch : Dict String Value}

lemma grown_lawful {more : List Drone} (hsub : drones ⊆ more)
    (hnodup : (more.map Drone.id).Nodup) (hmore : drones.length < more.length)
    (hsize : more.length ≤ maxFleetSize) : command.Lawful drones (sortById more) where
  differs := fun h => by
    have hlength := (sortById_perm more).length_eq
    rw [h] at hlength
    omega
  nonempty := fun h => by
    have hlength := (sortById_perm more).length_eq
    rw [h, List.length_nil] at hlength
    omega
  size := by rwa [(sortById_perm more).length_eq]
  sorted := sortById_sorted hnodup
  kept := fun _ d hd _ => (sortById_perm more).mem_iff.mpr (hsub hd)
  records := fun _ _ hd _ hd' hid =>
    eq_of_id (sortById_sorted hnodup) ((sortById_perm more).mem_iff.mpr (hsub hd)) hd' hid

lemma shrunk_lawful {fewer : List Drone} (hsub : fewer.Sublist drones)
    (hsorted : drones.Pairwise fun a b => a.id < b.id) (hsize : drones.length ≤ maxFleetSize)
    (hne : fewer ≠ []) (hfewer : fewer ≠ drones)
    (hkept : (∀ count, command ≠ .setCount count) → ∀ d ∈ drones, ¬ command.Names d → d ∈ fewer) :
    command.Lawful drones fewer where
  differs := hfewer
  nonempty := hne
  size := hsub.length_le.trans hsize
  sorted := hsorted.sublist hsub
  kept := hkept
  records := fun _ _ hd _ hd' hid => eq_of_id hsorted hd (hsub.subset hd') hid

lemma remove_lawful {id : Value} (hsorted : drones.Pairwise fun a b => a.id < b.id)
    (hsize : drones.length ≤ maxFleetSize) (hmany : 1 < drones.length)
    (hany : ∃ d ∈ drones, d.named id) :
    (FleetCommand.remove id).Lawful drones (drones.filter fun d => ¬ d.named id) := by
  refine shrunk_lawful List.filter_sublist hsorted hsize (fun h => ?_) (fun h => ?_)
    fun _ d hd hother => List.mem_filter.mpr ⟨hd, decide_eq_true hother⟩
  · -- The first two drones cannot both have the id.
    obtain ⟨a, b, rest, rfl⟩ : ∃ a b rest, drones = a :: b :: rest := by
      match drones, hmany with
      | a :: b :: rest, _ => exact ⟨a, b, rest, rfl⟩
    have hnone := List.filter_eq_nil_iff.mp h
    have ha : a.named id := by simpa using hnone a (by simp)
    have hb : b.named id := by simpa using hnone b (by simp)
    have hid : a.id = b.id := by simpa using ha.symm.trans hb
    exact ((List.pairwise_cons.mp hsorted).1 b (by simp)).ne hid
  · obtain ⟨d, hd, hnamed⟩ := hany
    exact (of_decide_eq_true (List.filter_eq_self.mp h d hd)) hnamed

lemma id_updated (ids : List Value) (patch : Dict String Value) (d : Drone) :
    (updated ids patch d).id = d.id := by
  unfold updated
  split <;> rfl

lemma update_lawful {ids : List Value} {clean : Dict String Value}
    (hnodup : (clean.map Prod.fst).Nodup) (hne : drones ≠ [])
    (hsorted : drones.Pairwise fun a b => a.id < b.id) (hsize : drones.length ≤ maxFleetSize)
    (hstale : ∃ d ∈ drones, d.stale ids clean) :
    (FleetCommand.update ids patch).Lawful drones (drones.map (updated ids clean)) where
  differs := fun h => by
    obtain ⟨d, hd, hold⟩ := hstale
    have hsame := List.map_eq_map_iff.mp (h.trans (List.map_id drones).symm) d hd
    obtain ⟨e, he, hread⟩ := hold.2
    rw [updated, if_pos hold, id_eq] at hsame
    have hfields := congrArg Drone.fields hsame
    exact hread (hfields ▸ read_assignAll hnodup he)
  nonempty := by simpa using hne
  size := by rwa [List.length_map]
  sorted := List.pairwise_map.mpr (hsorted.imp fun h => by rwa [id_updated, id_updated])
  kept := fun _ d hd hother =>
    List.mem_map.mpr ⟨d, hd, if_neg fun h => hother h.1⟩
  records := fun h => absurd rfl (h ids patch)

lemma editable_isSome {k : String} {v : Value} :
    (editable host k v).isSome ↔ (k ∈ inherited → (host.inheritedCall k v).isSome) := by
  unfold editable
  split
  next h => subst h; exact iff_of_true (by split <;> rfl) fun h => absurd h (by decide)
  next =>
    split
    next h => subst h; exact iff_of_true rfl fun h => absurd h (by decide)
    next =>
      split
      next h => subst h; exact iff_of_true (by split <;> rfl) fun h => absurd h (by decide)
      next =>
        split
        next h => subst h; exact iff_of_true (by split <;> rfl) fun h => absurd h (by decide)
        next =>
          split
          next h => exact ⟨fun hs _ => hs, fun hs => hs h⟩
          next h => exact iff_of_true rfl fun hin => absurd hin h

lemma keepClean_foldlM_isSome : ∀ (patch out : Dict String Value),
    (patch.foldlM (fun out e => (editable host e.1 e.2).map (keepClean out e.1)) out).isSome ↔
      ∀ e ∈ patch, (editable host e.1 e.2).isSome
  | [], out => by simp
  | e :: patch, out => by
    rw [List.foldlM_cons, List.forall_mem_cons]
    cases hclean : editable host e.1 e.2 with
    | none => simp
    | some clean => simpa using keepClean_foldlM_isSome patch (keepClean out e.1 clean)

lemma cleanPatch_isSome : (cleanPatch host patch).isSome ↔
      ∀ e ∈ patch, e.1 ∈ inherited → (host.inheritedCall e.1 e.2).isSome := by
  rw [cleanPatch, keepClean_foldlM_isSome]
  exact forall₂_congr fun e _ => editable_isSome

lemma keepClean_foldlM_nodup : ∀ (patch : Dict String Value) {out clean : Dict String Value},
    patch.foldlM (fun out e => (editable host e.1 e.2).map (keepClean out e.1)) out = some clean →
      (out.map Prod.fst).Nodup → (clean.map Prod.fst).Nodup
  | [], out, clean, h, hout => by
    obtain rfl := Option.some.inj h
    exact hout
  | e :: patch, out, clean, h, hout => by
    rw [List.foldlM_cons] at h
    cases hclean : editable host e.1 e.2 with
    | none => simp [hclean] at h
    | some v =>
      rw [hclean] at h
      refine keepClean_foldlM_nodup patch h ?_
      unfold keepClean
      split
      · exact hout
      · exact nodup_assign hout _ _

lemma cleanPatch_nodup {clean : Dict String Value}
    (h : cleanPatch host patch = some clean) : (clean.map Prod.fst).Nodup :=
  keepClean_foldlM_nodup patch h List.nodup_nil

lemma fleetSize_mem {count : Value} {n : ℕ} (h : fleetSize host count = some n) :
    1 ≤ n ∧ n ≤ maxFleetSize := by
  unfold fleetSize at h
  split at h
  next => cases h
  next negative _ =>
    obtain rfl := Option.some.inj h
    cases negative <;> decide
  next x _ =>
    obtain rfl := Option.some.inj h
    simp only [maxFleetSize]
    omega

lemma applyFleetCommand_iff (hne : drones ≠ [])
    (hsize : drones.length ≤ maxFleetSize) (hsorted : drones.Pairwise fun a b => a.id < b.id) :
    command.Sound host ↔ (applyFleetCommand host drones command).Holds (command.Lawful drones) := by
  have hnodup := nodup_of_sorted hsorted
  cases command with
  | add =>
    refine iff_of_true trivial ?_
    simp only [applyFleetCommand]
    split
    next => trivial
    next h =>
      exact grown_lawful (List.subset_append_left _ _) (nodup_snoc hnodup) (by simp)
        (by rw [List.length_append, List.length_singleton]; omega)
  | remove id =>
    refine iff_of_true trivial ?_
    simp only [applyFleetCommand]
    split
    next => trivial
    next h =>
      simp only [Bool.or_eq_true, decide_eq_true_eq, not_or, not_le, Bool.not_eq_true',
        Bool.not_eq_false, List.any_eq_true] at h
      exact remove_lawful hsorted hsize h.1 h.2
  | update ids patch =>
    rw [FleetCommand.Sound, ← cleanPatch_isSome]
    cases hclean : cleanPatch host patch with
    | none =>
      simp only [applyFleetCommand, hclean]
      exact iff_of_false (by simp) id
    | some clean =>
      simp only [applyFleetCommand, hclean]
      refine iff_of_true rfl ?_
      split
      next h =>
        exact update_lawful (cleanPatch_nodup hclean) hne hsorted hsize (by simpa using h)
      next => trivial
  | setCount count =>
    refine iff_of_true trivial ?_
    cases hcount : fleetSize host count with
    | none =>
      simp only [applyFleetCommand, hcount]
      trivial
    | some n =>
      simp only [applyFleetCommand, hcount]
      obtain ⟨hpos, hmax⟩ := fleetSize_mem hcount
      have hlength := List.length_pos_iff.mpr hne
      split
      next => trivial
      next hother =>
        split
        next hless =>
          have htake : (drones.take n).length = n := List.length_take_of_le hless.le
          refine shrunk_lawful (List.take_sublist ..) hsorted hsize (fun h => ?_) (fun h => ?_)
            fun h => absurd rfl (h count)
          · rw [h, List.length_nil] at htake
            omega
          · rw [h] at htake
            omega
        next hmore =>
          obtain ⟨hnext, hpushed, hsub⟩ := pushDrones_spec (n - drones.length) drones hnodup
          exact grown_lawful hsub hnext (by omega) (by omega)
  | unknown => exact iff_of_true trivial trivial

end Fleet

/-! ## The document -/

variable {doc : Document}

lemma applyCommand_iff {host : Host} {command : Command}
    (hdoc : Invariants doc) (hadmitted : command.Admitted doc) :
    command.Sound host doc ↔
      (applyCommand host doc command).Holds fun doc' => command.Lawful doc doc' := by
  cases command with
  | scene command =>
    refine (applySceneCommand_iff hdoc.scenes hdoc.apart hadmitted).trans ?_
    simp only [applyCommand]
    cases applySceneCommand host doc.scenes command with
    | changed scenes => exact (and_iff_left rfl).symm
    | same | damaged | thrown => exact Iff.rfl
  | fleet command =>
    refine (applyFleetCommand_iff hdoc.drones hdoc.size hdoc.sorted).trans ?_
    simp only [applyCommand]
    cases applyFleetCommand host doc.dronesList command with
    | changed dronesList => exact (and_iff_left rfl).symm
    | same | damaged | thrown => exact Iff.rfl
  | other => exact iff_of_true trivial trivial

lemma Invariants.lawful {doc' : Document} {command : Command} (hdoc : Invariants doc)
    (h : command.Lawful doc doc') : Invariants doc' := by
  cases command with
  | scene command =>
    obtain ⟨hscenes, hdrones⟩ := h
    exact ⟨hscenes.nonempty, hscenes.apart, hdrones ▸ hdoc.drones, hdrones ▸ hdoc.size,
      hdrones ▸ hdoc.sorted⟩
  | fleet command =>
    obtain ⟨hdrones, hscenes⟩ := h
    exact ⟨hscenes ▸ hdoc.scenes, hscenes ▸ hdoc.apart, hdrones.nonempty, hdrones.size,
      hdrones.sorted⟩
  | other => exact h.elim

lemma step_of_holds {l : Host × Command} (hdoc : Invariants doc)
    (h : (applyCommand l.1 doc l.2).Holds fun doc' => l.2.Lawful doc doc') :
    ∃ doc' o, step doc l = some (doc', o) ∧ Invariants doc' := by
  unfold step
  cases happly : applyCommand l.1 doc l.2 with
  | same => exact ⟨doc, _, rfl, hdoc⟩
  | changed doc' =>
    rw [happly] at h
    exact ⟨doc', _, rfl, hdoc.lawful h⟩
  | damaged | thrown =>
    rw [happly] at h
    exact h.elim

/-- A command on a document is sound if and only if it returns that document, or another one as it
must be; and after any number of sound commands there is a document with its invariants. -/
theorem commands_keep_document {doc : Document} {commands : List (Host × Command)}
    (hdoc : Invariants doc)
    (hadmitted : Run.Along step (fun doc l => l.2.Admitted doc) doc commands) :
    (Run.Along step (fun doc l => l.2.Sound l.1 doc) doc commands ↔
      Run.Along step (fun doc l => (applyCommand l.1 doc l.2).Holds fun doc' =>
        l.2.Lawful doc doc') doc commands) ∧
    (Run.Along step (fun doc l => l.2.Sound l.1 doc) doc commands →
      ∃ doc' os, Run.run step doc commands = some (doc', os) ∧ Invariants doc') := by
  refine ⟨Run.along_congr (I := Invariants) (fun _ l hi ha => applyCommand_iff hi ha) ?_ hdoc
    hadmitted, fun hsound => ?_⟩
  · intro s l m o hi _ hlawful hs
    obtain ⟨m', o', hs', hi'⟩ := step_of_holds hi hlawful
    rw [hs, Option.some.injEq, Prod.mk.injEq] at hs'
    exact hs'.1 ▸ hi'
  · refine Run.exists_run (I := Invariants) ?_ hdoc (hadmitted.and hsound)
    intro s l hi hl
    exact step_of_holds hi ((applyCommand_iff hi hl.1).mp hl.2)

/-- A host for commands without texts, in which nothing inherited is called. -/
def plainHost : Host where
  textNumber _ := .nan
  numberText _ := ""
  refText _ := "[object Object]"
  add
    | .fin a, .fin b => .fin (a + b)
    | _, _ => .nan
  inheritedCall _ _ := none

def sceneOf (id : String) : Scene := [("id", .str id), ("name", .str id)]

def twoScenes : Document where
  scenes := [sceneOf "a", sceneOf "b"]
  dronesList := [makeDrone 0, makeDrone 1]

lemma twoScenes_invariants : Invariants twoScenes where
  scenes := by decide
  apart := by decide
  drones := by decide
  size := by decide
  sorted := by decide

/-- The first scene goes down and gets a longer hold and a copy; one drone is renamed and another
one added. -/
def edits : List (Host × Command) :=
  [(plainHost, .scene (.move (.num (.fin 0)) (.num (.fin 1)))),
    (plainHost, .scene (.patch (.str "a") ⟨[("holdDurationSeconds", .num (.fin 9))], by decide⟩)),
    (plainHost, .scene (.duplicate (.str "a") (.str "c"))),
    (plainHost, .fleet (.update [.num (.fin 1)] [("name", .str "Left")])),
    (plainHost, .fleet .add)]

theorem commands_keep_document_edits : ∃ doc' os,
    Run.run step twoScenes edits = some (doc', os) ∧ Invariants doc' :=
  (commands_keep_document twoScenes_invariants (by decide +kernel)).2 (by decide +kernel)

/-- To move a scene by no places makes a new document that is the same as the old one. -/
theorem moved_nowhere : Invariants twoScenes ∧ ¬ (applyCommand plainHost twoScenes
      (.scene (.move (.num (.fin 0)) (.num (.fin 0))))).Holds
        (fun doc' => Command.Lawful twoScenes doc'
          (.scene (.move (.num (.fin 0)) (.num (.fin 0))))) := by
  refine ⟨twoScenes_invariants, fun h => ?_⟩
  have hsame : applyCommand plainHost twoScenes (.scene (.move (.num (.fin 0)) (.num (.fin 0)))) =
      .changed twoScenes := by decide +kernel
  rw [hsame] at h
  exact h.1.differs rfl

end Taramandal.Studio.Commands

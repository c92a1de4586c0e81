import Taramandal.Studio.VaultRules

/-! # The operations of the vault, one by one

What each operation was told when it is over, and what it gives the editor. -/
namespace Taramandal.Studio.Operations

open Lib.Dict Lib.Hoare Lib.ScriptValues Studio.VaultClient Studio.ProjectVault Studio.Projects
open Studio.VaultRules

variable {held : Option (String × Record)} {quiet : Prop} {w : World}

/-! ## What a record holds -/

/-- A document as it is put in the editor: what it lacks is filled in. -/
def settledDoc (sceneId : String) (d : Doc Json) : Doc Json where
  scenes := if hasItems d.scenes then d.scenes else .arr [firstScene sceneId]
  rate := d.rate.orElse minCertifiableRateHz
  homeLat := d.homeLat.orElse defaultLat
  homeLon := d.homeLon.orElse defaultLon
  dronesList := if hasItems d.dronesList then d.dronesList else defaultFleet 6
  ledTrack := if d.ledTrack.isArray then d.ledTrack else .arr []
  pacing := d.pacing.orElse (.str "standard")

/-- The document is stored: it is what was sent, it says the same, or it is what was read. -/
def HoldsDoc (kept d : Doc Json) : Prop :=
  kept = wireDoc d ∨ pick kept = pick d ∨ ∃ sceneId, d = settledDoc sceneId kept

/-- The content of the editor is stored. -/
structure Holds (r : Record) (c : Content) : Prop where
  name : r.name = wireName c.name ∨ r.name = c.name
  doc : HoldsDoc r.document (c.doc.map Val.json)
  showData : HoldsShow r.showData c.choreoData.json
  validation : r.validation = c.validation.json

/-- The record is what the backend makes of the content. -/
structure Sent (r : Record) (c : Content) : Prop where
  name : r.name = wireName c.name
  doc : r.document = wireDoc (c.doc.map Val.json)
  showData : r.showData = (conformingShow c.choreoData.json).1
  validation : r.validation = c.validation.json

def Conforms (v : Json) : Prop := v = .null ∨ (conformingShow v).1 ≠ .null

variable {c : Content} {r : Record}

lemma Sent.holds {c' : Content} (h : Sent r c) (hconforms : Conforms c.choreoData.json)
    (hname : r.name = wireName c'.name ∨ r.name = c'.name) (hdoc : c'.doc = c.doc)
    (hshow : c'.choreoData = c.choreoData) (hvalidation : c'.validation = c.validation) :
    Holds r c' where
  name := hname
  doc := .inl (by rw [hdoc]; exact h.doc)
  showData := by
    rw [HoldsShow, hshow, h.showData]
    rcases hconforms with hnull | hnull
    · exact .inl (by rw [hnull]; rfl)
    · exact .inr ⟨rfl, hnull⟩
  validation := by rw [hvalidation]; exact h.validation

lemma addVersion_content (d : Draft) (state : Doc Val) (now : Instant) (label : String) :
    (addVersion d state now label).content = d.content := by
  unfold addVersion
  split <;> rfl

lemma sent_record {d : Draft} (h : d.content = c) (n : ℕ) :
    Sent (Backend.record (toWire d) n) c := by
  subst h
  exact ⟨rfl, rfl, rfl, rfl⟩

lemma wireName_nameOr (name : String) : wireName (nameOr name) = wireName name := by
  unfold nameOr
  split
  next h => subst h; decide
  next => rfl

lemma wireName_ne (name : String) : wireName name ≠ "" := by
  have hslice : ∀ s : String, s ≠ "" → slice s maxNameLength ≠ "" := by
    intro s hs heq
    have hnil : takeUnits maxNameLength s.toList = [] := by
      have hlist := congrArg String.toList heq
      simpa [slice] using hlist
    cases hchars : s.toList with
    | nil => exact hs (by simpa using hchars)
    | cons c cs =>
      rw [hchars, takeUnits] at hnil
      have hle : (if c.toNat < 0x10000 then 1 else 2) ≤ maxNameLength := by
        split <;> decide
      rw [if_pos hle] at hnil
      cases hnil
  unfold wireName
  split
  next => exact hslice _ (by decide)
  next h => exact hslice _ h

/-! ## Steps that ask nothing of the backend -/

variable {E : VaultError → World → Prop}

variable {P : World → Prop} {project : Project} {revision : ℕ}

lemma vault_bind {α : Type} {f : Vault → Op α} {Q : α → World → Prop}
    (h : ∀ v, Triple (fun w => w.vault = v ∧ P w) (f v) Q E) :
    Triple P (vault >>= f) Q E :=
  fun w hw => h w.vault w ⟨rfl, hw⟩

lemma setVault_spec {Q : Unit → World → Prop} {f : Vault → Vault}
    (h : ∀ w, P w → Q () { w with vault := f w.vault }) :
    Triple P (setVault f) Q E :=
  fun w hw => h w hw

variable {v : Vault}

lemma before_vault (h : Before held quiet w) (hbase : v.base = w.vault.base)
    (hactive : v.activeId = w.vault.activeId) (hprojects : v.projects = w.vault.projects) :
    Before held quiet { w with vault := v } where
  told := h.told
  alone := h.alone
  active := hactive.trans (h.active.trans (congrArg _ hbase.symm))
  base := fun b hb =>
    have ⟨r, hheld, hr, hkept⟩ := h.base b (hbase.symm.trans hb)
    ⟨r, hheld, hr, fun hq => ⟨(hkept hq).1, by rw [entry_congr hprojects]; exact (hkept hq).2⟩⟩

variable {id : String}

lemma failed_drop (h : Failed held quiet w) (hgone : quiet → find w.backend id = none)
    (hbase : v.base = w.vault.base) (hactive : v.activeId = w.vault.activeId)
    (hprojects : v.projects = w.vault.projects.filter fun p => p.id ≠ id) :
    Failed held quiet { w with vault := v } where
  told := h.told
  alone := h.alone
  active := hactive.trans (h.active.trans (congrArg _ hbase.symm))
  base := by
    intro b hb
    obtain ⟨r, hheld, hr, hleft⟩ := h.base b (hbase.symm.trans hb)
    refine ⟨r, hheld, hr, fun hq => ?_⟩
    by_cases hid : b.1 = id
    · exact .inr (by rw [hid]; exact hgone hq)
    · exact (hleft hq).imp_left fun h => by rw [entry_drop hprojects hid]; exact h

lemma before_drop (h : Before held quiet w) (hother : w.vault.activeId ≠ some id)
    (hbase : v.base = w.vault.base) (hactive : v.activeId = w.vault.activeId)
    (hprojects : v.projects = w.vault.projects.filter fun p => p.id ≠ id) :
    Before held quiet { w with vault := v } where
  told := h.told
  alone := h.alone
  active := hactive.trans (h.active.trans (congrArg _ hbase.symm))
  base := by
    intro b hb
    obtain ⟨r, hheld, hr, hkept⟩ := h.base b (hbase.symm.trans hb)
    refine ⟨r, hheld, hr, fun hq => ⟨(hkept hq).1, ?_⟩⟩
    have hid : b.1 ≠ id := by
      rintro rfl
      exact hother (by rw [h.active, ← hbase, hb]; rfl)
    rw [entry_drop hprojects hid]
    exact (hkept hq).2

lemma activate_spec {error : Option String} (hid : project.id = id) (hmirrors : Mirrors r project) :
    Triple (Told quiet id r) (activate project error) (fun _ => Opened quiet id r) E := by
  subst hid
  refine setVault_spec fun w hw => ⟨hw.told, rfl, ?_, fun hq => ⟨hw.stored hq, project, ?_, hmirrors⟩⟩
  · rw [hmirrors.revision]
  · exact entry_put w.vault project

def Shows (r : Record) (res : Result) : Prop := ∃ p, res = opened p ∧ Mirrors r p

/-- The operation ends with a project it was told of as the open one, and in the editor. -/
def Shown (quiet : Prop) (res : Result) (w : World) : Prop :=
  ∃ id r, Opened quiet id r w ∧ Shows r res

lemma activate_opened {error : Option String} (hid : project.id = id)
    (hmirrors : Mirrors r project) :
    Triple (Told quiet id r) (do activate project error; return opened project) (Shown quiet) E :=
  (activate_spec hid hmirrors).bind fun _ _ hw => ⟨id, r, hw, project, rfl, hmirrors⟩

lemma connect_spec : Triple (Before held quiet) connect
    (fun ps w => Before held quiet w ∧ ∀ id r, find w.backend id = some r → ∃ p ∈ ps, p.id = id)
    (fun _ => Failed held quiet) :=
  (list_spec kept_refused fun _ _ _ _ h => h).raises fun _ _ h => h.failed

variable {editor : Content}

/-- `createFrom`: what is stored is the editor's content, under the name it is given. -/
lemma createFrom_spec (keep : Prop) {versions : List Version} {name : String} {id : Option String}
    {note : Option String} :
    Triple (fun w => Failed held quiet w ∧ (keep → Before held quiet w))
      (createFrom editor versions name id note)
      (fun p w => ∃ id r, Opened quiet id r w ∧ p.content.name = r.name ∧
        Sent r { editor with name })
      (fun _ => Failed held (quiet ∧ keep)) := by
  refine Triple.bind (clock_spec fun w hw => ⟨hw.1.frame (fun _ _ h => h) rfl rfl rfl, fun hk =>
    (hw.2 hk).frame (fun _ _ h => h) rfl rfl rfl⟩) fun now => ?_
  refine Triple.bind (create_spec keep) fun res => Triple.of_imp fun hrecord => ?_
  have hsent : Sent res.record { editor with name } :=
    hrecord ▸ sent_record (addVersion_content _ _ _ _) 1
  refine Triple.bind (stored_spec hsent.showData hsent.validation) fun p => ?_
  refine Triple.of_imp fun hp => (activate_spec hp.1 hp.2).bind fun _ w hw => ?_
  exact ⟨res.id, res.record, hw, hp.2.name, hsent⟩

lemma openListed_spec {projects : List Project} {wanted : Option String} :
    Triple (Failed held quiet) (openListed projects wanted) (Shown quiet)
      (fun _ => Failed held quiet) := by
  unfold openListed
  split
  next => exact Triple.throw (E := fun _ => Failed held quiet) _
  next target _ =>
    refine Triple.bind (get_spec.raises fun _ _ h => h.1)
      fun project => Triple.of_imp fun hid => Triple.of_exists fun r => Triple.of_imp fun hm => ?_
    refine Triple.bind (setVault_spec (Q := fun _ => Told quiet target.id r)
      fun w hw => ⟨hw.told, hw.alone, hw.stored⟩) fun _ => activate_opened hid hm

/-! ## The operations -/

lemma load_spec :
    Triple (Before held quiet) (load id) (Shown quiet) (fun _ => Failed held quiet) := by
  refine Triple.bind (get_spec.attempt.pre (fun _ h => h.failed)) fun got => ?_
  cases got with
  | ok project =>
    exact Triple.of_imp fun hid => Triple.of_exists fun r => Triple.of_imp fun hm =>
      activate_opened hid hm
  | error e =>
    refine Triple.bind (Q := fun _ => Failed held quiet) ?_ fun _ =>
      Triple.throw (E := fun _ => Failed held quiet) e
    cases e with
    | notFound i =>
      intro w hw
      exact failed_drop hw.1 (hw.2 i rfl) rfl rfl rfl
    | _ => exact fun w hw => hw.1

lemma vaultCreate_spec {sceneId : String} :
    Triple (Before held quiet) (ProjectVault.create sceneId) (Shown quiet)
      (fun _ => Failed held quiet) := by
  refine Triple.bind (draw_spec 1 (Q := fun _ => Before held quiet)
    fun w hw => hw.frame (fun _ _ h => h) rfl rfl rfl) fun fresh => ?_
  refine Triple.bind ((create_spec True).weaken (fun _ h => ⟨h.failed, fun _ => h⟩)
    (fun _ _ h => h) fun _ _ h => by rwa [and_true] at h) fun res => Triple.of_imp fun hrecord => ?_
  have hsent : Sent res.record (blankProject fresh sceneId) := hrecord ▸ sent_record rfl 1
  refine Triple.bind (stored_spec hsent.showData hsent.validation) fun p => ?_
  exact Triple.of_imp fun hp => activate_opened hp.1 hp.2

def Rested (held : Option (String × Record)) (quiet : Prop) (res : Result) (w : World) : Prop :=
  res = nothing ∧ Before held quiet w

lemma refresh_spec : Triple (Before held quiet) ProjectVault.refresh (Rested held quiet)
    (fun _ => Failed held quiet) := by
  refine vault_bind fun v => Triple.ite (fun _ w hw => ⟨rfl, hw.2⟩) fun _ => ?_
  refine Triple.bind (connect_spec.pre (fun _ h => h.2))
    fun listed => ?_
  refine Triple.bind (setVault_spec (Q := fun _ => Before held quiet) fun w hw =>
    ⟨hw.1.told, hw.1.alone, hw.1.active, fun b hb => ?_⟩) fun _ w hw => ⟨rfl, hw⟩
  obtain ⟨r, hheld, hr, hkept⟩ := hw.1.base b hb
  refine ⟨r, hheld, hr, fun hq => ⟨(hkept hq).1, ?_⟩⟩
  obtain ⟨hfind, p, hp, hmirrors⟩ := hkept hq
  obtain ⟨q, hq, hid⟩ := hw.2 b.1 r hfind
  have hactive : activeEntry w.vault = some p := by
    rw [activeEntry, hw.1.active, show w.vault.base = some b from hb]
    exact hp
  have hpid : p.id = b.1 := id_of_entry hp
  -- the list has the project, and its entry is the one kept
  obtain ⟨q', hq'⟩ : ∃ q', listed.find? (fun x => decide (x.id = p.id)) = some q' :=
    Option.isSome_iff_exists.mp (List.find?_isSome.mpr ⟨q, hq, by simp [hid, hpid]⟩)
  refine ⟨p, ?_, hmirrors⟩
  have hreplace := find_replace listed p
  rw [hq'] at hreplace
  rw [← hpid, entry, hactive]
  exact hreplace

/-- An operation that only looks for the right project to go on with was told nothing of its
own: what it says was told is what is open. -/
lemma retry_spec : Triple (Before held quiet) (ProjectVault.retry editor)
    (fun res w => res = nothing ∧ (Before held quiet w ∨ ∃ id r, Opened quiet id r w))
    (fun _ => Failed held quiet) := by
  refine Triple.bind (setVault_spec (Q := fun _ => Before held quiet) fun w hw =>
    before_vault hw rfl rfl rfl) fun _ => ?_
  refine Triple.bind connect_spec fun projects => Triple.ite (fun _ => ?_) fun _ => ?_
  · refine Triple.bind ((createFrom_spec True).weaken
      (fun _ h => ⟨h.1.failed, fun _ => h.1⟩) (fun _ _ h => h) fun _ _ h => by rwa [and_true] at h)
      fun p w hw => ?_
    obtain ⟨id, r, hopened, -⟩ := hw
    exact ⟨rfl, .inr ⟨id, r, hopened⟩⟩
  · refine Triple.bind (setVault_spec (Q := fun _ => Before held quiet) fun w hw => ?_)
      fun _ w hw => ⟨rfl, .inl hw⟩
    exact ⟨hw.1.told, hw.1.alone, rfl, fun b hb => nomatch hb⟩

lemma openVault_spec (editor : Content) (wanted : Option String) :
    Triple (Before held quiet) (openVault editor wanted)
      (fun res w => Shown quiet res w ∨ res = nothing ∧ ∃ id r, Opened quiet id r w ∧
        Sent r { editor with name := defaultProjectName })
      (fun _ => Failed held quiet) := by
  refine Triple.bind (setVault_spec (Q := fun _ => Before held quiet) fun w hw =>
    before_vault hw rfl rfl rfl) fun _ => ?_
  refine Triple.bind connect_spec fun projects => Triple.ite (fun _ => ?_) fun _ => ?_
  · refine Triple.bind ((create_spec True).attempt.pre (fun _ h => ⟨h.1.failed, fun _ => h.1⟩)) fun created => ?_
    cases created with
    | ok res =>
      refine Triple.of_imp fun hrecord => ?_
      have hsent : Sent res.record { editor with name := defaultProjectName } :=
        hrecord ▸ sent_record rfl 1
      refine Triple.bind (stored_spec hsent.showData hsent.validation) fun p => ?_
      refine Triple.of_imp fun hp => (activate_spec hp.1 hp.2).bind fun _ w hw => ?_
      exact .inr ⟨rfl, res.id, res.record, hw, hsent⟩
    | error e =>
      simp only [and_true]
      cases e with
      | «exists» i =>
        refine Triple.bind (list_spec left_refused fun _ _ _ _ h => h) fun listed => ?_
        exact openListed_spec.weaken (fun _ h => h.1) (fun _ _ h => .inl h) fun _ _ h => h
      | _ => exact Triple.throw (E := fun _ => Failed held quiet) _
  · exact openListed_spec.weaken (fun _ h => h.1.failed) (fun _ _ h => .inl h) fun _ _ h => h

lemma removed_spec : Triple (Gone held quiet id) (removed id)
    (fun res w => Rested held quiet res w ∨ Shown quiet res w) (fun _ => Failed held quiet) := by
  refine vault_bind fun v => ?_
  refine Triple.bind (setVault_spec (Q := fun _ w => Failed held quiet w ∧
    (v.activeId ≠ some id → Before held quiet w)) fun w hw => ?_) fun _ =>
      Triple.ite (fun hother w hw => .inl ⟨rfl, hw.2 hother⟩) fun _ => ?_
  · obtain ⟨rfl, hw⟩ := hw
    exact ⟨failed_drop hw.failed hw.gone rfl rfl rfl, fun hother =>
      before_drop (hw.other hother) hother rfl rfl rfl⟩
  · split
    next => exact fun w hw => hw.1
    next target _ _ =>
      refine Triple.bind (get_spec.weaken (fun _ h => h.1) (fun _ _ h => h) fun _ _ h => h.1)
        fun project => Triple.of_imp fun hid => Triple.of_exists fun r => Triple.of_imp fun hm => ?_
      exact (activate_opened hid hm).post (fun _ _ h => .inr h)

lemma vaultRemove_spec : Triple (Before held quiet) (ProjectVault.remove id)
    (fun res w => Rested held quiet res w ∨ Shown quiet res w) (fun _ => Failed held quiet) := by
  refine vault_bind fun v => Triple.ite (fun _ w hw => .inl ⟨rfl, hw.2⟩) fun _ => ?_
  refine Triple.bind (remove_spec.attempt.pre (fun _ h => h.2))
    fun gone => ?_
  cases gone with
  | ok _ => exact removed_spec
  | error e =>
    cases e with
    | notFound i =>
      exact removed_spec.pre (fun _ h => h.2 i rfl)
    | _ => exact fun w hw => hw.1

lemma restoreTo_spec {listed : Project} {version : Version} :
    Triple (Before held quiet) (restoreTo listed version editor) (Shown quiet)
      (fun _ => Failed held quiet) := by
  refine vault_bind fun v => Triple.bind (Q := fun _ => Before held quiet) ?_ fun kept => ?_
  · refine Triple.ite (fun _ w hw => hw.2) fun _ => ?_
    exact (clock_spec fun w hw => ⟨hw.1, hw.2.frame (fun _ _ h => h) rfl rfl rfl⟩).bind
      fun _ w hw => hw.2
  refine Triple.bind (draw_spec 1 (Q := fun _ => Before held quiet) fun w hw =>
    hw.frame (fun _ _ h => h) rfl rfl rfl) fun fresh => ?_
  refine Triple.bind (save_spec.raises fun _ _ h => h.1) fun res =>
    Triple.of_imp fun _ => Triple.of_imp fun hrecord => ?_
  have hsent : Sent res.record (restoreVersion fresh kept version).content :=
    hrecord ▸ sent_record rfl _
  refine Triple.bind (stored_spec hsent.showData hsent.validation) fun p => ?_
  exact Triple.of_imp fun hp => activate_opened hp.1 hp.2

lemma restore_spec {versionId : String} :
    Triple (Before held quiet) (ProjectVault.restore id versionId editor)
      (fun res w => Rested held quiet res w ∨ Shown quiet res w) (fun _ => Failed held quiet) := by
  refine vault_bind fun v => ?_
  split
  next => exact fun w hw => .inl ⟨rfl, hw.2⟩
  next => exact restoreTo_spec.weaken (fun _ h => h.2) (fun _ _ h => .inr h) fun _ _ h => h

/-! ## Saving -/

/-- A save is over: there was nothing to save, or the editor's content is stored in what is
open now, under the name it has in the editor or gets there. -/
def Saved (held : Option (String × Record)) (quiet : Prop) (c : Content) (res : Result)
    (w : World) : Prop :=
  res.editor = none ∧
    ((Before held quiet w ∧ res.name = none ∧ (quiet → ∃ id r, held = some (id, r) ∧ Holds r c)) ∨
      ∃ id r, Opened quiet id r w ∧ (Conforms c.choreoData.json →
        Holds r { c with name := Result.nameOr res c.name }))

variable {current : Project}

lemma target_eq (h : target v = some (current, revision)) :
    activeEntry v = some current ∧ v.base = some (current.id, revision) := by
  unfold target at h
  split at h
  next p b hp hb =>
    split at h
    next hid =>
      cases h
      exact ⟨hp, by rw [hb, ← hid]⟩
    next => cases h
  next => cases h

/-- Nothing is to be saved: the record the list mirrors holds the content already. -/
lemma holds_of_unchanged (h : Mirrors r current) (hsame : isUnchanged current c = true) :
    Holds r c := by
  simp only [isUnchanged, Bool.and_eq_true, decide_eq_true_eq] at hsame
  obtain ⟨⟨⟨⟨-, hname⟩, hshow⟩, hvalidation⟩, hdoc⟩ := hsame
  refine ⟨.inr (h.name.symm.trans hname), .inr (.inl ?_), hshow ▸ h.showData, ?_⟩
  · rw [← h.doc]
    exact hdoc
  · rw [← h.validation, hvalidation]

lemma savedAs {name : String} {res : Result} (hsent : Sent r { c with name })
    (hopened : Opened quiet id r w) (heditor : res.editor = none)
    (hname : r.name = wireName (Result.nameOr res c.name) ∨ r.name = Result.nameOr res c.name) :
    Saved held quiet c res w :=
  ⟨heditor, .inr ⟨id, r, hopened, fun hconforms => hsent.holds hconforms hname rfl rfl rfl⟩⟩

lemma saveOver_spec :
    Triple (fun w => target w.vault = some (current, revision) ∧ Before held quiet w)
      (saveOver editor current revision) (Saved held quiet editor)
      (fun _ => Failed held False) := by
  refine Triple.bind (clock_spec fun w hw => ⟨hw.1, hw.2.frame (fun _ _ h => h) rfl rfl rfl⟩)
    fun now => Triple.ite (fun hsame w hw => ?_) fun _ => ?_
  · obtain ⟨hentry, hbase⟩ := target_eq hw.1
    obtain ⟨r, hheld, hr, hkept⟩ := hw.2.base _ hbase
    refine ⟨rfl, .inl ⟨hw.2, rfl, fun hq => ⟨current.id, r, hheld, ?_⟩⟩⟩
    obtain ⟨-, p, hp, hmirrors⟩ := hkept hq
    rw [activeEntry, hw.2.active, hbase] at hentry
    cases hentry.symm.trans hp
    exact holds_of_unchanged hmirrors hsame
  have hfalse : ∀ e : VaultError, ∀ w, Failed held (quiet ∧ False) w → Failed held False w :=
    fun _ _ h => h.imp False.elim
  refine Triple.bind (save_spec.attempt.pre (fun _ h => h.2))
    fun saved => ?_
  cases saved with
  | ok res =>
    refine Triple.of_imp fun _ => Triple.of_imp fun hrecord => ?_
    have hsent : Sent res.record editor := hrecord ▸ sent_record (addVersion_content _ _ _ _) _
    refine Triple.bind (stored_spec hsent.showData hsent.validation) fun p => ?_
    refine Triple.of_imp fun hp => (activate_spec hp.1 hp.2).bind fun _ w hw => ?_
    exact savedAs hsent hw rfl (.inl hsent.name)
  | error e =>
    cases e with
    | conflict =>
      refine Triple.bind ((createFrom_spec False).weaken (fun _ h => ⟨h.1, False.elim⟩)
        (fun _ _ h => h) hfalse) fun copy w hw => ?_
      obtain ⟨id, r, hopened, hname, hsent⟩ := hw
      refine savedAs hsent hopened rfl (.inr ?_)
      have hne : copy.content.name ≠ "" := by
        rw [hname, hsent.name]
        exact wireName_ne _
      exact hname.symm.trans (if_neg hne).symm
    | notFound i =>
      refine Triple.bind (setVault_spec (Q := fun _ => Failed held quiet) fun w hw =>
        failed_drop hw.1 (hw.2 i rfl) rfl rfl rfl) fun _ => ?_
      refine Triple.bind ((createFrom_spec False).weaken (fun _ h => ⟨h, False.elim⟩)
        (fun _ _ h => h) hfalse) fun p w hw => ?_
      obtain ⟨id, r, hopened, -, hsent⟩ := hw
      exact savedAs hsent hopened rfl (.inl (hsent.name.trans (wireName_nameOr _)))
    | _ => exact fun w hw => hw.1.imp False.elim

lemma reconnect_spec :
    Triple (Before held quiet) reconnect (fun _ => Before held quiet) (fun _ => Failed held quiet) := by
  refine vault_bind fun v => Triple.ite (fun _ w hw => hw.2) fun _ => ?_
  refine Triple.bind (connect_spec.pre (fun _ h => h.2))
    fun projects => ?_
  exact setVault_spec fun w hw => ⟨hw.1.told, hw.1.alone, rfl, fun b hb => nomatch hb⟩

lemma vaultSave_spec (editor : Content) : Triple (Before held quiet) (ProjectVault.save editor)
    (Saved held quiet editor) (fun _ => Failed held False) := by
  refine Triple.bind (reconnect_spec.raises fun _ _ h => h.imp False.elim) fun _ => vault_bind fun v => ?_
  cases htarget : target v with
  | none =>
    refine Triple.bind ((createFrom_spec False).weaken
      (fun _ h => ⟨h.2.failed, False.elim⟩) (fun _ _ h => h) fun _ _ h => h.imp False.elim)
      fun p w hw => ?_
    obtain ⟨id, r, hopened, -, hsent⟩ := hw
    exact savedAs hsent hopened rfl (.inl (hsent.name.trans (wireName_nameOr _)))
  | some t =>
    exact saveOver_spec.pre (fun w h => ⟨by rw [h.1, htarget], h.2⟩)

end Taramandal.Studio.Operations

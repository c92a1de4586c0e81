import Taramandal.Studio.Projects

/-! # What an operation of the vault comes to

Before an operation, `base` is what the backend last said of the open project; nobody else
being there, the backend still has that, and so has the list. An operation that fails was
told nothing; one that succeeds was told nothing either, or ends with the project it was last
told of as the open one. -/
namespace Taramandal.Studio.VaultRules

open Lib.Check Lib.Dict Lib.Hoare Lib.ScriptValues Studio.VaultClient Studio.ProjectVault

variable {α : Type} {serve : Backend → Except VaultError (α × Backend)}
  {event : α → Bool → List Event}

/-! ## Requests -/

lemma outcome_request (w : World) : outcome (request serve event) w =
    match w.slot.fault, serve w.reached with
    | none, .ok (a, b) => (.ok a, w.served b (event a true))
    | none, .error e => (.error e, w.served w.reached [])
    | some fault, .ok (a, b) => (.error fault.trouble.error,
        if fault.applied then w.served b (event a false) else w.served w.reached [])
    | some fault, .error _ => (.error fault.trouble.error, w.served w.reached []) := by
  unfold request
  rw [outcome_bind]
  change outcome (match w.slot.fault, serve w.reached with
    | none, .ok (a, b) => _
    | none, .error e => _
    | some fault, .ok (a, b) => _
    | some fault, .error _ => _) w = _
  cases w.slot.fault with
  | none =>
    cases serve w.reached with
    | ok r => rfl
    | error e => rfl
  | some fault =>
    cases serve w.reached with
    | ok r => rfl
    | error e => rfl

variable {E : VaultError → World → Prop} {P : World → Prop}

/-- The rule of requests: it is answered, turned down, lost on its way or on the way back. -/
lemma triple_request {Q : α → World → Prop}
    (answered : ∀ w a b, P w → serve w.reached = .ok (a, b) → Q a (w.served b (event a true)))
    (refused : ∀ w e, P w → serve w.reached = .error e → E e (w.served w.reached []))
    (lost : ∀ w t, P w → E (Trouble.error t) (w.served w.reached []))
    (applied : ∀ w t a b, P w → serve w.reached = .ok (a, b) →
      E (Trouble.error t) (w.served b (event a false))) :
    Triple P (request serve event) Q E := by
  intro w hw
  rw [outcome_request]
  cases hfault : w.slot.fault with
  | none =>
    cases hserve : serve w.reached with
    | ok r => exact answered w r.1 r.2 hw hserve
    | error e => exact refused w e hw hserve
  | some fault =>
    cases hserve : serve w.reached with
    | ok r =>
      by_cases happlied : fault.applied
      · simp only [happlied, if_true]
        exact applied w fault.trouble r.1 r.2 hw hserve
      · simp only [happlied]
        exact lost w fault.trouble hw
    | error e => exact lost w fault.trouble hw

lemma latest_snoc (log : List Event) (e : Event) :
    latest (log ++ [e]) = e.told.or (latest log) := by
  rw [latest, latest, List.reverse_append, List.reverse_singleton, List.singleton_append,
    List.findSome?_cons]
  cases e.told <;> rfl

def Alone (w : World) : Prop := ∀ slot ∈ w.slots, slot.others = []

lemma Alone.reached {w : World} (h : Alone w) : w.reached = w.backend := by
  unfold World.reached World.slot
  cases hs : w.slots with
  | nil => rfl
  | cons slot rest =>
    have hnone : slot.others = [] := h slot (hs ▸ List.mem_cons_self)
    rw [List.headD_cons, hnone]
    rfl

lemma Alone.served {w : World} (h : Alone w) (b : Backend) (events : List Event) :
    Alone (w.served b events) :=
  fun slot hslot => h slot (List.mem_of_mem_tail hslot)

/-- The show is stored: as it is, or with the version it lacks. -/
def HoldsShow (kept v : Json) : Prop := kept = v ∨ kept = (conformingShow v).1 ∧ kept ≠ .null

/-- A list entry says of a project what its record does. -/
structure Mirrors (r : Record) (p : Project) : Prop where
  revision : p.revision = r.revision
  name : p.content.name = r.name
  doc : p.content.doc.map Val.json = r.document
  showData : HoldsShow r.showData p.content.choreoData.json
  validation : p.content.validation.json = r.validation

lemma map_parse (fresh : ℕ) (d : Doc Json) : (d.map (Val.parse fresh)).map Val.json = d := rfl

lemma mirrors_fromWire (fresh : ℕ) (id : String) (r : Record) :
    Mirrors r (fromWire fresh id r true) where
  revision := rfl
  name := rfl
  doc := map_parse fresh r.document
  showData := .inl rfl
  validation := rfl

variable {id : String} {v : Vault}

lemma id_of_entry {p : Project} (h : entry v id = some p) : p.id = id := by
  simpa using List.find?_some h

lemma find_replace (ps : List Project) (p : Project) :
    (ps.map fun x => if x.id = p.id then p else x).find? (fun x => x.id = p.id) =
      (ps.find? fun x => x.id = p.id).map fun _ => p := by
  induction ps with
  | nil => rfl
  | cons x ps ih =>
    by_cases hx : x.id = p.id
    · simp [hx]
    · simp [hx, ih]

lemma entry_put (v : Vault) (p : Project) : entry { v with projects := put v p } p.id = some p := by
  by_cases hsome : (entry v p.id).isSome
  · obtain ⟨q, hq⟩ := Option.isSome_iff_exists.mp hsome
    have hfind : v.projects.find? (fun x => decide (x.id = p.id)) = some q := hq
    rw [entry, put, if_pos hsome, find_replace, hfind]
    rfl
  · have hnone : v.projects.find? (fun x => decide (x.id = p.id)) = none :=
      Option.not_isSome_iff_eq_none.mp hsome
    rw [entry, put, if_neg hsome, List.find?_append, hnone]
    simp

variable {v' : Vault} {events : List Event}

lemma entry_congr (h : v'.projects = v.projects) (id : String) : entry v' id = entry v id := by
  rw [entry, entry, h]

lemma entry_drop {other : String}
    (h : v'.projects = v.projects.filter fun p => p.id ≠ id) (hne : other ≠ id) :
    entry v' other = entry v other := by
  rw [entry, entry, h, List.find?_filter]
  congr 1
  funext p
  by_cases hp : p.id = other
  · simp [hp, hne]
  · simp [hp]

/-! ## Before, between and after -/

/-- The backend and the list have the project as it was last told of. -/
def Kept (w : World) (id : String) (r : Record) : Prop :=
  find w.backend id = some r ∧ ∃ p, entry w.vault id = some p ∧ Mirrors r p

/-- What is left of that after a failure: the list has it, or the backend lost it. -/
def Left (w : World) (id : String) (r : Record) : Prop :=
  (∃ p, entry w.vault id = some p ∧ Mirrors r p) ∨ find w.backend id = none

variable {held : Option (String × Record)} {quiet : Prop} {w : World}

/-- An operation that was told nothing: `base` is what was held before, and `K` holds of it
where nobody else is there. -/
structure Untold (K : World → String → Record → Prop) (held : Option (String × Record))
    (quiet : Prop) (w : World) : Prop where
  told : latest w.log = none
  alone : quiet → Alone w
  active : w.vault.activeId = w.vault.base.map Prod.fst
  base : ∀ b, w.vault.base = some b →
    ∃ r, held = some (b.1, r) ∧ r.revision = b.2 ∧ (quiet → K w b.1 r)

abbrev Before := Untold Kept

abbrev Failed := Untold Left

/-- The operation was told of a project. -/
structure Told (quiet : Prop) (id : String) (r : Record) (w : World) : Prop where
  told : latest w.log = some (id, r)
  alone : quiet → Alone w
  stored : quiet → find w.backend id = some r

/-- The project it was told of last is the open one. -/
structure Opened (quiet : Prop) (id : String) (r : Record) (w : World) : Prop where
  told : latest w.log = some (id, r)
  active : w.vault.activeId = some id
  base : w.vault.base = some (id, r.revision)
  kept : quiet → Kept w id r

variable {K : World → String → Record → Prop}

/-- Where nothing is asked of the backend and the vault's state, nothing changes for them. -/
lemma Untold.frame (h : Untold K held quiet w) {w' : World} (hK : ∀ id r, K w id r → K w' id r)
    (hlog : w'.log = w.log) (hslots : w'.slots = w.slots) (hvault : w'.vault = w.vault) :
    Untold K held quiet w' where
  told := by rw [hlog]; exact h.told
  alone := fun hq => by rw [Alone, hslots]; exact h.alone hq
  active := by rw [hvault]; exact h.active
  base := by
    intro b hb
    rw [hvault] at hb
    obtain ⟨r, hheld, hr, hkept⟩ := h.base b hb
    exact ⟨r, hheld, hr, fun hq => hK b.1 r (hkept hq)⟩

lemma Untold.failed (h : Before held quiet w) : Failed held quiet w :=
  { h with
    base := fun b hb =>
      have ⟨r, hheld, hr, hkept⟩ := h.base b hb
      ⟨r, hheld, hr, fun hq => .inl (hkept hq).2⟩ }

lemma Untold.imp {quiet' : Prop} (h : Untold K held quiet w) (hq : quiet' → quiet) :
    Untold K held quiet' w :=
  { h with
    alone := fun hq' => h.alone (hq hq')
    base := fun b hb =>
      have ⟨r, hheld, hr, hk⟩ := h.base b hb
      ⟨r, hheld, hr, fun hq' => hk (hq hq')⟩ }

variable {b : Backend}

/-- A request that told nothing is over; what `K` says has to be looked at once more. -/
lemma Untold.served {L : World → String → Record → Prop}
    (h : Untold K held quiet w) (hevents : latest (w.log ++ events) = none)
    (hL : ∀ base r, w.vault.base = some base → r.revision = base.2 → quiet → Alone w →
      K w base.1 r → L (w.served b events) base.1 r) :
    Untold L held quiet (w.served b events) where
  told := hevents
  alone := fun hq => (h.alone hq).served b events
  active := h.active
  base := fun base hbase =>
    have ⟨r, hheld, hr, hkept⟩ := h.base base hbase
    ⟨r, hheld, hr, fun hq => hL base r hbase hr hq (h.alone hq) (hkept hq)⟩

lemma Untold.refused (h : Untold K held quiet w)
    (hK : ∀ id r, Alone w → K w id r → K (w.served w.reached []) id r) :
    Untold K held quiet (w.served w.reached []) :=
  h.served (by rw [List.append_nil]; exact h.told) fun base r _ _ _ halone hk =>
    hK base.1 r halone hk

lemma kept_refused (w : World) (id : String) (r : Record) (halone : Alone w) (h : Kept w id r) :
    Kept (w.served w.reached []) id r :=
  ⟨by rw [← h.1, ← halone.reached]; rfl, h.2⟩

lemma left_refused (w : World) (id : String) (r : Record) (halone : Alone w) (h : Left w id r) :
    Left (w.served w.reached []) id r :=
  h.imp_right fun hnone => by rw [← hnone, ← halone.reached]; rfl

/-! ## The rules of the client -/

lemma draw_spec {Q : ℕ → World → Prop} (n : ℕ)
    (h : ∀ w, P w → Q w.fresh { w with fresh := w.fresh + n }) : Triple P (draw n) Q E :=
  fun w hw => h w hw

lemma clock_spec (h : ∀ w, P w → P { w with instants := w.instants.tail }) :
    Triple P clock (fun _ => P) E :=
  fun w hw => h w hw

lemma list_spec (hK : ∀ w id r, Alone w → K w id r → K (w.served w.reached []) id r)
    (hfresh : ∀ w id r n, K w id r → K { w with fresh := n } id r) :
    Triple (Untold K held quiet) Client.list
      (fun ps w => Untold K held quiet w ∧ ∀ id r, find w.backend id = some r → ∃ p ∈ ps, p.id = id)
      (fun _ => Untold K held quiet) := by
  refine Triple.bind (Q := fun b w => Untold K held quiet w ∧ w.backend = b) ?_ fun b => ?_
  · refine triple_request (fun w a b hw hserve => ?_) (fun w e hw hserve => nomatch hserve)
      (fun w t hw => hw.refused (hK w)) fun w t a b hw hserve => ?_
    · cases hserve
      exact ⟨hw.refused (hK w), rfl⟩
    · cases hserve
      exact hw.refused (hK w)
  · refine Triple.bind (draw_spec b.length (Q := fun _ w => Untold K held quiet w ∧ w.backend = b)
      fun w hw => ⟨hw.1.frame (fun id r => hfresh w id r _) rfl rfl rfl, hw.2⟩) fun fresh => ?_
    refine fun w hw => ⟨hw.1, fun id r hfind => ?_⟩
    rw [hw.2] at hfind
    obtain ⟨i, hi⟩ := List.mem_iff_getElem?.mp (mem_of_find hfind)
    exact ⟨fromWire (fresh + i) id r false,
      List.mem_map.mpr ⟨((id, r), i), List.mem_zipIdx_iff_getElem?.mpr hi, rfl⟩, rfl⟩

lemma Untold.after (h : Before held quiet w)
    (hevents : latest (w.log ++ events) = none) (b : Backend) :
    Failed held quiet (w.served b events) :=
  Untold.served h hevents fun _ _ _ _ _ _ hk => .inl hk.2

lemma Untold.unheard (h : Before held quiet w) (b : Backend) : Failed held quiet (w.served b []) :=
  h.after (by rw [List.append_nil]; exact h.told) b

variable {r : Record}

lemma get_ok (h : Backend.get b id = .ok r) : find b id = some r := by
  obtain ⟨-, -, h⟩ := bind_eq_ok.mp h
  cases hfind : find b id with
  | none => rw [hfind] at h; cases h
  | some r' => rw [hfind] at h; cases h; rfl

variable {i : String}

lemma get_notFound (h : Backend.get b id = .error (.notFound i)) : find b id = none := by
  rcases bind_eq_error.mp h with h | ⟨-, -, h⟩
  · unfold Backend.checkId at h
    cases hdir : ProjectStore.dir id with
    | ok u => rw [hdir] at h; cases h
    | error e => rw [hdir] at h; cases h
  · cases hfind : find b id with
    | none => rfl
    | some r => rw [hfind] at h; cases h

variable {b' : Backend} {sent : Wire}

lemma create_ok (h : Backend.create b sent id = .ok (r, b')) :
    r = Backend.record sent 1 ∧ find b id = none ∧ b' = assign b id r := by
  unfold Backend.create at h
  split at h
  next => cases h
  next =>
    obtain ⟨-, -, h⟩ := bind_eq_ok.mp h
    split at h
    next => cases h
    next hhas =>
      cases h
      exact ⟨rfl, by simpa [has] using hhas, rfl⟩

variable {base : ℕ}

lemma save_ok (h : Backend.save b id sent base = .ok (r, b')) :
    r = Backend.record sent (base + 1) ∧ b' = assign b id r ∧
      ∃ old, find b id = some old ∧ old.revision = base := by
  unfold Backend.save at h
  split at h
  next => cases h
  next =>
    obtain ⟨old, hget, h⟩ := bind_eq_ok.mp h
    split at h
    next => cases h
    next hrev =>
      cases h
      exact ⟨rfl, rfl, old, get_ok hget, not_not.mp hrev⟩

lemma save_notFound (h : Backend.save b id sent base = .error (.notFound i)) :
    find b id = none := by
  unfold Backend.save at h
  split at h
  next => cases h
  next =>
    rcases bind_eq_error.mp h with h | ⟨old, -, h⟩
    · exact get_notFound h
    · split at h
      next => cases h
      next => cases h

lemma get_spec : Triple (Failed held quiet) (Client.get id)
    (fun p w => p.id = id ∧ ∃ r, Mirrors r p ∧ Told quiet id r w)
    (fun e w => Failed held quiet w ∧ ∀ i, e = .notFound i → quiet → find w.backend id = none) := by
  refine Triple.bind (Q := fun r w => Told quiet id r w) ?_ fun r => ?_
  · refine triple_request (fun w r b hw hserve => ?_) (fun w e hw hserve => ?_)
      (fun w t hw => ⟨hw.refused (left_refused w), ?_⟩) fun w t r b hw hserve => ?_
    · obtain ⟨r', hget, heq⟩ := map_eq_ok.mp hserve
      cases heq
      refine ⟨latest_snoc _ _, fun hq => (hw.alone hq).served _ _, fun _ => get_ok hget⟩
    · refine ⟨hw.refused (left_refused w), fun i hi _ => ?_⟩
      subst hi
      cases hget : Backend.get w.reached id with
      | ok r => rw [hget] at hserve; cases hserve
      | error e =>
        rw [hget] at hserve
        cases hserve
        exact get_notFound hget
    · cases t <;> exact fun i hi => nomatch hi
    · obtain ⟨r', -, heq⟩ := map_eq_ok.mp hserve
      cases heq
      exact ⟨hw.refused (left_refused w), by cases t <;> exact fun i hi => nomatch hi⟩
  · refine Triple.bind (draw_spec 1 (Q := fun _ => Told quiet id r) fun w hw =>
      ⟨hw.told, hw.alone, hw.stored⟩) fun fresh => ?_
    exact fun w hw => ⟨rfl, r, mirrors_fromWire fresh id r, hw⟩

lemma notFound_ne (t : Trouble) (i : String) : t.error ≠ .notFound i := by
  cases t <;> exact fun h => nomatch h

/-- A create that fails may have made a project all the same; where the list is whole (`keep`),
it stays so. -/
lemma create_spec (keep : Prop) {draft : Draft} {id : Option String} :
    Triple (fun w => Failed held quiet w ∧ (keep → Before held quiet w)) (Client.create draft id)
      (fun res w => res.record = Backend.record (toWire draft) 1 ∧ Told quiet res.id res.record w)
      (fun _ => Failed held (quiet ∧ keep)) := by
  have hfail : ∀ w events b, Failed held quiet w ∧ (keep → Before held quiet w) →
      latest (w.log ++ events) = none → Failed held (quiet ∧ keep) (w.served b events) := by
    intro w events b hw hevents
    refine ⟨hevents, fun hq => (hw.1.alone hq.1).served b events, hw.1.active, fun base hb => ?_⟩
    obtain ⟨r, hheld, hr, -⟩ := hw.1.base base hb
    refine ⟨r, hheld, hr, fun hq => ?_⟩
    obtain ⟨r', hheld', -, hkept⟩ := (hw.2 hq.2).base base hb
    rw [hheld] at hheld'
    cases hheld'
    exact .inl (hkept hq.1).2
  have hsame : ∀ w b, Failed held quiet w ∧ (keep → Before held quiet w) →
      Failed held (quiet ∧ keep) (w.served b []) := fun w b hw =>
    hfail w [] b hw (by rw [List.append_nil]; exact hw.1.told)
  refine Triple.get_bind fun w₀ => Triple.bind (Q := fun r w =>
    r = Backend.record (toWire draft) 1 ∧ Told quiet (id.getD w₀.newId) r w) ?_ fun r w hw => hw
  refine triple_request (fun w r b hw hserve => ?_) (fun w e hw _ => hsame w _ hw.2)
    (fun w t hw => hsame w _ hw.2) fun w t r b hw hserve => ?_
  · obtain ⟨hr, -, rfl⟩ := create_ok hserve
    exact ⟨hr, latest_snoc _ _, fun hq => (hw.2.1.alone hq).served _ _,
      fun _ => find_assign_self _ _ _⟩
  · refine hfail w _ b hw.2 ?_
    rw [latest_snoc, hw.2.1.told]
    rfl

lemma save_spec {draft : Draft} : Triple (Before held quiet) (Client.save id draft base)
    (fun res w => res.id = id ∧ res.record = Backend.record (toWire draft) (base + 1) ∧
      Told quiet res.id res.record w)
    (fun e w => Failed held quiet w ∧ ∀ i, e = .notFound i → quiet → find w.backend id = none) := by
  refine Triple.bind (Q := fun r w => r = Backend.record (toWire draft) (base + 1) ∧
    Told quiet id r w) ?_ fun r w hw => ⟨rfl, hw⟩
  refine triple_request (fun w r b hw hserve => ?_) (fun w e hw hserve => ⟨hw.unheard _, ?_⟩)
    (fun w t hw => ⟨hw.unheard _, fun i hi => absurd hi (notFound_ne t i)⟩)
    fun w t r b hw hserve => ⟨hw.after ?_ b, fun i hi => absurd hi (notFound_ne t i)⟩
  · obtain ⟨hr, rfl, -⟩ := save_ok hserve
    exact ⟨hr, latest_snoc _ _, fun hq => (hw.alone hq).served _ _,
      fun _ => find_assign_self _ _ _⟩
  · intro i hi _
    rw [hi] at hserve
    exact save_notFound hserve
  · rw [latest_snoc, hw.told]
    rfl

/-- The backend does not have the project any more, and nothing happened to another one. -/
structure Gone (held : Option (String × Record)) (quiet : Prop) (id : String) (w : World) :
    Prop where
  failed : Failed held quiet w
  other : w.vault.activeId ≠ some id → Before held quiet w
  gone : quiet → find w.backend id = none

lemma delete_ok {u : Unit} (h : Backend.delete b id = .ok (u, b')) : b' = remove b id := by
  obtain ⟨r, -, heq⟩ := map_eq_ok.mp h
  cases heq
  rfl

lemma delete_notFound (h : Backend.delete b id = .error (.notFound i)) : find b id = none := by
  unfold Backend.delete at h
  cases hget : Backend.get b id with
  | ok r => rw [hget] at h; cases h
  | error e =>
    rw [hget] at h
    cases h
    exact get_notFound hget

lemma remove_spec : Triple (Before held quiet) (Client.remove id) (fun _ => Gone held quiet id)
    (fun e w => Failed held quiet w ∧ ∀ i, e = .notFound i → Gone held quiet id w) := by
  refine triple_request (fun w u b hw hserve => ?_) (fun w e hw hserve => ⟨hw.unheard _, ?_⟩)
    (fun w t hw => ⟨hw.unheard _, fun i hi => absurd hi (notFound_ne t i)⟩)
    fun w t r b hw hserve => ⟨hw.after ?_ b, fun i hi => absurd hi (notFound_ne t i)⟩
  · obtain rfl := delete_ok hserve
    have hnone : latest (w.log ++ [Event.deleted id true]) = none := by
      rw [latest_snoc, hw.told]
      rfl
    refine ⟨hw.after hnone _, fun hother => ?_, fun _ => find_remove_self _ _⟩
    refine hw.served hnone fun base r hbase _ _ halone hkept => ⟨?_, hkept.2⟩
    have hne : id ≠ base.1 := by
      rintro rfl
      exact hother (by rw [World.served, hw.active, hbase]; rfl)
    have hfind := find_remove_ne w.reached hne
    rw [halone.reached, hkept.1] at hfind
    rw [World.served, halone.reached, hfind]
  · intro i hi
    rw [hi] at hserve
    exact ⟨hw.unheard _, fun _ => hw.refused (kept_refused w),
      fun _ => delete_notFound hserve⟩
  · rw [latest_snoc, hw.told]
    rfl

lemma stored_spec {res : Response} {sent : Content}
    (hshow : res.record.showData = (conformingShow sent.choreoData.json).1)
    (hvalidation : res.record.validation = sent.validation.json) :
    Triple (Told quiet res.id res.record) (stored res sent)
      (fun p w => (p.id = res.id ∧ Mirrors res.record p) ∧ Told quiet res.id res.record w) E := by
  intro w hw
  refine ⟨⟨rfl, rfl, rfl, map_parse w.fresh _, ?_, hvalidation.symm⟩, hw.told, hw.alone, hw.stored⟩
  by_cases hnone : res.record.showData = .null
  · have hempty : (fromWire w.fresh res.id res.record false).hasShow = false :=
      decide_eq_false (not_not_intro hnone)
    exact .inl (hnone.trans (by simp [hempty, Val.null]))
  · have hfull : (fromWire w.fresh res.id res.record false).hasShow = true := decide_eq_true hnone
    refine .inr ⟨?_, hnone⟩
    simp only [hfull, if_true]
    exact hshow

/-- An operation comes to what its action does, or it fails and leaves that in the state. -/
lemma guarded_spec {op : Op Result} {Q : Result → World → Prop} (h : Triple P op Q E) (hw : P w) :
    (∃ res w', outcome op w = (.ok res, w') ∧ guarded op w = (res, w') ∧ Q res w') ∨
    ∃ e w', outcome op w = (.error e, w') ∧
      guarded op w = (nothing, { w' with vault := failedWith e w'.vault }) ∧ E e w' := by
  have hq := h w hw
  unfold guarded
  generalize outcome op w = r at hq ⊢
  obtain ⟨v, w'⟩ := r
  cases v with
  | ok res => exact .inl ⟨res, w', rfl, rfl, hq⟩
  | error e => exact .inr ⟨e, w', rfl, rfl, hq⟩

end Taramandal.Studio.VaultRules

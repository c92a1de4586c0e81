import Taramandal.Gcs.RolesFresh
import Taramandal.Lib.Check

/-! # Edits of the operators file (`OperatorStore.add`, `remove`)

An edit changes the records of the store, writes them beside the file and renames. The
file is never half an edit; the records are one that failed, until the file's stamp
changes. -/
namespace Taramandal.Gcs.Auth

open Lib.Check Lib.Dict

/-! ## The store and its file -/

/-- The temporary file beside the operators file. -/
inductive Tmp where
  | absent
  | unfinished
  | whole (operators : List Record)

structure Editor where
  store : OperatorStore := {}
  disk : Disk
  tmp : Tmp := .absent

/-- Where `_write` may raise. -/
inductive WritePoint where
  | mkdir | openTmp | dump | flush | fsync | close | replace

/-- `sorted(self._records.values(), key=id)`. -/
def OperatorStore.sorted (store : OperatorStore) : List Record :=
  (store.records.map Prod.snd).insertionSort fun r r' => r.id ≤ r'.id

/-- `_write`, which raises at a point or leaves a file with that stamp. -/
def Editor.write (m : Editor) (stamp : Stamp) : Option WritePoint → Editor × Except Raised Unit
  | some .mkdir | some .openTmp => (m, .error .osError)
  | some .dump | some .flush | some .fsync | some .close =>
    ({ m with tmp := .unfinished }, .error .osError)
  | some .replace => ({ m with tmp := .whole m.store.sorted }, .error .osError)
  | none =>
    ({ store := { m.store with stamp := none }
       disk := some { stamp := stamp, operators := some m.store.sorted }
       tmp := .absent }, .ok ())

/-- `_OPERATOR_ID`; a line may end behind it. -/
def operatorIdOk (id : String) : Bool :=
  let chars := if id.toList.getLast? = some '\n' then id.toList.dropLast else id.toList
  match chars with
  | [] => false
  | c :: cs =>
    c.isAlphanum && cs.length ≤ 63 && cs.all fun c => c.isAlphanum || "_.-".toList.contains c

/-- `repr` of an operator id. -/
def quoted (id : String) : String :=
  "'" ++ String.ofList (id.toList.flatMap fun c => if c = '\n' then ['\\', 'n'] else [c]) ++ "'"

def minPassphraseLen : ℕ := 12

section Edits

variable (scrypt : String → String → Scrypt → String)

/-- The account that `add` makes, with a salt that was drawn. -/
def newRecord (id : String) (role : Role) (passphrase salt : String) : Record where
  id := id
  role := role.name
  salt := salt
  hash := scrypt passphrase salt {}

def Editor.add (m : Editor) (id : String) (role : Role) (passphrase : String) (replace : Bool)
    (salt : String) (stamp : Stamp) (fails : Option WritePoint) : Editor × Except Raised Operator :=
  if !operatorIdOk id then
    (m, .error (.valueError ("operator id must be 1-64 letters, digits, '.', '_' or '-', " ++
      "starting with a letter or digit")))
  else if passphrase.length < minPassphraseLen then
    (m, .error (.valueError ("passphrase must be at least " ++ toString minPassphraseLen ++
      " characters")))
  else
    match m.store.refresh m.disk m.disk with
    | .error e => (m, .error e)
    | .ok store =>
      if has store.records id && !replace then
        ({ m with store := store },
          .error (.valueError ("operator " ++ quoted id ++ " already exists")))
      else
        let records := assign store.records id (newRecord scrypt id role passphrase salt)
        match { m with store := { store with records := records } }.write stamp fails with
        | (m, .error e) => (m, .error e)
        | (m, .ok ()) => (m, .ok ⟨id, role⟩)

def Editor.remove (m : Editor) (id : String) (stamp : Stamp) (fails : Option WritePoint) :
    Editor × Except Raised Bool :=
  match m.store.refresh m.disk m.disk with
  | .error e => (m, .error e)
  | .ok store =>
    if has store.records id then
      let records := Lib.Dict.remove store.records id
      match { m with store := { store with records := records } }.write stamp fails with
      | (m, .error e) => (m, .error e)
      | (m, .ok ()) => (m, .ok true)
    else ({ m with store := store }, .ok false)

inductive Query where
  | get (id : String)
  | all
  | verify (id passphrase : String)

def OperatorStore.answer (store : OperatorStore) : Query → Except Raised (List Operator)
  | .get id => (store.lookup id).map Option.toList
  | .all => store.sorted.mapM OperatorStore.operatorOf
  | .verify id passphrase => (store.check scrypt id passphrase).map Option.toList

/-- `get`, `all` and `verify`, with no edit of the file during the call. -/
def Editor.ask (m : Editor) (q : Query) : Editor × Except Raised (List Operator) :=
  let (store, answer) := m.store.refreshed m.disk m.disk fun store => store.answer scrypt q
  ({ m with store := store }, answer)

def Editor.after (m : Editor) (qs : List Query) : Editor :=
  qs.foldl (fun m q => (m.ask scrypt q).1) m

/-- Every later query answers as a store does that is new on the file. -/
def Editor.AnswersAsFile (m : Editor) : Prop :=
  ∀ qs q, ((m.after scrypt qs).ask scrypt q).2 = (({ disk := m.disk } : Editor).ask scrypt q).2

inductive Edit where
  | add (id : String) (role : Role) (passphrase : String) (replace : Bool) (salt : String)
  | remove (id : String)

def Edit.id : Edit → String
  | .add id .. => id
  | .remove id => id

def Edit.account : Edit → Option Record
  | .add id role passphrase _ salt => some (newRecord scrypt id role passphrase salt)
  | .remove _ => none

/-- `add` or `remove`; what they return apart. -/
def Editor.edit (m : Editor) (e : Edit) (stamp : Stamp) (fails : Option WritePoint) :
    Editor × Except Raised Unit :=
  match e with
  | .add id role passphrase replace salt =>
    let (m, result) := m.add scrypt id role passphrase replace salt stamp fails
    (m, result.map fun _ => ())
  | .remove id =>
    let (m, result) := m.remove id stamp fails
    (m, result.map fun _ => ())

/-- A query, or an edit whose write does not raise. -/
inductive Call where
  | ask (q : Query)
  | edit (e : Edit) (stamp : Stamp)

def Editor.call (m : Editor) : Call → Editor
  | .ask q => (m.ask scrypt q).1
  | .edit e stamp => (m.edit scrypt e stamp none).1

/-- A call that raised left the file as it was, one that returned left it with just that
account edited; and later answers are the file's. -/
def Atomic (m : Editor) (e : Edit) (result : Editor × Except Raised Unit) : Prop :=
  (match result.2 with
    | .error _ => result.1.disk = m.disk
    | .ok () => ∀ id, find (listed result.1.disk) id =
        if id = e.id then e.account scrypt else find (listed m.disk) id) ∧
    result.1.AnswersAsFile scrypt

def Edit.Admitted (accounts : Dict String Record) : Edit → Prop
  | .add id _ passphrase replace _ =>
    operatorIdOk id ∧ minPassphraseLen ≤ passphrase.length ∧ (has accounts id → replace)
  | .remove id => has accounts id

/-- A replacement that leaves an account its role and the passphrases that open it. -/
def Edit.Unseen (accounts : Dict String Record) : Edit → Prop
  | .add id role passphrase _ salt => ∃ r, find accounts id = some r ∧
      parseRole r.role = some role ∧
        ∀ p, scrypt p r.salt r.scrypt = r.hash ↔ scrypt p salt {} = scrypt passphrase salt {}
  | .remove _ => False

/-! ## Stores that hold what the file has -/

lemma refresh_stamp {store store' : OperatorStore} {file : File} {read : Disk}
    (h : store.refresh (some file) read = .ok store') : store'.stamp = some file.stamp := by
  simp only [OperatorStore.refresh] at h
  split at h
  next hstamp =>
    cases h
    exact hstamp
  next =>
    split at h
    next => cases h
    next =>
      obtain ⟨records, -, rfl⟩ := map_eq_ok.mp h
      rfl

lemma refresh_idem {store store' : OperatorStore} {disk : Disk}
    (h : store.refresh disk disk = .ok store') : store'.refresh disk disk = .ok store' := by
  cases disk with
  | none =>
    cases h
    rfl
  | some file => simp [OperatorStore.refresh, refresh_stamp h]

lemma new_refresh {store : OperatorStore} {file : File} :
    ({} : OperatorStore).refresh (some file) (some file) = .ok store ↔
      file.load = .ok store.records ∧ store.stamp = some file.stamp := by
  simp only [OperatorStore.refresh, reduceCtorEq, if_false]
  cases hload : file.load with
  | error e => simp [Except.map]
  | ok records =>
    obtain ⟨records', stamp⟩ := store
    simp [Except.map, eq_comm]

/-- The next call reads the records that a store would read that is new on the file. -/
def Editor.Current (m : Editor) : Prop :=
  m.store.refresh m.disk m.disk = ({} : OperatorStore).refresh m.disk m.disk

namespace Editor.Current

variable {scrypt} {m : Editor}

lemma of_refresh {store : OperatorStore} (h : m.Current)
    (hstore : m.store.refresh m.disk m.disk = .ok store) :
    Editor.Current { m with store := store } := by
  unfold Editor.Current at h ⊢
  rw [refresh_idem hstore, ← h, hstore]

lemma ask (h : m.Current) (q : Query) : (m.ask scrypt q).1.Current := by
  unfold Editor.ask OperatorStore.refreshed
  cases hstore : m.store.refresh m.disk m.disk with
  | error e => exact h
  | ok store => exact h.of_refresh hstore

lemma answers (h : m.Current) (q : Query) :
    (m.ask scrypt q).2 = (({ disk := m.disk } : Editor).ask scrypt q).2 := by
  unfold Editor.ask OperatorStore.refreshed
  rw [h]
  cases ({} : OperatorStore).refresh m.disk m.disk <;> rfl

end Editor.Current

lemma Editor.Current.answersAsFile {m : Editor} (h : m.Current) : m.AnswersAsFile scrypt := by
  intro qs
  induction qs generalizing m with
  | nil => exact h.answers
  | cons q qs ih => exact ih (h.ask q)

namespace WellKeyed

variable {records : Dict String Record}

lemma removed (h : WellKeyed records) (id : String) : WellKeyed (remove records id) where
  nodup := nodup_remove h.nodup id
  keyed e he := h.keyed e (List.mem_filter.mp he).1
  role e he := h.role e (List.mem_filter.mp he).1

lemma values (h : WellKeyed records) :
    (records.map Prod.snd).map (fun r => (r.id, r)) = records := by
  rw [List.map_map]
  refine (List.map_congr_left fun e he => ?_).trans (List.map_id records)
  exact Prod.ext (h.keyed e he) rfl

lemma listed_written {store : OperatorStore} (h : WellKeyed store.records)
    (stamp : Stamp) : (listed (some { stamp := stamp, operators := some store.sorted })).Perm
      store.records := by
  have hperm : store.sorted.Perm (store.records.map Prod.snd) := List.perm_insertionSort _ _
  have hrecords : (store.sorted.map fun r => (r.id, r)).Perm store.records := by
    have hmap := hperm.map fun r => (r.id, r)
    rwa [h.values] at hmap
  have hnodup : ((store.sorted.map fun r => (r.id, r)).map Prod.fst).Nodup :=
    (hrecords.map Prod.fst).nodup_iff.mpr h.nodup
  have hroles : store.sorted.find? (fun r => parseRole r.role = none) = none := by
    rw [List.find?_eq_none]
    intro r hr hnone
    obtain ⟨e, he, rfl⟩ := List.mem_map.mp (hperm.mem_iff.mp hr)
    exact h.role e he (of_decide_eq_true hnone)
  have htable : table store.sorted = store.sorted.map fun r => (r.id, r) := by
    have hall := assignAll_of_nodup (d := []) hnodup
    rwa [assignAll, List.foldl_map] at hall
  have hload : File.load { stamp := stamp, operators := some store.sorted } =
      .ok (table store.sorted) := by
    simp [File.load, hroles]
  rw [listed, hload, htable]
  exact hrecords

lemma find_written {store : OperatorStore} (h : WellKeyed store.records)
    (stamp : Stamp) (id : String) :
    find (listed (some { stamp := stamp, operators := some store.sorted })) id =
      find store.records id :=
  (find_perm (h.listed_written stamp).symm h.nodup id).symm

end WellKeyed

/-! ## What an edit does -/

def Edit.apply (e : Edit) (records : Dict String Record) : Dict String Record :=
  match e with
  | .add id role passphrase _ salt => assign records id (newRecord scrypt id role passphrase salt)
  | .remove id => Lib.Dict.remove records id

section Spec

variable {scrypt} {m : Editor} {store : OperatorStore} {e : Edit}

lemma find_apply (records : Dict String Record) (id : String) :
    find (e.apply scrypt records) id = if id = e.id then e.account scrypt else find records id := by
  by_cases hid : id = e.id
  · subst hid
    rw [if_pos rfl]
    cases e with
    | add => exact find_assign_self ..
    | remove => exact find_remove_self ..
  · rw [if_neg hid]
    cases e with
    | add => exact find_assign_ne _ _ (Ne.symm hid)
    | remove => exact find_remove_ne _ (Ne.symm hid)

lemma parseRole_name (role : Role) : parseRole role.name = some role := by
  cases role <;> decide

lemma WellKeyed.applied {records : Dict String Record} (h : WellKeyed records) :
    WellKeyed (e.apply scrypt records) := by
  cases e with
  | add id role passphrase replace salt =>
    have hrole : parseRole (newRecord scrypt id role passphrase salt).role ≠ none := by
      simp [newRecord, parseRole_name]
    exact h.assigned hrole
  | remove id => exact h.removed id

lemma Editor.Current.records_eq (h : m.Current)
    (hstore : m.store.refresh m.disk m.disk = .ok store) :
    store.records = listed m.disk ∧ WellKeyed store.records := by
  rw [h] at hstore
  cases hdisk : m.disk with
  | none =>
    rw [hdisk] at hstore
    cases hstore
    exact ⟨rfl, ⟨List.nodup_nil, nofun, nofun⟩⟩
  | some file =>
    rw [hdisk] at hstore
    obtain ⟨hload, -⟩ := new_refresh.mp hstore
    exact ⟨by simp [listed, hload, Except.toOption], load_ok hload⟩

lemma edit_admitted (hstore : m.store.refresh m.disk m.disk = .ok store)
    (he : e.Admitted store.records) (stamp : Stamp) (fails : Option WritePoint) :
    m.edit scrypt e stamp fails =
      Editor.write { m with store := { store with records := e.apply scrypt store.records } }
        stamp fails := by
  cases e with
  | add id role passphrase replace salt =>
    obtain ⟨hid, hlength, hreplace⟩ := he
    have hnew : (has store.records id && !replace) = false := by
      cases hhas : has store.records id with
      | false => rfl
      | true => simp [hreplace hhas]
    simp only [Editor.edit, Editor.add, hid, Bool.not_true, Bool.false_eq_true, if_false,
      if_neg (not_lt.mpr hlength), hstore, hnew, Edit.apply]
    rcases Editor.write _ stamp fails with ⟨m', result | result⟩ <;> rfl
  | remove id =>
    have hlisted : has store.records id = true := he
    simp only [Editor.edit, Editor.remove, hstore, hlisted, if_true, Edit.apply]
    rcases Editor.write _ stamp fails with ⟨m', result | result⟩ <;> rfl

/-- One that does not leaves the file, and returns only if there was nothing to remove. -/
lemma edit_refused (h : m.Current)
    (he : ∀ store, m.store.refresh m.disk m.disk = .ok store → ¬ e.Admitted store.records)
    (stamp : Stamp) (fails : Option WritePoint) :
    (m.edit scrypt e stamp fails).1.disk = m.disk ∧ (m.edit scrypt e stamp fails).1.Current ∧
        ((m.edit scrypt e stamp fails).2 = .ok () → e.account scrypt = none ∧
          find (listed m.disk) e.id = none) := by
  cases e with
  | add id role passphrase replace salt =>
    simp only [Editor.edit, Editor.add]
    split
    next => exact ⟨rfl, h, fun h => by cases h⟩
    next hid =>
      split
      next => exact ⟨rfl, h, fun h => by cases h⟩
      next hlength =>
        cases hstore : m.store.refresh m.disk m.disk with
        | error e => exact ⟨rfl, h, fun h => by cases h⟩
        | ok store =>
          have hnot := he store hstore
          have hlisted : (has store.records id && !replace) = true := by
            by_contra hnew
            refine hnot ⟨by simpa using hid, not_lt.mp hlength, fun hhas => ?_⟩
            simpa [hhas] using hnew
          dsimp only
          rw [if_pos hlisted]
          exact ⟨rfl, h.of_refresh hstore, fun h => by cases h⟩
  | remove id =>
    simp only [Editor.edit, Editor.remove]
    cases hstore : m.store.refresh m.disk m.disk with
    | error e => exact ⟨rfl, h, fun h => by cases h⟩
    | ok store =>
      have hnot : ¬ has store.records id := he store hstore
      dsimp only
      rw [if_neg hnot]
      refine ⟨rfl, h.of_refresh hstore, fun _ => ⟨rfl, ?_⟩⟩
      rw [← (h.records_eq hstore).1]
      simpa [has, Edit.id] using hnot

/-- A call whose write does not raise, or that makes none, keeps the store current, and
edits the account in the file or leaves it. -/
lemma edit_spec (h : m.Current) (stamp : Stamp) {fails : Option WritePoint}
    (hwrite : ∀ store, m.store.refresh m.disk m.disk = .ok store → e.Admitted store.records →
      fails = none) :
    (m.edit scrypt e stamp fails).1.Current ∧ Atomic scrypt m e (m.edit scrypt e stamp fails) := by
  by_cases hadmitted : ∃ store, m.store.refresh m.disk m.disk = .ok store ∧ e.Admitted store.records
  · obtain ⟨store, hstore, he⟩ := hadmitted
    obtain ⟨hrecords, hkeyed⟩ := h.records_eq hstore
    rw [edit_admitted hstore he, hwrite store hstore he]
    have hcurrent : Editor.Current (Editor.write { m with
        store := { store with records := e.apply scrypt store.records } } stamp none).1 := rfl
    refine ⟨hcurrent, fun id => ?_, hcurrent.answersAsFile scrypt⟩
    rw [← hrecords, ← find_apply]
    exact hkeyed.applied.find_written stamp id
  · push Not at hadmitted
    obtain ⟨hdisk, hcurrent, hnone⟩ := edit_refused h hadmitted stamp fails
    refine ⟨hcurrent, ?_, hcurrent.answersAsFile scrypt⟩
    generalize m.edit scrypt e stamp fails = result at hdisk hnone
    obtain ⟨m', result | result⟩ := result
    · exact hdisk
    · intro id
      obtain ⟨haccount, hunlisted⟩ := hnone rfl
      dsimp only at hdisk ⊢
      rw [hdisk, haccount]
      split
      next hid => rw [hid, hunlisted]
      next => rfl

/-! ## A write that raises -/

def account (r : Record) : String × Option Role := (r.id, parseRole r.role)

lemma mapM_operatorOf {operators : List Record}
    (h : ∀ r ∈ operators, parseRole r.role ≠ none) : operators.mapM OperatorStore.operatorOf =
      .ok ((operators.map account).filterMap fun a => a.2.map (Operator.mk a.1)) := by
  induction operators with
  | nil => rfl
  | cons r rest ih =>
    obtain ⟨role, hrole⟩ := Option.ne_none_iff_exists'.mp (h r (List.mem_cons_self ..))
    rw [List.mapM_cons, ih fun r' hr' => h r' (List.mem_cons_of_mem _ hr')]
    simp [OperatorStore.operatorOf, account, hrole]
    rfl

lemma sorted_account (store : OperatorStore) : store.sorted.map account =
    (store.records.map fun e => account e.2).insertionSort fun a b => a.1 ≤ b.1 := by
  have hmap := List.map_insertionSort (fun r r' : Record => r.id ≤ r'.id)
    (fun a b : String × Option Role => a.1 ≤ b.1) account (store.records.map Prod.snd)
    fun _ _ _ _ => Iff.rfl
  rw [OperatorStore.sorted, hmap, List.map_map]
  rfl

lemma answer_all (store : OperatorStore) (h : WellKeyed store.records) :
    store.answer scrypt .all = .ok (((store.records.map fun e => account e.2).insertionSort
      fun a b => a.1 ≤ b.1).filterMap fun a => a.2.map (Operator.mk a.1)) := by
  have hroles : ∀ r ∈ store.sorted, parseRole r.role ≠ none := by
    intro r hr
    obtain ⟨e, he, rfl⟩ := List.mem_map.mp ((List.perm_insertionSort _ _).mem_iff.mp hr)
    exact h.role e he
  rw [OperatorStore.answer, mapM_operatorOf hroles, sorted_account]

section

variable {id : String} {r : Record} {role : Role}

lemma answer_get (h : find store.records id = some r) (hrole : parseRole r.role = some role) :
    store.answer scrypt (.get id) = .ok [⟨r.id, role⟩] := by
  simp [OperatorStore.answer, OperatorStore.lookup, h, OperatorStore.operatorOf, hrole, Except.map]

lemma answer_get_none (h : find store.records id = none) :
    store.answer scrypt (.get id) = .ok [] := by
  simp [OperatorStore.answer, OperatorStore.lookup, h, Except.map]

lemma answer_verify (h : find store.records id = some r) (hrole : parseRole r.role = some role)
    (p : String) : store.answer scrypt (.verify id p) =
      .ok (if scrypt p r.salt r.scrypt = r.hash then [⟨r.id, role⟩] else []) := by
  simp only [OperatorStore.answer, OperatorStore.check, h, OperatorStore.operatorOf, hrole]
  split <;> rfl

end

lemma newRecord_role (id : String) (role : Role) (passphrase salt : String) :
    parseRole (newRecord scrypt id role passphrase salt).role = some role := parseRole_name role

/-- An edit that no later answer shows gave an account the role it had, and the passphrases
that opened it. -/
lemma unseen_of_answer (h : WellKeyed store.records) (he : e.Admitted store.records)
    (hanswer : ∀ q, OperatorStore.answer scrypt
      { store with records := e.apply scrypt store.records } q = store.answer scrypt q) :
    e.Unseen scrypt store.records := by
  cases e with
  | remove id =>
    obtain ⟨r, hr⟩ := Option.isSome_iff_exists.mp he
    obtain ⟨-, role, hrole⟩ := h.role_of_find hr
    have hget := hanswer (.get id)
    rw [answer_get_none (find_remove_self ..), answer_get hr hrole] at hget
    cases hget
  | add id role passphrase replace salt =>
    have hnew : parseRole (newRecord scrypt id role passphrase salt).role = some role :=
      newRecord_role id role passphrase salt
    have hget := hanswer (.get id)
    rw [answer_get (find_assign_self ..) hnew] at hget
    cases hr : find store.records id with
    | none =>
      rw [answer_get_none hr] at hget
      cases hget
    | some r =>
      obtain ⟨-, role', hrole⟩ := h.role_of_find hr
      rw [answer_get hr hrole] at hget
      obtain rfl : role = role' := by
        simp only [Except.ok.injEq, List.cons.injEq, Operator.mk.injEq, and_true] at hget
        exact hget.2
      refine ⟨r, hr, hrole, fun p => ?_⟩
      have hverify := hanswer (.verify id p)
      rw [answer_verify (find_assign_self ..) hnew, answer_verify hr hrole] at hverify
      by_cases hold : scrypt p r.salt r.scrypt = r.hash <;>
        by_cases hopens : scrypt p salt {} = scrypt passphrase salt {} <;>
          simp_all [newRecord]

lemma answer_of_unseen (h : WellKeyed store.records) (hunseen : e.Unseen scrypt store.records)
    (q : Query) : OperatorStore.answer scrypt
      { store with records := e.apply scrypt store.records } q = store.answer scrypt q := by
  cases e with
  | remove id => exact hunseen.elim
  | add id role passphrase replace salt =>
    obtain ⟨r, hr, hrole, hopens⟩ := hunseen
    obtain ⟨hid, -⟩ := h.role_of_find hr
    have hnew : parseRole (newRecord scrypt id role passphrase salt).role = some role :=
      newRecord_role id role passphrase salt
    cases q with
    | get id' =>
      by_cases hne : id = id'
      · subst hne
        rw [answer_get (find_assign_self ..) hnew, answer_get hr hrole, hid]
        rfl
      · simp only [OperatorStore.answer, OperatorStore.lookup, Edit.apply, find_assign_ne _ _ hne]
    | verify id' p =>
      by_cases hne : id = id'
      · subst hne
        rw [answer_verify (find_assign_self ..) hnew, answer_verify hr hrole, hid]
        simp only [hopens]
        rfl
      · simp only [OperatorStore.answer, OperatorStore.check, Edit.apply, find_assign_ne _ _ hne]
    | all =>
      have hsame : account (newRecord scrypt id role passphrase salt) = account r := by
        rw [account, account, hnew, hrole, hid]
        rfl
      have happlied : WellKeyed (Edit.apply scrypt (.add id role passphrase replace salt)
        store.records) := h.applied
      refine (answer_all _ happlied).trans ?_
      rw [answer_all store h]
      simp only [Edit.apply, map_assign account hr hsame]

lemma answersAsFile_iff (hheld : m.store.refresh m.disk m.disk = .ok m.store)
    (hfile : ({} : OperatorStore).refresh m.disk m.disk = .ok store) :
    m.AnswersAsFile scrypt ↔ ∀ q, m.store.answer scrypt q = store.answer scrypt q := by
  have hask : ∀ q, m.ask scrypt q = (m, m.store.answer scrypt q) := by
    intro q
    simp only [Editor.ask, OperatorStore.refreshed, hheld]
  have hafter : ∀ qs, m.after scrypt qs = m := by
    intro qs
    induction qs with
    | nil => rfl
    | cons q qs ih =>
      rw [Editor.after, List.foldl_cons, hask]
      exact ih
  have hnew : ∀ q, (({ disk := m.disk } : Editor).ask scrypt q).2 = store.answer scrypt q := by
    intro q
    simp only [Editor.ask, OperatorStore.refreshed, hfile]
  unfold Editor.AnswersAsFile
  simp only [hafter, hask, hnew, forall_const]

/-- After a write that raised, the answers are the file's only if there is no file yet or the
edit is one that no answer shows. -/
lemma raised_iff (h : m.Current) (hstore : m.store.refresh m.disk m.disk = .ok store)
    (he : e.Admitted store.records) (stamp : Stamp) (w : WritePoint) :
    Atomic scrypt m e (m.edit scrypt e stamp (some w)) ↔
      m.disk = none ∨ e.Unseen scrypt store.records := by
  obtain ⟨-, hkeyed⟩ := h.records_eq hstore
  have hraised : ∃ tmp e', Editor.write { m with
      store := { store with records := e.apply scrypt store.records } } stamp (some w) =
        (⟨{ store with records := e.apply scrypt store.records }, m.disk, tmp⟩, .error e') := by
    cases w <;> exact ⟨_, _, rfl⟩
  obtain ⟨tmp, e', hraised⟩ := hraised
  rw [edit_admitted hstore he, hraised, Atomic]
  cases hdisk : m.disk with
  | none =>
    have hcurrent : Editor.Current
        ⟨{ store with records := e.apply scrypt store.records }, none, tmp⟩ := rfl
    simp [hcurrent.answersAsFile scrypt]
  | some file =>
    have hstamp : store.stamp = some file.stamp := by
      rw [hdisk] at hstore
      exact refresh_stamp hstore
    have hfile : ({} : OperatorStore).refresh (some file) (some file) = .ok store := by
      rw [← hdisk, ← h, hstore]
    have hheld : OperatorStore.refresh { store with records := e.apply scrypt store.records }
        (some file) (some file) = .ok { store with records := e.apply scrypt store.records } := by
      simp [OperatorStore.refresh, hstamp]
    simp only [true_and, reduceCtorEq, false_or]
    rw [answersAsFile_iff hheld hfile]
    exact ⟨unseen_of_answer hkeyed he, fun hunseen => answer_of_unseen hkeyed hunseen⟩

end Spec

lemma current_after (disk : Disk) (calls : List Call) :
    (calls.foldl (Editor.call scrypt) { disk := disk }).Current := by
  suffices hall : ∀ m : Editor, m.Current → (calls.foldl (Editor.call scrypt) m).Current by
    exact hall _ rfl
  induction calls with
  | nil => exact fun _ hm => hm
  | cons c calls ih =>
    intro m hm
    refine ih _ ?_
    cases c with
    | ask q => exact hm.ask q
    | edit e stamp => exact (edit_spec hm stamp fun _ _ _ => rfl).1

/-- After any calls whose writes did not raise, an edit is atomic exactly if its own write does
not raise, or there is no file yet, or the edit is not made, or no answer shows it. -/
theorem edit_atomic_iff (disk : Disk) (calls : List Call) (e : Edit) (stamp : Stamp)
    (fails : Option WritePoint) :
    let m := calls.foldl (Editor.call scrypt) { disk := disk }
    Atomic scrypt m e (m.edit scrypt e stamp fails) ↔ fails = none ∨
      ∀ file, m.disk = some file → ∀ accounts, file.load = .ok accounts →
        e.Admitted accounts → e.Unseen scrypt accounts := by
  intro m
  have hcurrent : m.Current := current_after scrypt disk calls
  cases fails with
  | none => simp [(edit_spec (e := e) hcurrent stamp fun _ _ _ => rfl).2]
  | some w =>
    simp only [reduceCtorEq, false_or]
    constructor
    · intro hatomic file hdisk accounts hload he
      have hstore : m.store.refresh m.disk m.disk = .ok ⟨accounts, some file.stamp⟩ := by
        rw [hcurrent, hdisk]
        exact new_refresh.mpr ⟨hload, rfl⟩
      refine ((raised_iff hcurrent hstore he stamp w).mp hatomic).resolve_left ?_
      rw [hdisk]
      exact nofun
    · intro hunseen
      by_cases hadmitted : ∃ store, m.store.refresh m.disk m.disk = .ok store ∧
          e.Admitted store.records
      · obtain ⟨store, hstore, he⟩ := hadmitted
        refine (raised_iff hcurrent hstore he stamp w).mpr ?_
        cases hdisk : m.disk with
        | none => exact .inl rfl
        | some file =>
          rw [hcurrent, hdisk] at hstore
          exact .inr (hunseen file hdisk _ (new_refresh.mp hstore).1 he)
      · push Not at hadmitted
        exact (edit_spec hcurrent stamp fun store hstore he =>
          absurd he (hadmitted store hstore)).2

end Edits

def anaOnly : File where
  stamp := ⟨100, 412⟩
  operators := some
    [{ id := "ana", role := "FLIGHT_COMMANDER", salt := "", hash := "pitch black sky" }]

def addBo : Edit := .add "bo" .viewer "long runway light" false "salt"

/-- Bo is not added to the file, but the store has it. -/
theorem addBo_kept : ¬ Atomic station.scrypt { disk := some anaOnly } addBo
    (Editor.edit station.scrypt { disk := some anaOnly } addBo ⟨101, 800⟩ (some .replace)) := by
  rintro ⟨-, hanswers⟩
  have hget : ((Editor.edit station.scrypt { disk := some anaOnly } addBo ⟨101, 800⟩
      (some .replace)).1.ask station.scrypt (.get "bo")).2.toOption = some [⟨"bo", .viewer⟩] := by
    decide +kernel
  have hfile : (Editor.ask station.scrypt { disk := (Editor.edit station.scrypt
      { disk := some anaOnly } addBo ⟨101, 800⟩ (some .replace)).1.disk } (.get "bo")).2.toOption =
        some [] := by
    decide +kernel
  have hsame := hanswers [] (.get "bo")
  rw [Editor.after, List.foldl_nil] at hsame
  rw [hsame, hfile] at hget
  cases hget

end Taramandal.Gcs.Auth

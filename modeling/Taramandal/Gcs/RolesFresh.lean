import Taramandal.Gcs.Auth
import Taramandal.Lib.History
import Taramandal.Lib.Run

/-! # Roles are read fresh

Logins, requests and logouts in any order, with the operators file replaced at any time,
also between the two looks of one request. A request is answered by the file as it is,
and by what the history says of its token, as long as no replacement keeps the stamp
that the store holds for other accounts. -/
namespace Taramandal.Gcs.Auth

open Lib.Dict Lib.History Lib.Run

/-! ## What the file lists -/

/-- The accounts of the file; one that is refused lists none. -/
def listed (disk : Disk) : Dict String Record :=
  match disk with
  | some file => file.load.toOption.getD []
  | none => []

def Lists (disk : Disk) (operator : Operator) : Prop :=
  ∃ r, find (listed disk) operator.id = some r ∧ parseRole r.role = some operator.role

/-- One record an id, under it, with a role there is. -/
structure WellKeyed (records : Dict String Record) : Prop where
  nodup : (records.map Prod.fst).Nodup
  keyed : ∀ e ∈ records, e.2.id = e.1
  role : ∀ e ∈ records, parseRole e.2.role ≠ none

namespace WellKeyed

variable {records : Dict String Record}

variable {r : Record}

lemma assigned (h : WellKeyed records) (hrole : parseRole r.role ≠ none) :
    WellKeyed (assign records r.id r) where
  nodup := nodup_assign h.nodup r.id r
  keyed e he := by
    rcases mem_assign he with rfl | he
    · rfl
    · exact h.keyed e he
  role e he := by
    rcases mem_assign he with rfl | he
    · exact hrole
    · exact h.role e he

lemma of_table {operators : List Record} (h : ∀ r ∈ operators, parseRole r.role ≠ none) :
    WellKeyed (table operators) := by
  suffices hfold : ∀ records, WellKeyed records →
      WellKeyed (operators.foldl (fun records r => assign records r.id r) records) by
    exact hfold [] ⟨List.nodup_nil, nofun, nofun⟩
  induction operators with
  | nil => exact fun records hrecords => hrecords
  | cons r rest ih =>
    intro records hrecords
    exact ih (fun r' hr' => h r' (List.mem_cons_of_mem _ hr')) _
      (hrecords.assigned (h r (List.mem_cons_self ..)))

lemma role_of_find (h : WellKeyed records) {id : String} (hr : find records id = some r) :
    r.id = id ∧ ∃ role, parseRole r.role = some role := by
  have hmem : (id, r) ∈ records := mem_of_find hr
  exact ⟨h.keyed (id, r) hmem, Option.ne_none_iff_exists'.mp (h.role (id, r) hmem)⟩

end WellKeyed

lemma load_ok {file : File} {accounts : Dict String Record} (h : file.load = .ok accounts) :
    WellKeyed accounts := by
  unfold File.load at h
  split at h
  next => cases h
  next =>
    split at h
    next => cases h
    next operators _ =>
      split at h
      next => cases h
      next hroles =>
        cases h
        exact .of_table fun r hr => by simpa using List.find?_eq_none.mp hroles r hr

lemma find_listed {disk : Disk} {id : String} {r : Record} (h : find (listed disk) id = some r) :
    r.id = id ∧ ∃ role, parseRole r.role = some role := by
  cases disk with
  | none => cases h
  | some file =>
    rw [listed] at h
    cases hload : file.load with
    | error e => rw [hload] at h; cases h
    | ok records =>
      rw [hload] at h
      exact (load_ok hload).role_of_find h

namespace OperatorStore

section

variable (store : OperatorStore)

/-- The stamp that the store holds is that of the disk only with the accounts of the
disk. -/
def Synced (disk : Disk) : Prop :=
  ∀ file ∈ disk, store.stamp = some file.stamp → store.records = listed disk

def seen (stat read : Disk) : Disk :=
  match stat with
  | none => none
  | some file => if store.stamp = some file.stamp then stat else read

lemma seen_mem (stat read : Disk) : store.seen stat read = stat ∨ store.seen stat read = read := by
  unfold seen
  split
  next => exact .inl rfl
  next => split <;> simp

end

/-- A refresh that succeeds holds what the disk lists, and one that raises left a disk
that lists nothing. -/
lemma refresh_spec {store : OperatorStore} {stat read : Disk} (hstat : store.Synced stat)
    (hread : store.Synced read) :
    match store.refresh stat read with
    | .ok store' => store'.records = listed (store.seen stat read) ∧ store'.Synced read
    | .error _ => listed (store.seen stat read) = [] := by
  unfold refresh seen
  cases stat with
  | none => exact ⟨rfl, fun _ _ h => by cases h⟩
  | some file =>
    by_cases hstamp : store.stamp = some file.stamp
    · simp only [if_pos hstamp]
      exact ⟨hstat file rfl hstamp, hread⟩
    · simp only [if_neg hstamp]
      cases read with
      | none => rfl
      | some text =>
        cases hload : text.load with
        | error e => simp [Except.map, listed, hload, Except.toOption]
        | ok records =>
          have hlisted : listed (some text) = records := by simp [listed, hload, Except.toOption]
          simp only [hload, Except.map]
          exact ⟨hlisted.symm, fun _ _ _ => hlisted.symm⟩

variable {store : OperatorStore} {stat read : Disk}

lemma refreshed_synced {α : Type} (hstat : store.Synced stat) (hread : store.Synced read)
    (answer : OperatorStore → Except Raised α) : (store.refreshed stat read answer).1.Synced read := by
  have hspec := refresh_spec hstat hread
  unfold refreshed
  split
  next => exact hread
  next hrefresh => rw [hrefresh] at hspec; exact hspec.2

lemma get_eq_some_iff (hstat : store.Synced stat) (hread : store.Synced read) {id : String}
    {operator : Operator} : (store.get stat read id).2 = .ok (some operator) ↔
      operator.id = id ∧ Lists (store.seen stat read) operator := by
  have hspec := refresh_spec hstat hread
  unfold get refreshed Lists
  cases hrefresh : store.refresh stat read with
  | error e =>
    rw [hrefresh] at hspec
    simp [hspec, find]
  | ok store' =>
    rw [hrefresh] at hspec
    simp only [lookup, hspec.1]
    cases hfind : find (listed (store.seen stat read)) id with
    | none =>
      simp only [reduceCtorEq, Except.ok.injEq, false_iff, not_and, not_exists]
      rintro rfl r hr
      rw [hfind] at hr
      cases hr
    | some r =>
      obtain ⟨hid, role, hrole⟩ := find_listed hfind
      simp only [operatorOf, hrole, Except.map, Except.ok.injEq, Option.some.injEq]
      constructor
      · rintro rfl
        exact ⟨hid, r, by rw [hid, hfind], hrole⟩
      · rintro ⟨rfl, r', hr', hrole'⟩
        obtain rfl := Option.some.inj (hfind.symm.trans hr')
        obtain rfl := Option.some.inj (hrole.symm.trans hrole')
        cases operator
        simp [hid]

end OperatorStore

/-! ## What the history says of a token -/

inductive Event where
  | issued (token operatorId : String) (since : ℚ)
  | revoked (token : String)
  | answered (token : String) (answer : Option Operator)
  deriving DecidableEq

/-- After such an event a session of the token is another one, or none. -/
def Event.Concerns (token : String) : Event → Prop
  | .issued token' _ _ => token' = token
  | .revoked token' => token' = token
  | .answered .. => False

def IssuedAt (history : List Event) (token operatorId : String) (since : ℚ) : Prop :=
  Since (· = .issued token operatorId since) (Event.Concerns token) history

/-- The token was issued by a login of the operator, and has not been revoked or expired. -/
def Live (cfg : AuthConfig) (history : List Event) (token operatorId : String) (now : ℚ) : Prop :=
  ∃ since, IssuedAt history token operatorId since ∧ now < since + cfg.ttlS

/-- The table of sessions says what the history says. -/
structure Tracks (cfg : AuthConfig) (history : List Event) (sessions : SessionStore) (now : ℚ) :
    Prop where
  held : ∀ token id since, IssuedAt history token id since → now < since + cfg.ttlS →
    find sessions (cfg.hash.key token) = some ⟨id, since, since + cfg.ttlS⟩
  issued : ∀ key session, find sessions key = some session → ∃ token,
    key = cfg.hash.key token ∧ session.expiresAt = session.issuedAt + cfg.ttlS ∧
      IssuedAt history token session.operatorId session.issuedAt

def Keeps (now : ℚ) (sessions sessions' : SessionStore) : Prop :=
  ∀ key, find sessions' key = find sessions key ∨
    find sessions' key = none ∧ ∀ s, find sessions key = some s → s.expiresAt ≤ now

namespace Tracks

variable {cfg : AuthConfig} {history : List Event} {sessions sessions' : SessionStore} {now : ℚ}

section

variable (h : Tracks cfg history sessions now)
include h

lemma later {now' : ℚ} (hle : now ≤ now') : Tracks cfg history sessions now' where
  held token id since hissued hlive := h.held token id since hissued (hle.trans_lt hlive)
  issued := h.issued

lemma keeps (hkeeps : Keeps now sessions sessions') : Tracks cfg history sessions' now where
  held token id since hissued hlive := by
    have hfind := h.held token id since hissued hlive
    rcases hkeeps (cfg.hash.key token) with he | ⟨-, hgone⟩
    · rw [he, hfind]
    · exact absurd hlive (not_lt.mpr (hgone _ hfind))
  issued key session hfind := by
    rcases hkeeps key with he | ⟨he, -⟩
    · exact h.issued key session (he ▸ hfind)
    · rw [he] at hfind; cases hfind

lemma answered (token : String) (answer : Option Operator) :
    Tracks cfg (history ++ [.answered token answer]) sessions now := by
  have hiff : ∀ token' id since, IssuedAt (history ++ [.answered token answer]) token' id since ↔
      IssuedAt history token' id since := by
    intro token' id since
    simp [IssuedAt, since_snoc, Event.Concerns]
  refine ⟨fun token' id since hissued => h.held token' id since ((hiff ..).mp hissued), ?_⟩
  intro key session hfind
  obtain ⟨token', hkey, hexpires, hissued⟩ := h.issued key session hfind
  exact ⟨token', hkey, hexpires, (hiff ..).mpr hissued⟩

lemma revoked (token : String) :
    Tracks cfg (history ++ [.revoked token]) (sessions.revoke cfg.hash token) now := by
  have hiff : ∀ token' id since, IssuedAt (history ++ [.revoked token]) token' id since ↔
      IssuedAt history token' id since ∧ token ≠ token' := by
    intro token' id since
    simp [IssuedAt, since_snoc, Event.Concerns]
  refine ⟨fun token' id since hissued hlive => ?_, fun key session hfind => ?_⟩
  · obtain ⟨hissued, hne⟩ := (hiff ..).mp hissued
    rw [SessionStore.revoke, find_remove_ne _ fun he => hne (cfg.hash.injective he)]
    exact h.held token' id since hissued hlive
  · obtain ⟨hne, hfind⟩ := find_remove_some hfind
    obtain ⟨token', rfl, hexpires, hissued⟩ := h.issued key session hfind
    exact ⟨token', rfl, hexpires, (hiff ..).mpr ⟨hissued, fun he => hne (congrArg _ he.symm)⟩⟩

end

lemma keeps_sweep (sessions : SessionStore) (now : ℚ) :
    Keeps now sessions (sessions.sweep now) := by
  intro key
  rw [SessionStore.sweep, find_removeAll]
  split
  next hmem =>
    obtain ⟨e, he, rfl⟩ := List.mem_map.mp hmem
    obtain ⟨hitem, hexpired⟩ := List.mem_filter.mp he
    refine .inr ⟨rfl, fun s hs => ?_⟩
    cases (mem_items.mp hitem).symm.trans hs
    exact of_decide_eq_true hexpired
  next => exact .inl rfl

lemma keeps_resolve (sessions : SessionStore) (hash : TokenHash) (token : String) (now : ℚ) :
    Keeps now sessions (sessions.resolve hash token now).1 := by
  intro key
  unfold SessionStore.resolve
  split
  next => exact .inl rfl
  next s hs =>
    split
    next hexpired =>
      by_cases hkey : hash.key token = key
      · rw [← hkey, find_remove_self, hs]
        exact .inr ⟨rfl, fun s' hs' => Option.some.inj hs' ▸ hexpired⟩
      · exact .inl (find_remove_ne _ hkey)
    next => exact .inl rfl

lemma issue (h : Tracks cfg history sessions now) (operator : Operator) (token : String) :
    Tracks cfg (history ++ [.issued token operator.id now])
      (sessions.issue cfg.hash cfg.ttlS operator token now) now := by
  have hswept := h.keeps (keeps_sweep sessions now)
  have hiff : ∀ token' id since,
      IssuedAt (history ++ [.issued token operator.id now]) token' id since ↔
        (token = token' ∧ operator.id = id ∧ now = since) ∨
          IssuedAt history token' id since ∧ token ≠ token' := by
    intro token' id since
    simp [IssuedAt, since_snoc, Event.Concerns]
  refine ⟨fun token' id since hissued hlive => ?_, fun key session hfind => ?_⟩
  · rcases (hiff ..).mp hissued with ⟨rfl, rfl, rfl⟩ | ⟨hissued, hne⟩
    · exact find_assign_self ..
    · rw [SessionStore.issue, find_assign_ne _ _ fun he => hne (cfg.hash.injective he)]
      exact hswept.held token' id since hissued hlive
  · by_cases hkey : cfg.hash.key token = key
    · rw [← hkey, SessionStore.issue, find_assign_self] at hfind
      cases hfind
      exact ⟨token, hkey.symm, rfl, (hiff ..).mpr (.inl ⟨rfl, rfl, rfl⟩)⟩
    · rw [SessionStore.issue, find_assign_ne _ _ hkey] at hfind
      obtain ⟨token', rfl, hexpires, hissued⟩ := hswept.issued key session hfind
      exact ⟨token', rfl, hexpires, (hiff ..).mpr (.inr ⟨hissued, fun he => hkey (congrArg _ he)⟩)⟩

lemma resolve_iff (h : Tracks cfg history sessions now) {token id : String} :
    (∃ s, (sessions.resolve cfg.hash token now).2 = some s ∧ s.operatorId = id) ↔
      Live cfg history token id now := by
  unfold SessionStore.resolve
  constructor
  · rintro ⟨s, hs, rfl⟩
    split at hs
    next => cases hs
    next s' hfind =>
      split at hs
      next => cases hs
      next hunexpired =>
        cases hs
        obtain ⟨token', hkey, hexpires, hissued⟩ := h.issued _ s hfind
        obtain rfl := cfg.hash.injective hkey
        exact ⟨s.issuedAt, hissued, hexpires ▸ not_le.mp hunexpired⟩
  · rintro ⟨since, hissued, hlive⟩
    rw [h.held token id since hissued hlive]
    simp only [if_neg (not_le.mpr hlive)]
    exact ⟨_, rfl, rfl⟩

end Tracks

def answers (token : String) : Except AuthError Operator → List Event
  | .ok operator => [.answered token (some operator)]
  | .error e => (if e = operatorGone then [.revoked token] else []) ++ [.answered token none]

section

variable {cfg : AuthConfig} {history : List Event} {m : AuthService} {now : ℚ} {stat read : Disk}

section

variable (h : Tracks cfg history m.sessions now) (hstat : m.store.Synced stat)
  (hread : m.store.Synced read)
include h hstat hread

/-- An authentication keeps the table and the store true, and gives the operator exactly if
the token is live and the disk it saw lists that operator. -/
lemma authenticate_spec (hnamed : ∀ id, ¬ Live cfg history "" id now) (token : String) :
    let r := m.authenticate cfg token now stat read
    r.1.store.Synced read ∧ Tracks cfg (history ++ answers token r.2) r.1.sessions now ∧
      ∀ operator, r.2 = .ok operator ↔
        Live cfg history token operator.id now ∧ Lists (m.store.seen stat read) operator := by
  have hkeeps := h.keeps (Tracks.keeps_resolve m.sessions cfg.hash token now)
  have hlive : ∀ id, (∃ s, (m.sessions.resolve cfg.hash token now).2 = some s ∧
      s.operatorId = id) ↔ Live cfg history token id now := fun _ => h.resolve_iff
  generalize hresolve : m.sessions.resolve cfg.hash token now = resolved at hkeeps hlive
  obtain ⟨sessions, found⟩ := resolved
  unfold AuthService.authenticate
  by_cases htoken : token = ""
  · subst htoken
    rw [if_pos rfl]
    exact ⟨hread, h.answered "" none, fun operator => by simp [hnamed]⟩
  rw [if_neg htoken, hresolve]
  cases found with
  | none =>
    refine ⟨hread, hkeeps.answered token none, fun operator => ?_⟩
    simp only [reduceCtorEq, false_iff, not_and]
    intro hl
    obtain ⟨s, hs, -⟩ := (hlive _).mpr hl
    cases hs
  | some session =>
    have hget : ∀ operator, (m.store.get stat read session.operatorId).2 = .ok (some operator) ↔
        operator.id = session.operatorId ∧ Lists (m.store.seen stat read) operator :=
      fun _ => OperatorStore.get_eq_some_iff hstat hread
    have hsynced : (m.store.get stat read session.operatorId).1.Synced read :=
      OperatorStore.refreshed_synced hstat hread _
    have hiff : ∀ operator, Live cfg history token operator.id now ∧
        Lists (m.store.seen stat read) operator ↔
          (m.store.get stat read session.operatorId).2 = .ok (some operator) := by
      intro operator
      rw [hget, ← hlive]
      simp [eq_comm]
    simp only [hiff]
    generalize m.store.get stat read session.operatorId = got at hsynced
    obtain ⟨store, result⟩ := got
    cases result with
    | error e =>
      exact ⟨hsynced, hkeeps.answered token none, by simp⟩
    | ok found =>
      cases found with
      | none =>
        refine ⟨hsynced, ?_, by simp⟩
        have hrevoked := (hkeeps.revoked token).answered token none
        simpa [answers] using hrevoked
      | some operator => exact ⟨hsynced, hkeeps.answered token (some operator), by simp⟩

lemma logout_spec (hnamed : ∀ id, ¬ Live cfg history "" id now) (token : String) :
    let r := m.logout cfg token now stat read
    r.1.store.Synced read ∧ Tracks cfg
      (history ++ (answers token r.2 ++ if r.2.isOk then [.revoked token] else []))
      r.1.sessions now ∧ ∀ operator, r.2 = .ok operator ↔
          Live cfg history token operator.id now ∧ Lists (m.store.seen stat read) operator := by
  obtain ⟨hsynced, htracks, hiff⟩ := authenticate_spec h hstat hread hnamed token
  unfold AuthService.logout
  generalize m.authenticate cfg token now stat read = r at hsynced htracks hiff
  obtain ⟨m', result⟩ := r
  cases result with
  | ok operator =>
    have hrevoked := htracks.revoked token
    refine ⟨hsynced, ?_, hiff⟩
    simpa [Except.isOk, Except.toBool] using hrevoked
  | error e =>
    refine ⟨hsynced, ?_, hiff⟩
    simpa [Except.isOk, Except.toBool] using htracks

lemma login_spec (operatorId passphrase origin token : String) (asked : ℚ) :
    let r := m.login cfg operatorId passphrase origin token asked now stat read
    r.1.store.Synced read ∧ Tracks cfg (history ++ match r.2 with
      | .ok (_, operator) => [.issued token operator.id now]
      | .error _ => []) r.1.sessions now := by
  unfold AuthService.login
  split
  next => exact ⟨hread, by simpa using h⟩
  next throttle wait _ =>
    split
    next => exact ⟨hread, by simpa using h⟩
    next =>
      have hsynced : (m.store.verify cfg.scrypt stat read operatorId passphrase).1.Synced read :=
        OperatorStore.refreshed_synced hstat hread _
      generalize m.store.verify cfg.scrypt stat read operatorId passphrase = verified at hsynced
      obtain ⟨store, result⟩ := verified
      cases result with
      | error e => exact ⟨hsynced, by simpa using h⟩
      | ok found =>
        cases found with
        | none => exact ⟨hsynced, by simpa using h⟩
        | some operator => exact ⟨hsynced, h.issue operator token⟩

end

end

/-! ## Runs -/

inductive Label where
  /-- The operators file is replaced, or removed. -/
  | replace (disk : Disk)
  /-- A login, asked at one reading of the clock and answered at another, of a token that
  is drawn if it succeeds. -/
  | login (operatorId passphrase origin token : String) (asked answered : ℚ) (race : Option Disk)
  | authenticate (token : String) (now : ℚ) (race : Option Disk)
  | logout (token : String) (now : ℚ) (race : Option Disk)

/-- What is on the disk after the label, if it replaces that. -/
def Label.written : Label → Option Disk
  | .replace disk => some disk
  | .login _ _ _ _ _ _ race => race
  | .authenticate _ _ race => race
  | .logout _ _ race => race

structure Station where
  auth : AuthService := {}
  disk : Disk
  clock : ℚ

def Station.step (cfg : AuthConfig) : System Station Label Event
  | m, .replace disk => some ({ m with disk := disk }, [])
  | m, .login operatorId passphrase origin token asked answered race =>
    if asked < m.clock ∨ answered < asked ∨ token = "" then none
    else
      let disk := race.getD m.disk
      let (auth, result) :=
        m.auth.login cfg operatorId passphrase origin token asked answered m.disk disk
      some (⟨auth, disk, answered⟩,
        match result with
        | .ok (_, operator) => [.issued token operator.id answered]
        | .error _ => [])
  | m, .authenticate token now race =>
    if now < m.clock then none
    else
      let disk := race.getD m.disk
      let (auth, result) := m.auth.authenticate cfg token now m.disk disk
      some (⟨auth, disk, now⟩, answers token result)
  | m, .logout token now race =>
    if now < m.clock then none
    else
      let disk := race.getD m.disk
      let (auth, result) := m.auth.logout cfg token now m.disk disk
      some (⟨auth, disk, now⟩, answers token result ++ if result.isOk then [.revoked token] else [])

/-- A replacement does not keep the stamp that the store holds for other accounts. -/
def Distinguishable (m : Station) (l : Label) : Prop :=
  ∀ disk ∈ l.written, m.auth.store.Synced disk

variable {token : String} {result : Except AuthError Operator}

lemma issued_notMem_answers {token' id : String} {since : ℚ} :
    Event.issued token' id since ∉ answers token result := by
  cases result with
  | ok operator => simp [answers]
  | error e => by_cases he : e = operatorGone <;> simp [answers, he]

/-- What holds after every step: the store is true to the disk, the table to the history,
and no token is empty. -/
structure Sound (cfg : AuthConfig) (history : List Event) (m : Station) : Prop where
  synced : m.auth.store.Synced m.disk
  tracks : Tracks cfg history m.auth.sessions m.clock
  named : ∀ id since, Event.issued "" id since ∉ history

/-- A moment of the step whose disk, with the history, gives the answers. -/
def Fresh (cfg : AuthConfig) (history : List Event) (m m' : Station) (os : List Event) : Label → Prop
  | .authenticate token now _ | .logout token now _ =>
    ∃ disk, (disk = m.disk ∨ disk = m'.disk) ∧
      ∀ operator, Event.answered token (some operator) ∈ os ↔
        Live cfg history token operator.id now ∧ Lists disk operator
  | _ => True

lemma answered_mem_answers
    {operator : Operator} : Event.answered token (some operator) ∈ answers token result ↔
      result = .ok operator := by
  cases result with
  | ok operator' => simp [answers, eq_comm]
  | error e => by_cases he : e = operatorGone <;> simp [answers, he]

lemma Sound.not_live {cfg : AuthConfig} {history : List Event} {m : Station}
    (h : Sound cfg history m) (id : String) (now : ℚ) : ¬ Live cfg history "" id now := by
  rintro ⟨since, ⟨pre, x, post, rfl, rfl, -⟩, -⟩
  exact h.named id since (by simp)

lemma Sound.step {cfg : AuthConfig} {history : List Event} {m m' : Station} {l : Label}
    {os : List Event} (h : Sound cfg history m) (hd : Distinguishable m l)
    (hs : Station.step cfg m l = some (m', os)) :
    Sound cfg (history ++ os) m' ∧ Fresh cfg history m m' os l := by
  have hrace : ∀ race : Option Disk, l.written = race → m.auth.store.Synced (race.getD m.disk) := by
    rintro race rfl
    cases hw : l.written with
    | none => exact h.synced
    | some disk => exact hd disk hw
  cases l with
  | replace disk =>
    cases hs
    exact ⟨⟨hrace (some disk) rfl, by simpa using h.tracks, by simpa using h.named⟩, trivial⟩
  | login operatorId passphrase origin token asked answered race =>
    simp only [Station.step] at hs
    split at hs
    next => cases hs
    next hclock =>
      push Not at hclock
      obtain ⟨hasked, hanswered, htoken⟩ := hclock
      cases hs
      obtain ⟨hsynced, htracks⟩ := login_spec (h.tracks.later (hasked.trans hanswered)) h.synced
        (hrace race rfl) operatorId passphrase origin token asked
      refine ⟨⟨hsynced, htracks, fun id since => ?_⟩, trivial⟩
      rw [List.mem_append, not_or]
      refine ⟨h.named id since, ?_⟩
      split <;> simp [Ne.symm htoken]
  | authenticate token now race =>
    simp only [Station.step] at hs
    split at hs
    next => cases hs
    next hclock =>
      cases hs
      obtain ⟨hsynced, htracks, hiff⟩ := authenticate_spec (h.tracks.later (not_lt.mp hclock))
        h.synced (hrace race rfl) (fun id => h.not_live id now) token
      refine ⟨⟨hsynced, htracks, fun id since => ?_⟩, _,
        m.auth.store.seen_mem m.disk (race.getD m.disk), fun operator => ?_⟩
      · rw [List.mem_append, not_or]
        exact ⟨h.named id since, issued_notMem_answers⟩
      · rw [answered_mem_answers, hiff]
  | logout token now race =>
    simp only [Station.step] at hs
    split at hs
    next => cases hs
    next hclock =>
      cases hs
      obtain ⟨hsynced, htracks, hiff⟩ := logout_spec (h.tracks.later (not_lt.mp hclock))
        h.synced (hrace race rfl) (fun id => h.not_live id now) token
      have hrevoked : ∀ e ∈ (if (m.auth.logout cfg token now m.disk (race.getD m.disk)).2.isOk then
          [Event.revoked token] else []), e = .revoked token := by
        intro e he
        split at he <;> simp_all
      refine ⟨⟨hsynced, htracks, fun id since => ?_⟩, _,
        m.auth.store.seen_mem m.disk (race.getD m.disk), fun operator => ?_⟩
      · rw [List.mem_append, List.mem_append, not_or, not_or]
        exact ⟨h.named id since, issued_notMem_answers, fun he => by cases hrevoked _ he⟩
      · rw [List.mem_append, answered_mem_answers, ← hiff]
        constructor
        · rintro (he | he)
          · exact he
          · cases hrevoked _ he
        · exact Or.inl

/-- In a run whose replacements are distinguishable a request gives an operator exactly if
its token is live and the file, as it was during the request, lists that operator. -/
theorem roles_fresh (cfg : AuthConfig) {disk : Disk} {clock : ℚ} {ls : List Label} {m : Station}
    {os : List Event} (hr : run (Station.step cfg) { disk := disk, clock := clock } ls = some (m, os))
    (ha : Along (Station.step cfg) Distinguishable { disk := disk, clock := clock } ls)
    {l : Label} {m' : Station} {os' : List Event} (hd : Distinguishable m l)
    (hs : Station.step cfg m l = some (m', os')) : Fresh cfg os m m' os' l := by
  have hinit : Sound cfg [] { disk := disk, clock := clock } :=
    { synced := nofun
      tracks := ⟨fun _ _ _ h => (not_since_nil _ _ h).elim, nofun⟩
      named := by simp }
  have hsound : Sound cfg os m := run_history (I := fun _ os m => Sound cfg os m) hinit
    (fun ls os m l m' os' _ h hd hs => (h.step hd hs).1) ha hr
  exact (hsound.step hd hs).2

instance (store : OperatorStore) (disk : Disk) : Decidable (store.Synced disk) :=
  inferInstanceAs (Decidable (∀ file ∈ disk, _))

instance (m : Station) (l : Label) : Decidable (Distinguishable m l) :=
  inferInstanceAs (Decidable (∀ disk ∈ l.written, _))

def station : AuthConfig where
  hash := ⟨id, Function.injective_id⟩
  scrypt passphrase _ _ := passphrase

def crew (mtime : ℚ) (ana bo : Role) : File where
  stamp := ⟨mtime, 412⟩
  operators := some [{ id := "ana", role := ana.name, salt := "", hash := "pitch black sky" },
    { id := "bo", role := bo.name, salt := "", hash := "long runway light" }]

def anaCommands : Station where
  disk := some (crew 100 .flightCommander .viewer)
  clock := 100

def swapRun (mtime : ℚ) : List Label :=
  [.login "ana" "pitch black sky" "10.0.0.7" "token" 100 100 none,
    .replace (some (crew mtime .viewer .flightCommander))]

/-- With a later time on the file the next request is a viewer's. -/
theorem roles_fresh_swap : ∃ m os m' os', run (Station.step station) anaCommands (swapRun 101) =
      some (m, os) ∧ Station.step station m (.authenticate "token" 102 none) = some (m', os') ∧
      os' = [.answered "token" (some ⟨"ana", .viewer⟩)] ∧
      Fresh station os m m' os' (.authenticate "token" 102 none) := by
  obtain ⟨⟨m, os⟩, hr, ⟨m', os'⟩, hs, hanswer⟩ :
      ∃ r ∈ run (Station.step station) anaCommands (swapRun 101), ∃ r' ∈ Station.step station r.1
      (.authenticate "token" 102 none), r'.2 = [.answered "token" (some ⟨"ana", .viewer⟩)] := by
    decide +kernel
  have ha : Along (Station.step station) Distinguishable anaCommands (swapRun 101) := by
    decide +kernel
  exact ⟨m, os, m', os', hr, hs, hanswer, roles_fresh station hr ha nofun hs⟩

/-- Within the same tick it still is the commander's that Ana was. -/
theorem swap_unseen : ∃ m os m' os', run (Station.step station) anaCommands (swapRun 100) =
      some (m, os) ∧ Station.step station m (.authenticate "token" 102 none) = some (m', os') ∧
      ¬ Fresh station os m m' os' (.authenticate "token" 102 none) := by
  obtain ⟨⟨m, os⟩, hr, ⟨m', os'⟩, hs, (hanswer : os' = _), hdisk, hdisk'⟩ :
      ∃ r ∈ run (Station.step station) anaCommands (swapRun 100), ∃ r' ∈ Station.step station r.1
      (.authenticate "token" 102 none),
      r'.2 = [.answered "token" (some ⟨"ana", .flightCommander⟩)] ∧
      r.1.disk = some (crew 100 .viewer .flightCommander) ∧
      r'.1.disk = some (crew 100 .viewer .flightCommander) := by decide +kernel
  refine ⟨m, os, m', os', hr, hs, fun hfresh => ?_⟩
  obtain ⟨disk, hmoment, hiff⟩ := hfresh
  obtain rfl : disk = some (crew 100 .viewer .flightCommander) := by
    rcases hmoment with rfl | rfl
    · exact hdisk
    · exact hdisk'
  obtain ⟨-, r, hfind, hrole⟩ := (hiff ⟨"ana", .flightCommander⟩).mp (by simp [hanswer])
  have hviewer : (find (listed (some (crew 100 .viewer .flightCommander))) "ana").map
      (fun r => parseRole r.role) = some (some .viewer) := by decide +kernel
  rw [hfind, Option.map_some, hrole] at hviewer
  cases hviewer

end Taramandal.Gcs.Auth
